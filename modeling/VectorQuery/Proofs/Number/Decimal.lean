import VectorQuery.Proofs.Number.Rounding
import VectorQuery.Number.Shortest

/-! Reading decimals. What a decimal is rounded to depends on its value alone, and the shortest decimal of
a double is rounded to the double. -/
namespace VectorQuery.Double

/-- The ratio `n * 10^e` as a numerator and a denominator. -/
def decimalRatio (n : Nat) (e : Int) : Nat × Nat :=
  if 0 ≤ e then (n * 10 ^ e.toNat, 1) else (n, 10 ^ (-e).toNat)

lemma decimalRatio_pos {n : Nat} (hn : 0 < n) (e : Int) :
    0 < (decimalRatio n e).1 ∧ 0 < (decimalRatio n e).2 := by
  have hpow (k : Nat) : 0 < 10 ^ k := Nat.pow_pos (by decide)
  unfold decimalRatio
  split
  · exact ⟨Nat.mul_pos hn (hpow _), Nat.one_pos⟩
  · exact ⟨hn, hpow _⟩

/-- The ratio, with the power of ten as a quotient of any two powers. -/
lemma decimalRatio_cross {e : Int} {p q : Nat} (he : e = p - q) (n : Nat) :
    (decimalRatio n e).1 * 10 ^ q = n * 10 ^ p * (decimalRatio n e).2 := by
  unfold decimalRatio
  split
  · obtain ⟨j, rfl⟩ : ∃ j : Nat, e = j := ⟨e.toNat, by omega⟩
    obtain rfl : p = j + q := by omega
    simp only [Int.toNat_natCast, Nat.pow_add]
    ac_rfl
  · obtain ⟨j, rfl⟩ : ∃ j : Nat, e = -(j : Int) := ⟨(-e).toNat, by omega⟩
    obtain rfl : q = j + p := by omega
    simp only [Int.neg_neg, Int.toNat_natCast, Nat.pow_add]
    ac_rfl

lemma two_pow_le_ten_pow {p q : Nat} (h : p ≤ 3 * q) : 2 ^ p ≤ 10 ^ q :=
  calc 2 ^ p ≤ 2 ^ (3 * q) := Nat.pow_le_pow_right (by decide) h
    _ = (2 ^ 3) ^ q := Nat.pow_mul 2 3 q
    _ ≤ 10 ^ q := Nat.pow_le_pow_left (by decide) q

lemma two_mul_lt_ten_pow {n i q : Nat} (h : n.log2 + 1 + (i + 1) ≤ 3 * q) :
    2 * (n * 2 ^ i) < 10 ^ q :=
  calc 2 * (n * 2 ^ i) = n * 2 ^ (i + 1) := by rw [Nat.pow_succ]; ac_rfl
    _ < 2 ^ (n.log2 + 1) * 2 ^ (i + 1) :=
      Nat.mul_lt_mul_of_pos_right Nat.lt_log2_self (Nat.two_pow_pos _)
    _ = 2 ^ (n.log2 + 1 + (i + 1)) := (Nat.pow_add 2 _ _).symm
    _ ≤ 10 ^ q := two_pow_le_ten_pow h

/-- Exponents that decide alone decide as rounding would. -/
lemma ofDecimal_eq (negative : Bool) {n : Nat} (hn : 0 < n) (e : Int) : ofDecimal negative n e =
    ofRatio negative (decimalRatio n e).1 (decimalRatio n e).2 := by
  obtain ⟨hnum, hden⟩ := decimalRatio_pos hn e
  have hn₀ : n ≠ 0 := Nat.pos_iff_ne_zero.1 hn
  rw [ofDecimal]
  by_cases hsmall : e < -(400 + (n.log2 : Int))
  · rw [if_pos (.inr hsmall)]
    symm
    refine ofRatio_of_small negative hnum hden ?_
    obtain ⟨j, rfl⟩ : ∃ j : Nat, e = -((j + (n.log2 + 1) + 400 : Nat) : Int) :=
      ⟨(-e - (401 + n.log2)).toNat, by omega⟩
    rw [decimalRatio, if_neg (by omega)]
    simp only [Int.neg_neg, Int.toNat_natCast]
    exact two_mul_lt_ten_pow (i := 1074) (q := j + (n.log2 + 1) + 400) (by omega)
  rw [if_neg fun h => h.elim hn₀ hsmall]
  by_cases hlarge : 400 < e
  · rw [if_pos hlarge]
    symm
    refine ofRatio_of_large negative hnum hden ?_
    rw [decimalRatio, if_pos (by omega), Nat.one_mul]
    calc 2 ^ 1024 ≤ 10 ^ e.toNat := two_pow_le_ten_pow (by omega)
      _ ≤ n * 10 ^ e.toNat := Nat.le_mul_of_pos_left _ hn
  rw [if_neg hlarge, decimalRatio]
  split <;> rfl

/-- Zeros at the end of the digits are as good as a higher exponent. -/
theorem ofDecimal_mul_pow (negative : Bool) (n k : Nat) (e : Int) :
    ofDecimal negative (n * 10 ^ k) e = ofDecimal negative n (e + k) := by
  rcases Nat.eq_zero_or_pos n with rfl | hn
  · rw [Nat.zero_mul, ofDecimal, if_pos (.inl rfl), ofDecimal, if_pos (.inl rfl)]
  have hpow (k : Nat) : 0 < 10 ^ k := Nat.pow_pos (by decide)
  have hnk : 0 < n * 10 ^ k := Nat.mul_pos hn (hpow k)
  obtain ⟨hnum, hden⟩ := decimalRatio_pos hnk e
  obtain ⟨hnum', hden'⟩ := decimalRatio_pos hn (e + k)
  rw [ofDecimal_eq negative hnk, ofDecimal_eq negative hn]
  refine ofRatio_congr negative ?_ hnum hden hnum' hden'
  obtain ⟨p, q, he⟩ : ∃ p q : Nat, e = p - q := ⟨e.toNat, (-e).toNat, by omega⟩
  have hcross := decimalRatio_cross he (n * 10 ^ k)
  have hcross' := decimalRatio_cross (e := e + k) (p := p + k) (q := q) (by omega) n
  refine Nat.eq_of_mul_eq_mul_right (hpow q) ?_
  rw [Nat.mul_right_comm, hcross, Nat.mul_right_comm (decimalRatio n (e + k)).1, hcross',
    Nat.pow_add]
  ac_rfl

/-! ### Signs -/

lemma ofMantissa_true (m : Nat) (e : Int) : ofMantissa true m e = (ofMantissa false m e).neg := by
  unfold ofMantissa
  split
  split <;> rfl

lemma ofRatio_true (n d : Nat) : ofRatio true n d = (ofRatio false n d).neg := by
  rw [ofRatio_eq, ofRatio_eq, ofMantissa_true]

lemma ofDecimal_true (n : Nat) (e : Int) : ofDecimal true n e = (ofDecimal false n e).neg := by
  unfold ofDecimal
  split
  · rfl
  split
  · rfl
  split <;> exact ofRatio_true _ _

lemma ofDecimal_of_false {m n : Nat} {e f : Int} {h : IsNormal m e}
    (hd : ofDecimal false n f = .finite false m e h) (negative : Bool) :
    ofDecimal negative n f = .finite negative m e h := by
  cases negative with
  | false => exact hd
  | true => rw [ofDecimal_true, hd]; rfl

/-! ### The shortest decimal -/

lemma ofDecimal_exact {m : Nat} {e : Int} (hm : 0 < m) (h : IsNormal m e) :
    (0 ≤ e → ofDecimal false (m * Nat.pow 2 e.toNat) 0 = .finite false m e h) ∧
      (e < 0 → ofDecimal false (m * Nat.pow 5 (-e).toNat) e = .finite false m e h) := by
  constructor
  · intro he
    obtain ⟨j, rfl⟩ : ∃ j : Nat, e = (j : Int) - (0 : Nat) := ⟨e.toNat, by omega⟩
    have hratio : decimalRatio (m * 2 ^ j) 0 = (m * 2 ^ j, 2 ^ 0) := by simp [decimalRatio]
    simp only [Nat.pow_eq, Int.natCast_zero, Int.sub_zero, Int.toNat_natCast]
    rw [ofDecimal_eq false (Nat.mul_pos hm (Nat.two_pow_pos j)), hratio]
    exact ofRatio_of_isNormal false hm h
  · intro he
    obtain ⟨j, rfl⟩ : ∃ j : Nat, e = ((0 : Nat) : Int) - j := ⟨(-e).toNat, by omega⟩
    have hpow : 0 < m * 5 ^ j := Nat.mul_pos hm (Nat.pow_pos (by decide))
    have hj : (-(((0 : Nat) : Int) - j)).toNat = j := by omega
    have hratio : decimalRatio (m * 5 ^ j) (((0 : Nat) : Int) - j) = (m * 5 ^ j, 10 ^ j) := by
      rw [decimalRatio, if_neg (by omega), hj]
    rw [Nat.pow_eq, hj, ofDecimal_eq false hpow, hratio, ← ofRatio_of_isNormal false hm h]
    refine ofRatio_congr false ?_ hpow (Nat.pow_pos (by decide)) (by simpa using hm)
      (Nat.two_pow_pos j)
    rw [Nat.pow_zero, Nat.mul_one, Nat.mul_assoc, ← Nat.mul_pow]

/-- The shortest decimal of a double is rounded to the double. -/
theorem ofDecimal_shortest {m : Nat} {e : Int} (hm : 0 < m) (h : IsNormal m e) (negative : Bool) :
    ofDecimal negative (shortest m e h).digits (shortest m e h).exponent =
      .finite negative m e h := by
  refine ofDecimal_of_false ?_ negative
  unfold shortest
  split
  split
  · rename_i hfound
    exact ofDecimal_of_search hfound
  · split
    · rename_i he
      exact (ofDecimal_exact hm h).1 he
    · rename_i he
      exact (ofDecimal_exact hm h).2 (Int.not_le.1 he)

lemma shortest_digits_pos {m : Nat} {e : Int} (hm : 0 < m) (h : IsNormal m e) :
    0 < (shortest m e h).digits := by
  refine Nat.pos_of_ne_zero fun hzero => ?_
  have hd := ofDecimal_shortest hm h false
  rw [hzero, ofDecimal, if_pos (.inl rfl), signedZero] at hd
  cases hd
  exact absurd hm (by decide)

end VectorQuery.Double
