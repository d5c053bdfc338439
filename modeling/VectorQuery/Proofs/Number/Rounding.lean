import VectorQuery.Number.Arithmetic
import Mathlib.Tactic.Ring

/-! Rounding a ratio to a double. The result depends on the ratio alone, and a double rounds to itself. -/
namespace VectorQuery.Double

variable {n d n' d' : Nat} {k : Int}

lemma le_iff_of_cross {a b : Nat} (h : a * d = n * b) (hb : 0 < b) (hd : 0 < d) :
    b ≤ a ↔ d ≤ n := by
  rw [← Nat.mul_le_mul_right_iff hd, h, Nat.mul_comm n b, Nat.mul_le_mul_left_iff hb]

/-! ### Scaling -/

lemma scale_pos (hd : 0 < d) (n : Nat) (k : Int) : 0 < (scale n d k).2 := by
  unfold scale
  split
  · exact Nat.mul_pos hd (Nat.two_pow_pos _)
  · exact hd

/-- The scaled ratio, with the power of two as a quotient of any two powers. -/
lemma scale_cross {p q : Nat} (hk : k = p - q) (n d : Nat) :
    (scale n d k).1 * (d * 2 ^ p) = n * 2 ^ q * (scale n d k).2 := by
  unfold scale
  split
  · obtain ⟨j, rfl⟩ : ∃ j : Nat, k = j := ⟨k.toNat, by omega⟩
    obtain rfl : p = j + q := by omega
    simp only [Int.toNat_natCast, Nat.pow_eq, Nat.pow_add]
    ac_rfl
  · obtain ⟨j, rfl⟩ : ∃ j : Nat, k = -(j : Int) := ⟨(-k).toNat, by omega⟩
    obtain rfl : q = j + p := by omega
    simp only [Int.neg_neg, Int.toNat_natCast, Nat.pow_eq, Nat.pow_add]
    ac_rfl

lemma scale_neg {j : Nat} (hj : 0 < j) (hk : k = -j) (n d : Nat) :
    scale n d k = (n * 2 ^ j, d) := by
  subst hk
  rw [scale, if_neg (by omega), Int.neg_neg, Int.toNat_natCast]
  rfl

lemma scale_congr (h : n * d' = n' * d) (k : Int) :
    (scale n d k).1 * (scale n' d' k).2 = (scale n' d' k).1 * (scale n d k).2 := by
  unfold scale
  split
  · simp only
    rw [← Nat.mul_assoc, ← Nat.mul_assoc, h]
  · simp only
    rw [Nat.mul_right_comm, h, Nat.mul_right_comm]

/-! ### The binary exponent -/

/-- The ratio `n / d` is at least `2^k`. -/
def Reaches (n d : Nat) (k : Int) : Prop := (scale n d k).2 ≤ (scale n d k).1

lemma reaches_iff {p q : Nat} (hd : 0 < d) (hk : k = p - q) :
    Reaches n d k ↔ d * 2 ^ p ≤ n * 2 ^ q :=
  le_iff_of_cross (scale_cross hk n d) (scale_pos hd n k) (Nat.mul_pos hd (Nat.two_pow_pos p))

lemma Reaches.mono {j : Int} (hd : 0 < d) (h : Reaches n d k) (hj : j ≤ k) : Reaches n d j := by
  obtain ⟨p, q, hk⟩ : ∃ p q : Nat, k = p - q := ⟨k.toNat, (-k).toNat, by omega⟩
  have hjk : j = p - (q + (k - j).toNat : Nat) := by omega
  rw [reaches_iff hd hk] at h
  rw [reaches_iff hd hjk]
  exact Nat.le_trans h (Nat.mul_le_mul_left n (Nat.pow_le_pow_right (by decide) (Nat.le_add_right q _)))

lemma reaches_congr (h : n * d' = n' * d) (hd : 0 < d) (hd' : 0 < d') :
    Reaches n d k ↔ Reaches n' d' k :=
  le_iff_of_cross (scale_congr h k) (scale_pos hd n k) (scale_pos hd' n' k)

lemma binaryExponent_spec (hn : 0 < n) (hd : 0 < d) :
    Reaches n d (binaryExponent n d) ∧ ¬Reaches n d (binaryExponent n d + 1) := by
  have hn₁ := Nat.log2_self_le (Nat.pos_iff_ne_zero.1 hn)
  have hn₂ := Nat.lt_log2_self (n := n)
  have hd₁ := Nat.log2_self_le (Nat.pos_iff_ne_zero.1 hd)
  have hd₂ := Nat.lt_log2_self (n := d)
  have hlow : Reaches n d ((n.log2 : Int) - d.log2 - 1) := by
    rw [reaches_iff (p := n.log2) (q := d.log2 + 1) hd (by omega), Nat.mul_comm d]
    exact Nat.mul_le_mul hn₁ (Nat.le_of_lt hd₂)
  have hhigh : ¬Reaches n d ((n.log2 : Int) - d.log2 + 1) := by
    rw [reaches_iff (p := n.log2 + 1) (q := d.log2) hd (by omega), Nat.not_le, Nat.mul_comm d]
    exact Nat.mul_lt_mul_of_lt_of_le hn₂ hd₁ hd
  have heq : binaryExponent n d =
      if (scale n d ((n.log2 : Int) - d.log2)).2 ≤ (scale n d ((n.log2 : Int) - d.log2)).1
      then (n.log2 : Int) - d.log2 else (n.log2 : Int) - d.log2 - 1 := rfl
  rw [heq]
  split
  · rename_i h
    exact ⟨h, hhigh⟩
  · rename_i h
    exact ⟨hlow, by rwa [Int.sub_add_cancel]⟩

lemma binaryExponent_eq (hn : 0 < n) (hd : 0 < d) (h : Reaches n d k)
    (hnot : ¬Reaches n d (k + 1)) : binaryExponent n d = k := by
  obtain ⟨hreach, hnext⟩ := binaryExponent_spec hn hd
  rcases Int.lt_trichotomy (binaryExponent n d) k with hlt | heq | hgt
  · exact absurd (h.mono hd (by omega)) hnext
  · exact heq
  · exact absurd (hreach.mono hd (by omega)) hnot

lemma binaryExponent_lt (hn : 0 < n) (hd : 0 < d) (h : ¬Reaches n d k) :
    binaryExponent n d < k := by
  obtain ⟨hreach, -⟩ := binaryExponent_spec hn hd
  by_cases hlt : binaryExponent n d < k
  · exact hlt
  · exact absurd (hreach.mono hd (by omega)) h

lemma binaryExponent_congr (h : n * d' = n' * d) (hn : 0 < n) (hd : 0 < d) (hn' : 0 < n')
    (hd' : 0 < d') : binaryExponent n d = binaryExponent n' d' := by
  obtain ⟨hreach, hnext⟩ := binaryExponent_spec hn' hd'
  exact binaryExponent_eq hn hd ((reaches_congr h hd hd').2 hreach)
    fun hr => hnext ((reaches_congr h hd hd').1 hr)

/-! ### The nearest integer -/

lemma roundHalfEven_mul {k : Nat} (hk : 0 < k) (n d : Nat) :
    roundHalfEven (n * k) (d * k) = roundHalfEven n d := by
  have hlow : 2 * (n % d * k) < d * k ↔ 2 * (n % d) < d := by
    rw [← Nat.mul_assoc, Nat.mul_lt_mul_right hk]
  have hhigh : d * k < 2 * (n % d * k) ↔ d < 2 * (n % d) := by
    rw [← Nat.mul_assoc, Nat.mul_lt_mul_right hk]
  simp only [roundHalfEven, Nat.mul_div_mul_right n d hk, Nat.mul_mod_mul_right, hlow, hhigh]

lemma roundHalfEven_congr (h : n * d' = n' * d) (hd : 0 < d) (hd' : 0 < d') :
    roundHalfEven n d = roundHalfEven n' d' := by
  rw [← roundHalfEven_mul hd' n d, h, Nat.mul_comm d, roundHalfEven_mul hd]

/-! ### The nearest double -/

/-- A mantissa that was rounded, at an exponent. -/
def ofMantissa (negative : Bool) (m : Nat) (e : Int) : Double :=
  let (m, e) := if m = 9007199254740992 then (4503599627370496, e + 1) else (m, e)
  if h : IsNormal m e then .finite negative m e h else .infinite negative

/-- The exponent at which a ratio is rounded. -/
def roundingExponent (n d : Nat) : Int := max (binaryExponent n d - 52) (-1074)

lemma ofRatio_eq (negative : Bool) (n d : Nat) : ofRatio negative n d =
    ofMantissa negative (roundHalfEven (scale n d (roundingExponent n d)).1
      (scale n d (roundingExponent n d)).2) (roundingExponent n d) := by
  unfold ofRatio ofMantissa roundingExponent
  rfl

/-- Equal ratios are rounded to the same double. -/
theorem ofRatio_congr (negative : Bool) (h : n * d' = n' * d) (hn : 0 < n) (hd : 0 < d)
    (hn' : 0 < n') (hd' : 0 < d') : ofRatio negative n d = ofRatio negative n' d' := by
  have hexp : roundingExponent n d = roundingExponent n' d' := by
    rw [roundingExponent, roundingExponent, binaryExponent_congr h hn hd hn' hd']
  rw [ofRatio_eq, ofRatio_eq, hexp, roundHalfEven_congr (scale_congr h _) (scale_pos hd _ _)
    (scale_pos hd' _ _)]

lemma ofMantissa_of_isNormal {m : Nat} {e : Int} (negative : Bool) (h : IsNormal m e) :
    ofMantissa negative m e = .finite negative m e h := by
  have hm : m ≠ 9007199254740992 := Nat.ne_of_lt h.1
  rw [ofMantissa, if_neg hm]
  exact dif_pos h

lemma roundHalfEven_of_eq {a b m : Nat} (h : a = m * b) (hb : 0 < b) : roundHalfEven a b = m := by
  subst h
  simp [roundHalfEven, Nat.mul_div_cancel m hb, hb]

/-- A ratio that is a double is rounded to it. -/
theorem ofRatio_of_isNormal {m p q : Nat} (negative : Bool) (hm : 0 < m)
    (h : IsNormal m ((p : Int) - q)) :
    ofRatio negative (m * 2 ^ p) (2 ^ q) = .finite negative m ((p : Int) - q) h := by
  have hn : 0 < m * 2 ^ p := Nat.mul_pos hm (Nat.two_pow_pos p)
  have hd := Nat.two_pow_pos q
  have ⟨hlt, hlow, _, hmin⟩ := h
  have hnot : ¬Reaches (m * 2 ^ p) (2 ^ q) ((p : Int) - q + 52 + 1) := by
    rw [reaches_iff (p := p + 53) (q := q) hd (by omega), Nat.not_le]
    calc m * 2 ^ p * 2 ^ q < 2 ^ 53 * 2 ^ p * 2 ^ q := by
          rw [Nat.mul_lt_mul_right hd, Nat.mul_lt_mul_right (Nat.two_pow_pos p)]
          exact hlt
      _ = 2 ^ q * 2 ^ (p + 53) := by ring
  have hexp : roundingExponent (m * 2 ^ p) (2 ^ q) = (p : Int) - q := by
    rw [roundingExponent]
    rcases hmin with hfull | hleast
    · have hreach : Reaches (m * 2 ^ p) (2 ^ q) ((p : Int) - q + 52) := by
        rw [reaches_iff (p := p + 52) (q := q) hd (by omega)]
        calc 2 ^ q * 2 ^ (p + 52) = 2 ^ 52 * 2 ^ p * 2 ^ q := by ring
          _ ≤ m * 2 ^ p * 2 ^ q :=
            Nat.mul_le_mul_right _ (Nat.mul_le_mul_right _ hfull)
      rw [binaryExponent_eq hn hd hreach hnot]
      omega
    · have := binaryExponent_lt hn hd hnot
      omega
  have hscale : (scale (m * 2 ^ p) (2 ^ q) ((p : Int) - q)).1 =
      m * (scale (m * 2 ^ p) (2 ^ q) ((p : Int) - q)).2 := by
    have hcross := scale_cross (k := (p : Int) - q) rfl (m * 2 ^ p) (2 ^ q)
    refine Nat.eq_of_mul_eq_mul_right (Nat.mul_pos hd (Nat.two_pow_pos p)) (hcross.trans ?_)
    ac_rfl
  rw [ofRatio_eq, hexp, roundHalfEven_of_eq hscale (scale_pos hd _ _),
    ofMantissa_of_isNormal negative h]

lemma not_reaches_of_small {j : Nat} (hd : 0 < d) (h : 2 * (n * 2 ^ j) < d) :
    ¬Reaches n d (-((j + 1 : Nat) : Int)) := by
  rw [reaches_iff (p := 0) (q := j + 1) hd (by omega), Nat.pow_succ, ← Nat.mul_assoc, Nat.pow_zero]
  omega

/-- A ratio below half of the least positive double is rounded to zero. -/
lemma ofRatio_of_small (negative : Bool) (hn : 0 < n) (hd : 0 < d) (h : 2 * (n * 2 ^ 1074) < d) :
    ofRatio negative n d = signedZero negative := by
  have hexp : roundingExponent n d = -1074 := by
    have := binaryExponent_lt hn hd (not_reaches_of_small hd h)
    rw [roundingExponent]
    omega
  have hscale : scale n d (-1074) = (n * 2 ^ 1074, d) :=
    scale_neg (j := 1074) (by decide) rfl n d
  have hround : roundHalfEven (n * 2 ^ 1074) d = 0 := by
    have hlt : n * 2 ^ 1074 < d := by omega
    simp only [roundHalfEven, Nat.div_eq_of_lt hlt, Nat.mod_eq_of_lt hlt, if_pos h]
  rw [ofRatio_eq, hexp, hscale, hround]
  exact ofMantissa_of_isNormal negative (by decide)

/-- A ratio of at least `2^1024` is beyond the doubles. -/
lemma ofRatio_of_large (negative : Bool) (hn : 0 < n) (hd : 0 < d) (h : d * 2 ^ 1024 ≤ n) :
    ofRatio negative n d = .infinite negative := by
  have hreach : Reaches n d 1024 := by
    rw [reaches_iff (p := 1024) (q := 0) hd (by omega)]
    omega
  have hexp : 972 ≤ roundingExponent n d := by
    obtain ⟨-, hnext⟩ := binaryExponent_spec hn hd
    have : ¬binaryExponent n d + 1 ≤ 1024 := fun hle => hnext (hreach.mono hd hle)
    rw [roundingExponent]
    omega
  rw [ofRatio_eq, ofMantissa]
  split
  rename_i m e he
  have hlarge : 972 ≤ e := by
    split at he
    · have := (Prod.mk.inj he).2
      omega
    · have := (Prod.mk.inj he).2
      omega
  exact dif_neg fun hnormal => by
    have := hnormal.2.2.1
    omega

end VectorQuery.Double
