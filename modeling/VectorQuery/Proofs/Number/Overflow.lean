import VectorQuery.Proofs.Number.Rounding

/-! Integers beyond the doubles. An integer has a finite nearest double exactly while it is below the middle between
the largest double and the next power of two; the middle itself is rounded up, since the largest double has an odd
mantissa. -/
namespace VectorQuery

namespace Double

variable {m n d : Nat} {e : Int}

lemma le_roundHalfEven (hd : 0 < d) (h : m * d ≤ n) : m ≤ roundHalfEven n d := by
  have hdiv : m ≤ n / d := (Nat.le_div_iff_mul_le hd).2 h
  have hround : n / d ≤ roundHalfEven n d := by
    unfold roundHalfEven
    dsimp only
    split_ifs <;> omega
  exact hdiv.trans hround

lemma roundHalfEven_le (hd : 0 < d) (h : n < m * d) : roundHalfEven n d ≤ m := by
  have hdiv : n / d < m := (Nat.div_lt_iff_lt_mul hd).2 h
  have hround : roundHalfEven n d ≤ n / d + 1 := by
    unfold roundHalfEven
    dsimp only
    split_ifs <;> omega
  exact hround.trans hdiv

/-- Above an odd integer the half belongs to the next one. -/
lemma roundHalfEven_le_odd_iff {half : Nat} (hhalf : 0 < half) (hm : m % 2 = 1) :
    roundHalfEven n (2 * half) ≤ m ↔ n < m * (2 * half) + half := by
  have hpos : 0 < 2 * half := by omega
  have hsum : 2 * half * (n / (2 * half)) + n % (2 * half) = n := Nat.div_add_mod n (2 * half)
  have hrest : n % (2 * half) < 2 * half := Nat.mod_lt n hpos
  rcases Nat.lt_trichotomy (n / (2 * half)) m with hlt | heq | hgt
  · have hn : n < m * (2 * half) := (Nat.div_lt_iff_lt_mul hpos).1 hlt
    exact iff_of_true (roundHalfEven_le hpos hn) (by omega)
  · unfold roundHalfEven
    rw [heq] at hsum ⊢
    rw [Nat.mul_comm] at hsum
    dsimp only
    split_ifs <;> omega
  · have hn : (m + 1) * (2 * half) ≤ n := (Nat.le_div_iff_mul_le hpos).1 hgt
    have hround : m + 1 ≤ roundHalfEven n (2 * half) := le_roundHalfEven hpos hn
    rw [Nat.succ_mul] at hn
    exact iff_of_false (by omega) (by omega)

/-- A full mantissa at its exponent is a double, unless it was rounded up at the largest exponent. -/
lemma isFinite_ofMantissa_iff (negative : Bool) (hlow : 2 ^ 52 ≤ m) (hhigh : m ≤ 2 ^ 53)
    (he : -1074 ≤ e) (he' : e ≤ 971) :
    (ofMantissa negative m e).isFinite = true ↔ m < 2 ^ 53 ∨ e < 971 := by
  rcases Nat.lt_or_eq_of_le hhigh with hlt | rfl
  · have hnormal : IsNormal m e := ⟨hlt, he, he', .inl hlow⟩
    rw [ofMantissa_of_isNormal negative hnormal]
    exact iff_of_true rfl (.inl hlt)
  · have hcarry : (ofMantissa negative (2 ^ 53) e).isFinite = true ↔ IsNormal (2 ^ 52) (e + 1) := by
      rw [ofMantissa, if_pos (by decide)]
      dsimp only
      split
      · rename_i h
        exact iff_of_true rfl h
      · rename_i h
        exact iff_of_false Bool.false_ne_true h
    rw [hcarry]
    constructor
    · exact fun h => .inr (by have := h.2.2.1; omega)
    · rintro (h | h)
      · exact absurd h (Nat.lt_irrefl _)
      · exact ⟨by decide, by omega, by omega, .inl (by decide)⟩

/-- The least integer that is rounded beyond the doubles. -/
def overflow : Nat := 2 ^ 1024 - 2 ^ 970

lemma binaryExponent_one (hn : 0 < n) : binaryExponent n 1 = n.log2 := by
  have hlow : 2 ^ n.log2 ≤ n := Nat.log2_self_le hn.ne'
  have hhigh : n < 2 ^ (n.log2 + 1) := Nat.lt_log2_self
  refine binaryExponent_eq hn Nat.one_pos ?_ ?_
  · rw [reaches_iff (p := n.log2) (q := 0) Nat.one_pos (by omega)]
    omega
  · rw [reaches_iff (p := n.log2 + 1) (q := 0) Nat.one_pos (by omega)]
    omega

/-- An integer at its rounding exponent has 53 bits in front of the point. -/
lemma scale_one_bounds (hn : 0 < n) (he : e = (n.log2 : Int) - 52) :
    2 ^ 52 * (scale n 1 e).2 ≤ (scale n 1 e).1 ∧ (scale n 1 e).1 < 2 ^ 53 * (scale n 1 e).2 := by
  have hlow : 2 ^ n.log2 ≤ n := Nat.log2_self_le hn.ne'
  have hhigh : n < 2 ^ (n.log2 + 1) := Nat.lt_log2_self
  have hpos := scale_pos Nat.one_pos n e
  have hcross : (scale n 1 e).1 * 2 ^ n.log2 = n * (2 ^ 52 * (scale n 1 e).2) := by
    have h := scale_cross (p := n.log2) (q := 52) he n 1
    rwa [Nat.one_mul, Nat.mul_assoc n] at h
  constructor
  · refine Nat.le_of_mul_le_mul_right ?_ (Nat.two_pow_pos n.log2)
    rw [hcross, Nat.mul_comm]
    exact Nat.mul_le_mul_right _ hlow
  · refine Nat.lt_of_mul_lt_mul_right (a := 2 ^ n.log2) ?_
    calc (scale n 1 e).1 * 2 ^ n.log2 = n * (2 ^ 52 * (scale n 1 e).2) := hcross
      _ < 2 ^ (n.log2 + 1) * (2 ^ 52 * (scale n 1 e).2) :=
        Nat.mul_lt_mul_of_pos_right hhigh (Nat.mul_pos (by decide) hpos)
      _ = 2 ^ 53 * (scale n 1 e).2 * 2 ^ n.log2 := by ring

/-- An integer has a finite nearest double exactly below the middle. -/
theorem isFinite_ofRatio_one_iff (negative : Bool) (hn : 0 < n) :
    (ofRatio negative n 1).isFinite = true ↔ n < overflow := by
  rcases Nat.lt_or_ge n.log2 1024 with hlog | hlog
  · have hexp : roundingExponent n 1 = (n.log2 : Int) - 52 := by
      rw [roundingExponent, binaryExponent_one hn]
      omega
    obtain ⟨hfull, hfits⟩ := scale_one_bounds hn hexp
    have hpos := scale_pos Nat.one_pos n (roundingExponent n 1)
    rw [ofRatio_eq, isFinite_ofMantissa_iff negative (le_roundHalfEven hpos hfull)
      (roundHalfEven_le hpos hfits) (by omega) (by omega)]
    rcases Nat.lt_or_eq_of_le (Nat.le_of_lt_succ hlog) with hsmall | hlast
    · have htop : overflow.log2 = 1023 := by decide +kernel
      have hpow : 2 ^ (n.log2 + 1) ≤ 2 ^ overflow.log2 := Nat.pow_le_pow_right (by decide) (by omega)
      have hle : 2 ^ overflow.log2 ≤ overflow := Nat.log2_self_le (by decide +kernel)
      exact iff_of_true (.inr (by omega)) ((Nat.lt_log2_self.trans_le hpow).trans_le hle)
    · -- The power stays behind a name, so that no tactic writes it out.
      obtain ⟨half, hhalf, hpos'⟩ : ∃ half, half = 2 ^ 970 ∧ 0 < half := ⟨_, rfl, by decide +kernel⟩
      have hscale : scale n 1 (roundingExponent n 1) = (n, 2 * half) := by
        rw [hexp, hlast, hhalf, scale, if_pos (by decide)]
        exact congrArg (Prod.mk n) (by decide +kernel)
      have hmiddle : (2 ^ 53 - 1) * (2 * half) + half = overflow := by
        rw [hhalf]
        decide +kernel
      rw [hscale, ← hmiddle, ← roundHalfEven_le_odd_iff hpos' rfl, or_iff_left (by omega)]
      exact Nat.lt_iff_le_pred (by decide)
  · have hge : 2 ^ 1024 ≤ n := by
      obtain ⟨k, hk⟩ : ∃ k, k = 1024 := ⟨_, rfl⟩
      rw [← hk] at hlog ⊢
      exact (Nat.pow_le_pow_right (by decide) hlog).trans (Nat.log2_self_le hn.ne')
    rw [ofRatio_of_large negative hn Nat.one_pos (by rwa [Nat.one_mul])]
    exact iff_of_false Bool.false_ne_true (Nat.not_lt.2 ((Nat.sub_le _ _).trans hge))

end Double

namespace Num

/-- An integer, of either sign, that is rounded beyond the doubles. -/
def IsBeyond : Num → Prop
  | .int i => Double.overflow ≤ i.natAbs
  | .float _ => False

/-- Exactly the integers beyond the doubles have no nearest double. -/
theorem isBeyond_iff (n : Num) : n.IsBeyond ↔ n.toDouble? = none := by
  cases n with
  | float d => exact iff_of_false id nofun
  | int i =>
    change Double.overflow ≤ i.natAbs ↔ Double.ofInt? i = none
    unfold Double.ofInt?
    by_cases hi : i = 0
    · subst hi
      exact iff_of_false (by decide +kernel) nofun
    · simp only [if_neg hi]
      rw [← Nat.not_lt, ← Double.isFinite_ofRatio_one_iff (i < 0) (Int.natAbs_pos.2 hi)]
      simp only [ite_eq_right_iff, reduceCtorEq, imp_false]

/-- The last integer before the middle is rounded to the largest double. -/
example : (Num.int (2 ^ 1024 - 2 ^ 970 - 1)).toDouble? = some (.finite false (2 ^ 53 - 1) 971 (by decide)) := by
  decide +kernel

end Num

end VectorQuery
