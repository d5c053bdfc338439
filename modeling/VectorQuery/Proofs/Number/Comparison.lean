import VectorQuery.Quantity
import Mathlib.Data.Rat.Cast.Order
import Mathlib.Tactic.Lemma

/-! Finite numbers as rationals. Their comparison, which brings both to one power of two first, is that of the
rationals. A share stays between zero and one as a double. -/
namespace VectorQuery

/-- The rational that a finite double is. -/
def Double.value? : Double → Option ℚ
  | .finite negative m e _ => some ((if negative then -(m : ℚ) else m) * 2 ^ e)
  | _ => none

/-- A finite double from zero to one. -/
def Double.InUnit (d : Double) : Prop := ∃ a, d.value? = some a ∧ 0 ≤ a ∧ a ≤ 1

namespace Num

/-- The rational that a finite number is. -/
def value? : Num → Option ℚ
  | .int i => some i
  | .float d => d.value?

lemma exists_extended {x : Num} {a : ℚ} (h : x.value? = some a) :
    ∃ s e : Int, x.extended = .dyadic s e ∧ a = s * 2 ^ e := by
  cases x with
  | int i =>
    obtain rfl := Option.some.inj h
    exact ⟨i, 0, rfl, by simp⟩
  | float d =>
    cases d with
    | nan | infinite => cases h
    | finite negative m e normal =>
      obtain rfl := Option.some.inj h
      refine ⟨_, e, rfl, ?_⟩
      cases negative <;> simp

lemma mul_pow_sub {e g : Int} (h : g ≤ e) (a : Int) :
    ((a * (Nat.pow 2 (e - g).toNat : Nat) : Int) : ℚ) * 2 ^ g = a * 2 ^ e := by
  have hpow : (2 : ℚ) ^ (e - g).toNat * 2 ^ g = 2 ^ e := by
    rw [← zpow_natCast, Int.toNat_of_nonneg (Int.sub_nonneg.2 h), ← zpow_add₀ two_ne_zero, sub_add_cancel]
  rw [← hpow, ← mul_assoc]
  norm_cast

/-- Both integers are their numbers over the same power of two. -/
lemma aligned_spec (a e b f : Int) :
    ((aligned a e b f).1 : ℚ) * 2 ^ min e f = a * 2 ^ e ∧ ((aligned a e b f).2 : ℚ) * 2 ^ min e f = b * 2 ^ f :=
  ⟨mul_pow_sub (min_le_left e f) a, mul_pow_sub (min_le_right e f) b⟩

variable {x y : Num} {a b : ℚ}

/-- Less is less as rationals. -/
theorem lt_iff (hx : x.value? = some a) (hy : y.value? = some b) : x.lt y = true ↔ a < b := by
  obtain ⟨s, e, hs, rfl⟩ := exists_extended hx
  obtain ⟨t, f, ht, rfl⟩ := exists_extended hy
  obtain ⟨hleft, hright⟩ := aligned_spec s e t f
  have hpos : (0 : ℚ) < 2 ^ min e f := zpow_pos two_pos _
  rw [← hleft, ← hright, mul_lt_mul_iff_left₀ hpos, Int.cast_lt]
  simp [lt, hs, ht]

/-- The same number is the same rational. -/
theorem same_iff (hx : x.value? = some a) (hy : y.value? = some b) : x.same y = true ↔ a = b := by
  obtain ⟨s, e, hs, rfl⟩ := exists_extended hx
  obtain ⟨t, f, ht, rfl⟩ := exists_extended hy
  obtain ⟨hleft, hright⟩ := aligned_spec s e t f
  have hpos : (2 : ℚ) ^ min e f ≠ 0 := zpow_ne_zero _ two_ne_zero
  rw [← hleft, ← hright, mul_left_inj' hpos, Int.cast_inj]
  simp [same, hs, ht]

theorem le_iff (hx : x.value? = some a) (hy : y.value? = some b) : x.le y = true ↔ a ≤ b := by
  rw [le, Bool.or_eq_true, lt_iff hx hy, same_iff hx hy, le_iff_lt_or_eq]

lemma inUnit_iff (hx : x.value? = some a) : x.inUnit = true ↔ 0 ≤ a ∧ a ≤ 1 := by
  have hzero : (Num.int 0).value? = some 0 := rfl
  have hone : (Num.int 1).value? = some 1 := rfl
  rw [inUnit, Bool.and_eq_true, le_iff hzero hx, le_iff hx hone]

lemma exists_value_of_isFinite {d : Double} (h : d.isFinite = true) : ∃ a, (Num.float d).value? = some a := by
  cases d with
  | nan | infinite => cases h
  | finite => exact ⟨_, rfl⟩

end Num

namespace Share

/-- A share that is an integer is zero or one. -/
lemma inUnit_float_toDouble (c : Share) : (Num.float c.toDouble).inUnit = true := by
  obtain ⟨⟨n, finite⟩, unit⟩ := c
  cases n with
  | float d => exact unit
  | int i =>
    have hint : (Num.int i).value? = some (i : ℚ) := rfl
    obtain ⟨hlow, hhigh⟩ := (Num.inUnit_iff hint).1 unit
    have hlow' : 0 ≤ i := by exact_mod_cast hlow
    have hhigh' : i ≤ 1 := by exact_mod_cast hhigh
    obtain rfl | rfl : i = 0 ∨ i = 1 := by omega
    · exact (by decide +kernel : (Num.float ((Num.int 0).toDouble?.getD .zero)).inUnit = true)
    · exact (by decide +kernel : (Num.float ((Num.int 1).toDouble?.getD .zero)).inUnit = true)

theorem inUnit_toDouble (c : Share) : c.toDouble.InUnit := by
  obtain ⟨a, ha⟩ := Num.exists_value_of_isFinite c.isFinite_toDouble
  exact ⟨a, ha, (Num.inUnit_iff ha).1 c.inUnit_float_toDouble⟩

end Share

end VectorQuery
