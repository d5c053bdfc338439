import VectorQuery.Proofs.Checked
import Mathlib.Data.List.Sigma
import Mathlib.Logic.Function.Basic

/-! States that are built call by call. A call that is refused leaves the state as it is, and one that is accepted
writes at most one slot. In the end each slot holds what was written last. -/
namespace VectorQuery

namespace Checked

/-- The result, or the old value where there is none. -/
def orKeep {α : Type} (x : Checked α) (old : α) : α :=
  match x with
  | .ok a => a
  | .error _ => old

end Checked

section

variable {State Call Slot : Type} [DecidableEq Slot] {Value : Slot → Type}

/-- The value that the last of the calls to write a slot has written there. -/
def lastWritten (written : Call → Option (Sigma Value)) (calls : List Call) (s : Slot) : Option (Value s) :=
  (calls.filterMap written).reverse.dlookup s

variable {read : State → (s : Slot) → Value s} {step : State → Call → State}
  {written : Call → Option (Sigma Value)}

lemma lastWritten_cons (call : Call) (calls : List Call) (s : Slot) :
    lastWritten written (call :: calls) s =
      (lastWritten written calls s).or ((written call).toList.dlookup s) := by
  unfold lastWritten
  cases h : written call with
  | none => simp [h]
  | some w => simp [h, List.dlookup_append]

/-- Writing one slot, as it is read. -/
lemma update_eq_dlookup (x : (s : Slot) → Value s) (w : Sigma Value) (s : Slot) :
    Function.update x w.1 w.2 s = ([w].dlookup s).getD (x s) := by
  obtain ⟨t, v⟩ := w
  by_cases h : s = t
  · subst h
    simp
  · rw [Function.update_of_ne h, List.dlookup_cons_ne _ _ h]
    rfl

/-- If every single call leaves in each slot what it writes there, and else what was there before, then a run of
calls leaves in each slot what was written there last. -/
theorem read_foldl (hstep : ∀ x call s, read (step x call) s = ((written call).toList.dlookup s).getD (read x s))
    (calls : List Call) (x : State) (s : Slot) :
    read (calls.foldl step x) s = (lastWritten written calls s).getD (read x s) := by
  induction calls generalizing x with
  | nil => rfl
  | cons call calls ih =>
    rw [List.foldl_cons, ih, hstep, lastWritten_cons]
    cases lastWritten written calls s with
    | none => rfl
    | some v => rfl

/-! ### Checks of slots -/

section

variable {Given : Type} {check : (s : Slot) → Given → Checked (Value s)} {give : (s : Slot) → Value s → Given}
  (hgive : ∀ s v, check s (give s v) = .ok v) (x : (s : Slot) → Value s) {s : Slot} {t : Given}
include hgive

/-- Where one slot is given anew, the others pass their checks as they did before. -/
lemma check_update_of_ne {u : Slot} (hu : u ≠ s) :
    check u (Function.update (fun u => give u (x u)) s t u) = .ok (x u) := by
  rw [Function.update_of_ne hu]
  exact hgive u (x u)

/-- Where the one slot passes too, all of them do, with what was written there. -/
lemma check_update_of_ok {v : Value s} (hv : check s t = .ok v) (u : Slot) :
    check u (Function.update (fun u => give u (x u)) s t u) = .ok (Function.update x s v u) := by
  by_cases hu : u = s
  · subst hu
    rw [Function.update_self, Function.update_self, hv]
  · rw [check_update_of_ne hgive x hu, Function.update_of_ne hu]

end

end

end VectorQuery
