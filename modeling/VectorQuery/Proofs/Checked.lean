import VectorQuery.Fault
import Mathlib.Tactic.Lemma

/-! Taking checked computations apart: where the whole gives a result, every step before it gave one, and
where each step has its own condition for a result, the whole has all of them. Where no step fails but with a fault
of some kind, the whole does not. -/
namespace VectorQuery.Checked

variable {α β : Type}

lemma bind_ok {ε : Type} {x : Except ε α} {f : α → Except ε β} {b : β} (h : x >>= f = .ok b) :
    ∃ a, x = .ok a ∧ f a = .ok b := by
  cases x with
  | error e => cases h
  | ok a => exact ⟨a, rfl, h⟩

lemma map_ok {x : Checked α} {f : α → β} {b : β} (h : x.map f = .ok b) :
    ∃ a, x = .ok a ∧ f a = b := by
  cases x with
  | error e => cases h
  | ok a => exact ⟨a, rfl, Except.ok.inj h⟩

lemma map_error {x : Checked α} {f : α → β} {e : Fault} (h : x.map f = .error e) : x = .error e := by
  cases x with
  | error e' => exact congrArg _ (Except.error.inj h)
  | ok a => cases h

lemma map_map {γ : Type} (x : Checked α) (f : α → β) (g : β → γ) : (x.map f).map g = x.map (g ∘ f) := by
  cases x <;> rfl

lemma pure_ok {a b : α} (h : (pure a : Checked α) = .ok b) : a = b := Except.ok.inj h

/-! ### Conditions of results -/

variable {x : Checked α} {p q : Bool}

/-- There is a result exactly under a condition; without it a value has the wrong type. -/
def Needs (x : Checked α) (p : Bool) : Prop :=
  if p then ∃ a, x = .ok a else x = .error .wrongType

lemma needs_ok (a : α) : Needs (.ok a) true := ⟨a, rfl⟩

lemma Needs.bind {f : α → Checked β} (hx : Needs x p) (hf : ∀ a, x = .ok a → Needs (f a) q) :
    Needs (x >>= f) (p && q) := by
  cases p with
  | false =>
    obtain rfl : x = .error .wrongType := hx
    rfl
  | true =>
    obtain ⟨a, rfl⟩ := hx
    exact hf a rfl

lemma Needs.map (hx : Needs x p) (f : α → β) : Needs (x.map f) p := by
  cases p with
  | false =>
    obtain rfl : x = .error .wrongType := hx
    rfl
  | true =>
    obtain ⟨a, rfl⟩ := hx
    exact ⟨f a, rfl⟩

lemma Needs.exists_ok_iff (hx : Needs x p) : (∃ a, x = .ok a) ↔ p = true := by
  cases p with
  | false =>
    obtain rfl : x = .error .wrongType := hx
    simp
  | true => exact iff_of_true hx rfl

lemma Needs.eq_wrongType {e : Fault} (hx : Needs x p) (he : x = .error e) : e = .wrongType := by
  cases p with
  | false => exact Except.error.inj (he.symm.trans hx)
  | true =>
    obtain ⟨a, rfl⟩ := hx
    cases he

/-! ### Kinds of faults -/

variable {P : Fault → Prop}

/-- A result, or a fault of some kind. -/
def FailsIn (P : Fault → Prop) (x : Checked α) : Prop := ∀ e, x = .error e → P e

lemma failsIn_ok (a : α) : FailsIn P (.ok a) := fun _ h => nomatch h

lemma failsIn_error {e : Fault} (he : P e) : FailsIn P (.error e : Checked α) :=
  fun _ h => Except.error.inj h ▸ he

lemma FailsIn.mono {Q : Fault → Prop} (hx : FailsIn P x) (h : ∀ e, P e → Q e) : FailsIn Q x :=
  fun e he => h e (hx e he)

lemma FailsIn.bind {f : α → Checked β} (hx : FailsIn P x) (hf : ∀ a, x = .ok a → FailsIn P (f a)) :
    FailsIn P (x >>= f) := by
  cases x with
  | error e => exact failsIn_error (hx e rfl)
  | ok a => exact hf a rfl

lemma failsIn_map_iff (f : α → β) : FailsIn P (x.map f) ↔ FailsIn P x := by
  cases x with
  | error e => exact ⟨fun h => failsIn_error (h e rfl), fun h => failsIn_error (h e rfl)⟩
  | ok a => exact iff_of_true (failsIn_ok _) (failsIn_ok _)

/-- A result, or a fault that the library reports. -/
def Settles (x : Checked α) : Prop := FailsIn (fun e => e.isReported = true) x

lemma settles_map_iff (f : α → β) : Settles (x.map f) ↔ Settles x := failsIn_map_iff f

end VectorQuery.Checked
