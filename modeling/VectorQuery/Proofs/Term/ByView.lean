import Mathlib.Data.List.Forall2
import VectorQuery.CommandLine.Given
import VectorQuery.Proofs.Term.Normalized

/-! Checks whose results are known by their views: a value is accepted exactly as it is, and otherwise there is a
fault that is reported. -/
namespace VectorQuery

namespace Checked

variable {α β : Type} {P : Fault → Prop} {x : Checked α} {R : α → Prop}

/-- Exactly the results with a property are given, and the faults are of some kind. -/
structure Gives (P : Fault → Prop) (x : Checked α) (R : α → Prop) : Prop where
  ok_iff : ∀ a, x = .ok a ↔ R a
  fails : FailsIn P x

lemma gives_ok (a : α) : Gives P (.ok a) (a = ·) where
  ok_iff b := by simp
  fails := failsIn_ok a

lemma gives_error {e : Fault} (he : P e) (h : ∀ a, ¬R a) : Gives P (.error e) R :=
  ⟨fun a => iff_of_false nofun (h a), failsIn_error he⟩

namespace Gives

lemma mono {Q : Fault → Prop} (hx : Gives P x R) (h : ∀ e, P e → Q e) : Gives Q x R := ⟨hx.ok_iff, hx.fails.mono h⟩

lemma congr {S : α → Prop} (hx : Gives P x R) (h : ∀ a, R a ↔ S a) : Gives P x S :=
  ⟨fun a => (hx.ok_iff a).trans (h a), hx.fails⟩

lemma bind {f : α → Checked β} {S : α → β → Prop} (hx : Gives P x R) (hf : ∀ a, R a → Gives P (f a) (S a)) :
    Gives P (x >>= f) fun b => ∃ a, R a ∧ S a b := by
  constructor
  · intro b
    constructor
    · intro h
      obtain ⟨a, ha, hb⟩ := bind_ok h
      have hR := (hx.ok_iff a).1 ha
      exact ⟨a, hR, ((hf a hR).ok_iff b).1 hb⟩
    · rintro ⟨a, hR, hS⟩
      rw [(hx.ok_iff a).2 hR]
      exact ((hf a hR).ok_iff b).2 hS
  · apply hx.fails.bind
    intro a ha
    exact (hf a ((hx.ok_iff a).1 ha)).fails

lemma map (hx : Gives P x R) (f : α → β) : Gives P (x.map f) fun b => ∃ a, R a ∧ f a = b := by
  constructor
  · intro b
    constructor
    · intro h
      obtain ⟨a, ha, hb⟩ := map_ok h
      exact ⟨a, (hx.ok_iff a).1 ha, hb⟩
    · rintro ⟨a, hR, rfl⟩
      rw [(hx.ok_iff a).2 hR]
      rfl
  · exact (failsIn_map_iff f).2 hx.fails

end Gives

/-- The kind of faults that are reported. -/
abbrev Reported (e : Fault) : Prop := e.isReported = true

/-- The result has the given view, or the fault is a reported one. -/
def Keeps (view : α → Datum) (d : Datum) : Checked α → Prop
  | .ok a => view a = d
  | .error e => Reported e

/-- A check that takes views back, and takes nothing else. -/
lemma gives_of_keeps {check : Datum → Checked α} {view : α → Datum} {d : Datum}
    (hview : ∀ a, check (view a) = .ok a) (hd : Keeps view d (check d)) :
    Gives Reported (check d) (view · = d) := by
  constructor
  · intro a
    constructor
    · intro h
      rwa [h] at hd
    · rintro rfl
      exact hview a
  · intro e he
    rwa [he] at hd

lemma keeps_dite {view : α → Datum} {d : Datum} {p : Prop} [Decidable p] {f : p → α} {r : Rejection}
    (hf : ∀ h, view (f h) = d) : Keeps view d (if h : p then .ok (f h) else reject r) := by
  split
  · exact hf _
  · rfl

/-- A list is given item by item. -/
lemma gives_mapM {check : β → Checked α} {R : β → α → Prop} {bs : List β}
    (hcheck : ∀ b ∈ bs, Gives P (check b) (R b)) : Gives P (bs.mapM check) (List.Forall₂ R bs) := by
  induction bs with
  | nil => exact (gives_ok []).congr fun as => by simp [eq_comm]
  | cons b bs ih =>
    have hrest := ih fun c hc => hcheck c (List.mem_cons_of_mem b hc)
    rw [List.mapM_cons]
    apply ((hcheck b List.mem_cons_self).bind fun a _ => hrest.bind fun as _ => gives_ok (a :: as)).congr
    intro l
    constructor
    · rintro ⟨a, ha, as, has, rfl⟩
      exact .cons ha has
    · rintro (_ | ⟨ha, has⟩)
      exact ⟨_, ha, _, has, rfl⟩

/-- A list whose items are known by their views is known by its views. -/
lemma gives_items {check : Datum → Checked α} {view : α → Datum} (hcheck : ∀ d, Gives P (check d) (view · = d))
    (ds : List Datum) : Gives P (ds.mapM check) (·.map view = ds) := by
  apply (gives_mapM fun d _ => (hcheck d).congr fun a => eq_comm).congr
  intro as
  rw [← List.forall₂_map_right_iff, List.forall₂_eq_eq_eq, eq_comm]

/-- What may be given, and is checked where it is. -/
lemma gives_optional {γ : Type} {check : Datum → Checked α} {view : α → Datum} {given : γ → Datum}
    (hview : ∀ a, view a ≠ .none) (hgiven : ∀ c, given c ≠ .none)
    (hcheck : ∀ g : CommandLine.Given γ, Gives P (check (g.datum given)) (view · = g.datum given))
    (o : Option (CommandLine.Given γ)) :
    Gives P (optional check (CommandLine.Given.datum? given o))
      (viewOption view · = CommandLine.Given.datum? given o) := by
  cases o with
  | none =>
    apply (gives_ok none).congr
    intro v
    cases v with
    | none => exact iff_of_true rfl rfl
    | some a => exact iff_of_false nofun (hview a)
  | some g =>
    have hsome : g.datum given ≠ .none := by
      cases g with
      | nothing => exact nofun
      | value c => exact hgiven c
    have hoptional : optional check (g.datum given) = (check (g.datum given)).map some := by
      unfold optional
      split
      · rename_i h
        exact absurd h hsome
      · rfl
    change Gives P (optional check (g.datum given)) (viewOption view · = g.datum given)
    rw [hoptional]
    apply ((hcheck g).map some).congr
    intro v
    cases v with
    | none => exact iff_of_false (fun ⟨_, _, h⟩ => nomatch h) (Ne.symm hsome)
    | some a => simp [viewOption]

end Checked

open Checked

/-! ### Single values -/

lemma Name.gives_check (what : String) (d : Datum) : Gives Reported (Name.check what d) (·.view = d) := by
  apply gives_of_keeps (Name.check_view what)
  unfold Name.check
  split
  · exact keeps_dite fun _ => rfl
  · rfl

lemma FieldText.gives_check (what : String) (d : Datum) :
    Gives Reported (FieldText.check what d) (·.view = d) := by
  apply gives_of_keeps (FieldText.check_view what)
  unfold FieldText.check
  split
  · exact keeps_dite fun _ => rfl
  · rfl

lemma Phrase.gives_check (subject : String) (d : Datum) :
    Gives Reported (Phrase.check subject d) (·.view = d) := by
  apply gives_of_keeps (Phrase.check_view subject)
  unfold Phrase.check
  split
  · exact keeps_dite fun _ => rfl
  · rfl

lemma Count.gives_check (subject : String) (d : Datum) :
    Gives Reported (Count.check subject d) (·.view = d) := by
  apply gives_of_keeps (Count.check_view subject)
  unfold Count.check
  split
  · rename_i i
    apply keeps_dite
    intro h
    change Datum.int (i.toNat : Int) = .int i
    rw [Int.toNat_of_nonneg (by omega)]
  · rfl

lemma gives_checkNatural (subject : String) (d : Datum) :
    Gives Reported (checkNatural subject d) (fun n => .int n = d) := by
  apply gives_of_keeps (checkNatural_int subject)
  unfold checkNatural
  split
  · split
    · rename_i i h
      change Datum.int (i.toNat : Int) = .int i
      rw [Int.toNat_of_nonneg h]
    · rfl
  · rfl

lemma Quantity.view_ne_none (q : Quantity) : q.view ≠ .none := by
  obtain ⟨n, -⟩ := q
  cases n with
  | int i => exact nofun
  | float d => exact nofun

lemma Share.check_view (subject : String) (s : Share) : Share.check subject s.view = .ok s := by
  have hquantity : Quantity.check subject s.view = .ok s.toQuantity := by
    have hnum : s.view.num? = some s.num := by
      unfold Quantity.view
      cases s.num <;> rfl
    unfold Quantity.check
    rw [hnum]
    exact dif_pos s.finite
  unfold Share.check
  rw [hquantity]
  exact dif_pos s.unit

/-- A double is never too large, so every fault about it is reported. -/
lemma Share.gives_check (subject : String) (g : CommandLine.Given Double) :
    Gives Reported (Share.check subject (g.datum .float)) (fun s : Share => s.view = g.datum .float) := by
  apply gives_of_keeps (Share.check_view subject)
  cases g with
  | nothing => rfl
  | value x =>
    change Keeps _ (.float x) (Share.check subject (.float x))
    unfold Share.check Quantity.check
    by_cases hfinite : (Num.float x).isFinite = true
    · simp only [Datum.num?, dif_pos hfinite]
      change Keeps _ _ (if h : (Num.float x).inUnit = true then Except.ok (⟨⟨.float x, hfinite⟩, h⟩ : Share) else
        reject (.outsideUnit subject (.float x)))
      exact keeps_dite fun _ => rfl
    · simp only [Datum.num?, dif_neg hfinite]
      rfl

lemma Share.gives_optional (subject : String) (given : Option (CommandLine.Given Double)) :
    Gives Reported (optional (Share.check subject) (CommandLine.Given.datum? .float given))
      (viewOption (fun s : Share => s.view) · = CommandLine.Given.datum? .float given) := by
  apply Checked.gives_optional
  · exact fun s => s.view_ne_none
  · exact fun _ h => nomatch h
  · exact Share.gives_check subject

end VectorQuery
