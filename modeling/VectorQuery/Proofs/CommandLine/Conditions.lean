import VectorQuery.CommandLine.Descriptor
import VectorQuery.Proofs.Term.ByView

/-! The conditions of a command line: each is an equality of the property before the first equals sign with the
text after it, and together they are one filter. -/
namespace VectorQuery

namespace Text

/-- A text is cut at the first occurrence. -/
lemma cut?_eq_some_iff {sep : Char} {s a b : List Char} :
    cut? sep s = some (a, b) ↔ sep ∉ a ∧ s = a ++ sep :: b := by
  induction s generalizing a with
  | nil => simp [cut?]
  | cons c s ih =>
    unfold cut?
    split
    next hc =>
      subst hc
      cases a with
      | nil => simp [eq_comm]
      | cons c' a =>
        refine iff_of_false (by simp) ?_
        rintro ⟨hmem, hs⟩
        exact hmem ((List.cons.inj hs).1 ▸ List.mem_cons_self)
    next hc =>
      cases a with
      | nil => simp [hc]
      | cons c' a =>
        simp only [Option.map_eq_some_iff, Prod.exists, Prod.mk.injEq, List.cons.injEq]
        constructor
        · rintro ⟨_, _, hcut, ⟨rfl, rfl⟩, rfl⟩
          obtain ⟨hmem, rfl⟩ := ih.1 hcut
          exact ⟨by simp [hmem, Ne.symm hc], rfl⟩
        · rintro ⟨hmem, hs⟩
          obtain ⟨rfl, rfl⟩ := List.cons.inj hs
          exact ⟨a, b, ih.2 ⟨fun h => hmem (List.mem_cons_of_mem c h), rfl⟩, ⟨rfl, rfl⟩, rfl⟩

lemma cut?_eq_none_iff {sep : Char} {s : List Char} : cut? sep s = none ↔ sep ∉ s := by
  induction s with
  | nil => simp [cut?]
  | cons c s ih =>
    unfold cut?
    split
    next hc => simp [hc]
    next hc => simp [ih, Ne.symm hc]

end Text

open Checked Text

lemma Path.gives_check_str (s : String) : Gives Reported (Path.check (.str s)) (·.segments = segmentsOf s) := by
  have hcheck : Path.check (.str s) =
      if h : isPath (segmentsOf s) = true then .ok ⟨segmentsOf s, h⟩
      else reject (.invalid "property path" (.str s)) := rfl
  rw [hcheck]
  split
  · rename_i h
    apply (gives_ok (⟨segmentsOf s, h⟩ : Path)).congr
    intro p
    cases p
    simp [eq_comm]
  · rename_i h
    refine gives_error (e := .rejected (.invalid "property path" (.str s))) rfl ?_
    intro p hp
    exact h (hp ▸ p.valid)

namespace CommandLine

/-- An item is an equality: of the property in front of its first equals sign with the text behind it. -/
inductive Equates : Given String → Filter → Prop
  | intro {item : String} {property value : List Char} {path : Path} (hitem : item.toList = property ++ '=' :: value)
      (hfirst : '=' ∉ property) (hpath : path.segments = Path.segmentsOf (.ofList property)) :
    Equates (.value item) (.leaf ⟨path, .known .equal, .text (.plain (.ofList value))⟩)

/-- An item without an equals sign, or with one behind what is no property. -/
inductive NoCondition : Given String → Prop
  | nothing : NoCondition .nothing
  | unsigned {item : String} (h : '=' ∉ item.toList) : NoCondition (.value item)
  | property {item : String} {property value : List Char} (hitem : item.toList = property ++ '=' :: value)
      (hfirst : '=' ∉ property) (h : isPath (Path.segmentsOf (.ofList property)) = false) : NoCondition (.value item)

lemma NoCondition.not_equates {item : Given String} (h : NoCondition item) (f : Filter) : ¬Equates item f := by
  rintro ⟨hitem, hfirst, hpath⟩
  rename_i item _ _ path
  have hcut := cut?_eq_some_iff.2 ⟨hfirst, hitem⟩
  cases h with
  | unsigned h =>
    rw [cut?_eq_none_iff.2 h] at hcut
    cases hcut
  | property hitem' hfirst' h =>
    rw [cut?_eq_some_iff.2 ⟨hfirst', hitem'⟩] at hcut
    obtain ⟨rfl, -⟩ := Prod.mk.inj (Option.some.inj hcut)
    rw [← hpath, path.valid] at h
    cases h

lemma exists_equates_of_mem {items : List (Given String)} {fs : List Filter} (h : List.Forall₂ Equates items fs)
    {item : Given String} (hitem : item ∈ items) : ∃ f, Equates item f := by
  induction h with
  | nil => cases hitem
  | cons hf _ ih =>
    obtain rfl | hitem := List.mem_cons.1 hitem
    · exact ⟨_, hf⟩
    · exact ih hitem

/-- Faults of conditions: reported ones, and one that is not where an item is given nothing. -/
def Faulty (items : List (Given String)) (e : Fault) : Prop := Reported e ∨ e = .noAttribute ∧ .nothing ∈ items

lemma Faulty.mono {items items' : List (Given String)} {e : Fault} (he : Faulty items e) (h : items ⊆ items') :
    Faulty items' e := he.imp_right fun ⟨he, hmem⟩ => ⟨he, h hmem⟩

/-- The condition of an item is checked by its property alone. -/
lemma condition_of_cut {item : String} {property value : List Char}
    (h : cut? '=' item.toList = some (property, value)) :
    Arguments.condition (.value item) = (Path.check (.str (.ofList property))).map fun path =>
      .leaf ⟨path, .known .equal, .text (.plain (.ofList value))⟩ := by
  simp only [Arguments.condition, cutValue, h]
  change ((Path.check (.str (.ofList property)) >>= fun path => Except.ok
    (⟨path, .known .equal, .text (.plain (.ofList value))⟩ : Predicate)).map Filter.leaf) = _
  cases Path.check (.str (.ofList property)) <;> rfl

lemma gives_condition (item : Given String) :
    Gives (Faulty [item]) (Arguments.condition item) (Equates item) := by
  cases item with
  | nothing => exact gives_error (.inr ⟨rfl, by simp⟩) nofun
  | value item =>
    cases hcut : cut? '=' item.toList with
    | none =>
      have hcondition : Arguments.condition (.value item) = .error (.badCondition item) := by
        simp [Arguments.condition, cutValue, hcut]
      rw [hcondition]
      apply gives_error (.inl rfl)
      exact (NoCondition.unsigned (cut?_eq_none_iff.1 hcut)).not_equates
    | some cut =>
      obtain ⟨property, value⟩ := cut
      obtain ⟨hfirst, hitem⟩ := cut?_eq_some_iff.1 hcut
      have hcheck : Gives (Faulty [.value item]) (Path.check (.str (.ofList property))) _ :=
        (Path.gives_check_str (.ofList property)).mono fun _ => .inl
      rw [condition_of_cut hcut]
      apply (hcheck.map _).congr
      intro f
      constructor
      · rintro ⟨path, hpath, rfl⟩
        exact .intro hitem hfirst hpath
      · rintro ⟨hitem', hfirst', hpath⟩
        rw [cut?_eq_some_iff.2 ⟨hfirst', hitem'⟩] at hcut
        obtain ⟨rfl, rfl⟩ := Prod.mk.inj (Option.some.inj hcut)
        exact ⟨_, hpath, rfl⟩

lemma gives_conditions (items : List (Given String)) :
    Gives (Faulty items) (items.mapM Arguments.condition) (List.Forall₂ Equates items) := by
  apply gives_mapM
  intro item hitem
  exact (gives_condition item).mono fun _ he => he.mono (by simpa using hitem)

/-! ### Their conjunction -/

/-- A single condition alone, and several as one filter in their order. -/
def conjunction : List Filter → Option Filter
  | [] => none
  | [f] => some f
  | f :: fs => some (.all f fs)

lemma checkOperand_filter (f : Filter) : Filter.checkOperand (.object (.filter f)) = .ok f := rfl

lemma allOf_map (f : Filter) (fs : List Filter) :
    Filter.allOf ((f :: fs).map fun f => .object (.filter f)) = .ok (.all f fs) := by
  change (((f :: fs).map fun f => .object (.filter f)).mapM Filter.checkOperand >>= Filter.combine .and) = _
  rw [mapM_view checkOperand_filter]
  rfl

/-- The call that sets a filter. -/
def settingFilter (f : Filter) : QueryCall := .withFilter (.object (.filter f))

lemma filterCall?_eq (a : Arguments) : a.filterCall? =
    (a.whereEqual.mapM Arguments.condition).map fun fs => (conjunction fs).map settingFilter := by
  unfold Arguments.filterCall?
  cases a.whereEqual.mapM Arguments.condition with
  | error e => rfl
  | ok fs =>
    match fs with
    | [] => rfl
    | [f] => rfl
    | f :: g :: fs =>
      change (Filter.allOf ((f :: g :: fs).map fun f => .object (.filter f)) >>= fun f =>
        Except.ok (some (settingFilter f))) = _
      rw [allOf_map]
      rfl

end CommandLine

end VectorQuery
