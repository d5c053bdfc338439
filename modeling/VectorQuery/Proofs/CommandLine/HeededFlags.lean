import VectorQuery.Proofs.CommandLine.DescribedQuery

/-! Which flags of a command line count. Those with a value do, or are refused: a search with a text, a certainty, a
limit, and each condition. A search with an empty text is the exception: it is dropped without a fault. -/
namespace VectorQuery.CommandLine
open Checked

namespace Arguments

/-- The arguments without a search. -/
def unsearched (a : Arguments) : Arguments := { a with nearText := none, bm25 := none, hybrid := none }

/-- The arguments without conditions. -/
def unfiltered (a : Arguments) : Arguments := { a with whereEqual := [] }

/-- What becomes of the flags of a command line. -/
structure Heeded (a : Arguments) : Prop where
  /-- there is a query exactly if the command line describes one, and it is that query -/
  ok_iff : ∀ q, a.descriptor = .ok q ↔ a.Describes q
  fails : FailsIn (Faulty a.whereEqual) a.descriptor
  search : ∀ f text, a.search f = some (.value text) → text ≠ "" →
    (∃ e, a.descriptor = .error e ∧ Faulty a.whereEqual e) ∨
      ∃ q s, a.descriptor = .ok q ∧ q.search = some s ∧ Clause a text f s
  /-- a search with an empty text does nothing at all -/
  dropped : ∀ f, a.search f = some (.value "") → a.descriptor = a.unsearched.descriptor
  refused : ∀ item ∈ a.whereEqual, NoCondition item → ∃ e, a.descriptor = .error e ∧ Faulty a.whereEqual e
  filter : ∀ fs, List.Forall₂ Equates a.whereEqual fs → ∀ q, a.descriptor = .ok q ↔
    q.filter = conjunction fs ∧ a.unfiltered.descriptor = .ok { q with filter := none }

variable {a : Arguments}

/-- The conditions of a filter that is described are those of the items. -/
lemma Describes.filter_eq {q : QueryDescriptor} {fs : List Filter} (h : a.Describes q)
    (hfs : List.Forall₂ Equates a.whereEqual fs) : q.filter = conjunction fs := by
  obtain ⟨fs', hfs', hfilter⟩ := h.filter
  have hok := (gives_conditions a.whereEqual).ok_iff
  obtain rfl := Except.ok.inj (((hok fs).2 hfs).symm.trans ((hok fs').2 hfs'))
  exact hfilter

/-- The search is a matter of the searches that are given and of the two numbers. -/
lemma Retrieves.congr {b : Arguments} {search : Option Search} (h : a.Retrieves search) (hsearch : b.search = a.search)
    (hcertainty : b.certainty = a.certainty) (halpha : b.alpha = a.alpha) : b.Retrieves search := by
  cases h with
  | clause hgiven htext hs =>
    refine .clause ((congrFun hsearch _).trans hgiven) htext ?_
    cases hs with
    | nearText hconcepts hthreshold hdistance => exact .nearText hconcepts (hcertainty ▸ hthreshold) hdistance
    | bm25 hquery => exact .bm25 hquery
    | hybrid hquery hshare => exact .hybrid hquery (halpha ▸ hshare)
  | none h => exact .none fun f text hgiven => h f text (hsearch ▸ hgiven)

/-- The filter is one of the slots that a command line can set. -/
lemma read_setFilter (q : QueryDescriptor) (filter : Option Filter) {s : QuerySlot} (hs : s ∉ slots) :
    QueryDescriptor.read { q with filter } s = q.read s := by
  cases s with
  | filter => exact absurd (by decide) hs
  | _ => rfl

/-- Conditions that stand for filters do nothing but set their conjunction. -/
lemma describes_iff_unfiltered {q : QueryDescriptor} {fs : List Filter}
    (hfs : List.Forall₂ Equates a.whereEqual fs) :
    a.Describes q ↔ q.filter = conjunction fs ∧ a.unfiltered.Describes { q with filter := none } := by
  constructor
  · intro h
    refine ⟨h.filter_eq hfs, h.collection, h.fields, h.search.congr rfl rfl rfl, ⟨[], .nil, rfl⟩, h.limit,
      h.offset, h.additional, ?_⟩
    intro s hs
    rw [read_setFilter q none hs]
    exact h.unset s hs
  · rintro ⟨hfilter, h⟩
    refine ⟨h.collection, h.fields, h.search.congr rfl rfl rfl, ⟨fs, hfs, hfilter⟩, h.limit, h.offset,
      h.additional, ?_⟩
    intro s hs
    rw [← read_setFilter q none hs]
    exact h.unset s hs

/-! ### What becomes of each flag -/

/-- A search with a text is refused or set. -/
lemma fault_or_clause {f : Flag} {text : String} (hone : a.OneSearch) (hgiven : a.search f = some (.value text))
    (htext : text ≠ "") : (∃ e, a.descriptor = .error e ∧ Faulty a.whereEqual e) ∨
      ∃ q s, a.descriptor = .ok q ∧ q.search = some s ∧ Clause a text f s := by
  have hdescriptor := gives_descriptor hone
  cases hq : a.descriptor with
  | error e => exact .inl ⟨e, rfl, hdescriptor.fails e hq⟩
  | ok q =>
    obtain ⟨s, hs, hsearch⟩ := (retrieves_iff hone hgiven htext).1 ((hdescriptor.ok_iff q).1 hq).search
    exact .inr ⟨q, s, rfl, hsearch.symm, hs⟩

/-- An empty text makes no call, and where one search at most is given there is no other one to make it. -/
lemma descriptor_unsearched {f : Flag} (hone : a.OneSearch) (hgiven : a.search f = some (.value "")) :
    a.descriptor = a.unsearched.descriptor := by
  have hcall : a.searchCall? = none := by
    obtain ⟨f', text, -, -, hgiven', htext, -⟩ | ⟨-, hcall⟩ := a.searchCall?_cases
    · obtain rfl := hone f f' (by simp [hgiven]) (by simp [hgiven'])
      exact absurd (Given.value.inj (Option.some.inj (hgiven'.symm.trans hgiven))) htext
    · exact hcall
  unfold descriptor
  rw [hcall]
  rfl

/-- An item that is no condition is refused. -/
lemma fault_of_noCondition {item : Given String} (hone : a.OneSearch) (hitem : item ∈ a.whereEqual)
    (h : NoCondition item) : ∃ e, a.descriptor = .error e ∧ Faulty a.whereEqual e := by
  have hdescriptor := gives_descriptor hone
  cases hq : a.descriptor with
  | error e => exact ⟨e, rfl, hdescriptor.fails e hq⟩
  | ok q =>
    obtain ⟨fs, hfs, -⟩ := ((hdescriptor.ok_iff q).1 hq).filter
    obtain ⟨f, hf⟩ := exists_equates_of_mem hfs hitem
    exact absurd hf (h.not_equates f)

lemma descriptor_eq_ok_iff_unfiltered {fs : List Filter} (hone : a.OneSearch)
    (hfs : List.Forall₂ Equates a.whereEqual fs) (q : QueryDescriptor) : a.descriptor = .ok q ↔
      q.filter = conjunction fs ∧ a.unfiltered.descriptor = .ok { q with filter := none } := by
  have hunfiltered : a.unfiltered.OneSearch := hone.congr rfl
  rw [(gives_descriptor hone).ok_iff, (gives_descriptor hunfiltered).ok_iff]
  exact describes_iff_unfiltered hfs

/-- **Flags count or are refused**, all but a search with an empty text. From a command line that can be read,
whatever its conditions are, a query is made exactly if all that is given can stand in its slot, and then it has that
in its slots. The clause of the query is that of the one search whose text is not empty. An item without an equals
sign, or without a property in front of it, ends in a fault; the other items are equalities of what is in front of
their first equals sign with what is behind it, and all of them have to hold. A search with an empty text is taken
for one that is not given. -/
theorem heeded_of_read {argv : List String} (h : Arguments.read argv = .ok a) (items : List (Given String)) :
    Heeded { a with whereEqual := items } := by
  have hsearch : Arguments.search { a with whereEqual := items } = a.search := rfl
  have hone := (oneSearch_of_read h).congr hsearch
  constructor
  case ok_iff => exact (gives_descriptor hone).ok_iff
  case fails => exact (gives_descriptor hone).fails
  case search => exact fun f text => fault_or_clause hone
  case dropped => exact fun f => descriptor_unsearched hone
  case refused => exact fun item => fault_of_noCondition hone
  case filter => exact fun fs => descriptor_eq_ok_iff_unfiltered hone

/-- A search with a number, and two conditions: one with an equals sign in its text, and one whose text is empty. -/
theorem heeded_of_read_two_conditions :
    let near : Search := .nearText ⟨⟨.plain "x", by decide⟩, []⟩ (.certainty .whole) none none
    let condition (property value : String) (h : isPath [.plain property] = true) : Filter :=
      .leaf ⟨⟨[.plain property], h⟩, .known .equal, .text (.plain value)⟩
    ∃ a q, Arguments.read ["--collection", "A", "--near-text", "x", "--certainty", "1",
        "--where-equal", "k=a=b", "--where-equal", "lang="] = .ok a ∧
      a.descriptor = .ok q ∧ q.search = some near ∧
      q.filter = some (.all (condition "k" "a=b" (by decide)) [condition "lang" "" (by decide)]) := by
  intro near condition
  let a : Arguments := { Reading.start.arguments with
    collection := .value "A", nearText := some (.value "x"), certainty := some (.value .one)
    whereEqual := [.value "k=a=b", .value "lang="] }
  have hread : Arguments.read ["--collection", "A", "--near-text", "x", "--certainty", "1",
      "--where-equal", "k=a=b", "--where-equal", "lang="] = .ok a := rfl
  let q : QueryDescriptor := { QueryDescriptor.ofSlots ⟨.plain "A", by decide⟩ QuerySlot.default with
    search := some near
    filter := some (.all (condition "k" "a=b" (by decide)) [condition "lang" "" (by decide)]) }
  refine ⟨a, q, hread, ((heeded_of_read hread a.whereEqual).ok_iff q).2 ?_, rfl, rfl⟩
  have hclause : Clause a "x" .nearText near := .nearText rfl rfl rfl
  have hk : "k=a=b".toList = ['k'] ++ '=' :: "a=b".toList := by decide
  have hlang : "lang=".toList = "lang".toList ++ '=' :: [] := by decide
  have hfilter : List.Forall₂ Equates a.whereEqual
      [condition "k" "a=b" (by decide), condition "lang" "" (by decide)] :=
    .cons (.intro hk (by decide) rfl) (.cons (.intro hlang (by decide) rfl) .nil)
  refine ⟨rfl, rfl, .clause rfl (by decide) hclause, ⟨_, hfilter, rfl⟩, rfl, rfl, rfl, ?_⟩
  intro s hs
  cases s <;> first | rfl | simp [slots] at hs

/-- With an empty text there is neither a fault nor a search. -/
theorem descriptor_empty_text : ∃ a q, Arguments.read ["--collection", "A", "--near-text", ""] = .ok a ∧
    a.search .nearText = some (.value "") ∧ a.descriptor = .ok q ∧ q.search = none :=
  ⟨{ Reading.start.arguments with collection := .value "A", nearText := some (.value "") },
    .ofSlots ⟨.plain "A", by decide⟩ QuerySlot.default, rfl, rfl, rfl, rfl⟩

end Arguments

end VectorQuery.CommandLine
