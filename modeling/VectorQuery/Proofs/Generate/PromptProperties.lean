import VectorQuery.Generate.Clause
import VectorQuery.Proofs.Distinct
import VectorQuery.Proofs.Query.ArgumentValues
import Mathlib.Data.List.Infix

/-! The properties that a prompt interpolates. Main statement: the placeholders that are found are those that
occur anywhere in the prompt, and they come in the order in which they occur first. -/
namespace VectorQuery.Generate
open GraphQL

/-- A name in braces. -/
def placeholder (name : String) : List Char := '{' :: (name.toList ++ ['}'])

/-- Whether a prompt has a name in braces, at any place. -/
def Interpolates (template : List Char) (name : String) : Prop :=
  isStrictName name.toList = true ∧ placeholder name <:+: template

/-- The position at which a text first has another one in it. -/
def firstAt (part text : List Char) : Nat := text.tails.findIdx part.isPrefixOf

/-- The name of the placeholder that a text begins with. -/
def leading? : List Char → Option String
  | '{' :: r => (placeholderAt r).map String.ofList
  | _ => none

lemma placeholderAt_eq_some_iff {s name : List Char} : placeholderAt s = some name ↔
    isStrictName name = true ∧ name ++ ['}'] <+: s := by
  constructor
  · intro h
    cases s with
    | nil => cases h
    | cons c r =>
      simp only [placeholderAt] at h
      split at h
      · rename_i q hq
        obtain ⟨hc, h⟩ := Option.ite_none_right_eq_some.1 h
        obtain rfl := Option.some.inj h
        have hall : (r.takeWhile isNameChar).all isNameChar = true :=
          List.all_eq_true.2 fun d hd => mem_takeWhile d hd
        have htake := List.prefix_iff_eq_take.1 (List.takeWhile_prefix (l := r) isNameChar)
        have hsplit := List.take_append_drop (r.takeWhile isNameChar).length r
        rw [← htake, hq] at hsplit
        refine ⟨by rw [isStrictName, hc, hall]; rfl, q, ?_⟩
        rw [List.append_assoc, List.cons_append, List.singleton_append, hsplit]
      · cases h
  · rintro ⟨hname, q, rfl⟩
    cases name with
    | nil => cases hname
    | cons c w =>
      obtain ⟨hc, hall⟩ := Bool.and_eq_true_iff.1 hname
      have htake : (w ++ ['}'] ++ q).takeWhile isNameChar = w := by
        rw [List.append_assoc]
        exact takeWhile_append_stops (List.all_eq_true.1 hall) (by rintro d ⟨⟩; rfl)
      simp only [List.cons_append, placeholderAt, htake, hc]
      simp

lemma leading?_eq_some_iff {s : List Char} {name : String} : leading? s = some name ↔
    isStrictName name.toList = true ∧ placeholder name <+: s := by
  unfold leading?
  split
  · rename_i r
    rw [Option.map_eq_some_iff, placeholder, List.cons_prefix_cons]
    constructor
    · rintro ⟨w, hw, rfl⟩
      rw [String.toList_ofList]
      exact ⟨(placeholderAt_eq_some_iff.1 hw).1, rfl, (placeholderAt_eq_some_iff.1 hw).2⟩
    · rintro ⟨hname, -, hprefix⟩
      exact ⟨name.toList, placeholderAt_eq_some_iff.2 ⟨hname, hprefix⟩, String.ofList_toList⟩
  · rename_i hs
    constructor
    · intro h
      cases h
    · rintro ⟨-, q, rfl⟩
      exact absurd rfl (hs _)

/-- The names of the placeholders, with repetitions. -/
def names (s : List Char) : List String := (placeholders s).map String.ofList

lemma names_cons (c : Char) (r : List Char) :
    names (c :: r) = (leading? (c :: r)).toList ++ names r := by
  unfold names
  by_cases hc : c = '{'
  · subst hc
    rw [placeholders, leading?]
    cases placeholderAt r <;> rfl
  · rw [placeholders, leading?]
    · rfl
    · exact fun u hu => hc (List.cons.inj hu).1
    · exact hc

/-- A name is found exactly where its placeholder occurs. -/
theorem mem_names_iff {s : List Char} {name : String} : name ∈ names s ↔ Interpolates s name := by
  induction s with
  | nil => simp [names, placeholders, Interpolates, placeholder]
  | cons c r ih =>
    rw [names_cons, List.mem_append, Option.mem_toList, leading?_eq_some_iff, ih,
      Interpolates, Interpolates, List.infix_cons_iff, and_or_left]

lemma firstAt_cons_eq_zero {part : List Char} {c : Char} {r : List Char}
    (h : part <+: c :: r) : firstAt part (c :: r) = 0 := by
  rw [firstAt, List.tails_cons, List.findIdx_cons, List.isPrefixOf_iff_prefix.2 h]
  rfl

lemma firstAt_cons_eq_succ {part : List Char} {c : Char} {r : List Char}
    (h : ¬part <+: c :: r) : firstAt part (c :: r) = firstAt part r + 1 := by
  have hfalse : part.isPrefixOf (c :: r) = false := by
    rw [Bool.eq_false_iff]
    exact fun hprefix => h (List.isPrefixOf_iff_prefix.1 hprefix)
  rw [firstAt, List.tails_cons, List.findIdx_cons, hfalse]
  rfl

/-- What comes first among the names comes first in the text. -/
theorem firstAt_lt_firstAt {s : List Char} {p q : String} (hp : p ∈ names s) (hq : q ∈ names s)
    (h : (names s).idxOf p < (names s).idxOf q) :
    firstAt (placeholder p) s < firstAt (placeholder q) s := by
  induction s with
  | nil => simp [names, placeholders] at hp
  | cons c r ih =>
    have hstrict {n : String} (hn : n ∈ names (c :: r)) : isStrictName n.toList = true :=
      (mem_names_iff.1 hn).1
    rw [names_cons] at hp hq h
    rw [names_cons] at hstrict
    -- at most one placeholder begins here: the other one, or both, begin behind
    cases hn : leading? (c :: r) with
    | none =>
      rw [hn] at hp hq h hstrict
      have hnone {n : String} (hmem : n ∈ names r) : ¬placeholder n <+: c :: r := fun hprefix => by
        rw [leading?_eq_some_iff.2 ⟨hstrict hmem, hprefix⟩] at hn
        cases hn
      rw [firstAt_cons_eq_succ (hnone hp), firstAt_cons_eq_succ (hnone hq)]
      exact Nat.succ_lt_succ (ih hp hq h)
    | some n =>
      rw [hn] at hp hq h hstrict
      simp only [Option.toList_some, List.singleton_append] at hp hq h hstrict
      have hother {m : String} (hmem : m ∈ n :: names r) (hm : n ≠ m) :
          ¬placeholder m <+: c :: r := fun hprefix => by
        rw [leading?_eq_some_iff.2 ⟨hstrict hmem, hprefix⟩] at hn
        exact hm (Option.some.inj hn).symm
      have hqn : n ≠ q := by
        rintro rfl
        rw [List.idxOf_cons_self] at h
        exact Nat.not_lt_zero _ h
      rw [firstAt_cons_eq_succ (hother hq hqn)]
      by_cases hpn : n = p
      · subst hpn
        rw [firstAt_cons_eq_zero (leading?_eq_some_iff.1 hn).2]
        exact Nat.succ_pos _
      · rw [firstAt_cons_eq_succ (hother hp hpn)]
        rw [List.idxOf_cons_ne _ hpn, List.idxOf_cons_ne _ hqn] at h
        exact Nat.succ_lt_succ (ih ((List.mem_cons.1 hp).resolve_left (Ne.symm hpn))
          ((List.mem_cons.1 hq).resolve_left (Ne.symm hqn)) (Nat.lt_of_succ_lt_succ h))

/-! ### The properties of a prompt -/

/-- The properties of a prompt with explicit ones: those it interpolates, in the order of their first
placeholders, and then the explicit ones that are new, in the order in which they are given. -/
structure AreProperties (template : String) (explicit properties : List String) : Prop where
  nodup : properties.Nodup
  mem_iff : ∀ p, p ∈ properties ↔ p ∈ explicit ∨ Interpolates template.toList p
  order : ∃ found added, properties = found ++ added ∧
    (∀ p ∈ found, Interpolates template.toList p) ∧
    (∀ p ∈ added, ¬Interpolates template.toList p) ∧
    (found.Pairwise fun p q =>
      firstAt (placeholder p) template.toList < firstAt (placeholder q) template.toList) ∧
    added.Pairwise fun p q => explicit.idxOf p < explicit.idxOf q

/-- The placeholders of a prompt, and then what is new among the explicit properties. -/
lemma promptProperties_eq (template : String) (explicit : List String) :
    promptProperties template explicit = distinctAfter (· == ·) [] (names template.toList) ++
      distinctAfter (· == ·) (names template.toList) explicit := by
  rw [promptProperties, distinct_eq_eraseDups, distinctAfter_eq_eraseDups,
    distinctAfter_eq_eraseDups, List.eraseDups_append]
  simp [names, List.removeAll]

theorem areProperties_promptProperties (template : String) (explicit : List String) :
    AreProperties template explicit (promptProperties template explicit) := by
  refine ⟨nodup_distinctAfter _ _, fun p => ?mem, _, _, promptProperties_eq template explicit,
    ?found, ?added, ?foundOrder, pairwise_idxOf_distinctAfter _ explicit⟩
  case mem =>
    rw [promptProperties, distinct, mem_distinctAfter, List.mem_append, or_comm,
      ← mem_names_iff]
    simp [names]
  case found => exact fun p hp => mem_names_iff.1 (mem_distinctAfter.1 hp).1
  case added => exact fun p hp h => (mem_distinctAfter.1 hp).2 (mem_names_iff.2 h)
  case foundOrder =>
    exact (pairwise_idxOf_distinctAfter [] _).imp_of_mem fun hp hq hlt =>
      firstAt_lt_firstAt (mem_distinctAfter.1 hp).1 (mem_distinctAfter.1 hq).1 hlt

end VectorQuery.Generate

namespace VectorQuery

/-- The properties of a directive are names. -/
lemma GenerateDirective.isStrictName_of_mem_properties {g : GenerateDirective} {p : String}
    (hp : ArePlain g.texts) (hn : ∀ n ∈ g.explicitProperties, '\n' ∉ n.content.toList)
    (h : p ∈ g.properties) : GraphQL.isStrictName p.toList = true := by
  rcases ((Generate.areProperties_promptProperties _ _).mem_iff p).1 h with h | h
  · obtain ⟨n, hmem, rfl⟩ := List.mem_map.1 h
    have hplain : n.text.isPlain = true :=
      hp n.text (by simp only [texts, List.mem_cons, List.mem_append, List.mem_map_of_mem hmem, or_true])
    rw [MarkedText.shown_of_isPlain hplain]
    exact GraphQL.isStrictName_of_isName n.valid (hn n hmem)
  · exact h.1

end VectorQuery
