import Mathlib.Tactic.ByContra
import VectorQuery.CommandLine.Arguments
import VectorQuery.Proofs.Checked

/-! A command line that can be read names one search at most. The flags that were met guard this: whoever completes
a search is checked against the other searches among them. -/
namespace VectorQuery.CommandLine
open Checked (bind_ok)

/-- What is given for a search; the other flags are no search. -/
def Arguments.search (a : Arguments) : Flag → Option (Given String)
  | .nearText => a.nearText
  | .bm25 => a.bm25
  | .hybrid => a.hybrid
  | _ => none

/-- No two searches are given. -/
def Arguments.OneSearch (a : Arguments) : Prop :=
  ∀ f g, a.search f ≠ none → a.search g ≠ none → f = g

lemma Arguments.mem_searches {a : Arguments} {f : Flag} (h : a.search f ≠ none) : f ∈ Flag.searches := by
  cases f with
  | nearText | bm25 | hybrid => simp [Flag.searches]
  | _ => exact absurd rfl h

lemma Arguments.OneSearch.congr {a b : Arguments} (ha : a.OneSearch) (h : b.search = a.search) : b.OneSearch := by
  intro f g hf hg
  rw [h] at hf hg
  exact ha f g hf hg

namespace Reading

/-- Completing a flag leaves what is given for any other search. -/
lemma search_set {a b : Arguments} {f g : Flag} {values : List String} (h : set a f values = .ok b) (hg : g ≠ f) :
    b.search g = a.search g := by
  have hcheck {α : Type} {x : Except Stop α} {k : α → Arguments} (hk : ∀ v, (k v).search g = a.search g)
      (hx : (do return k (← x)) = Except.ok b) : b.search g = a.search g := by
    obtain ⟨v, -, hv⟩ := bind_ok hx
    obtain rfl := Except.ok.inj hv
    exact hk v
  cases f with
  | help => cases h
  | certainty | alpha | limit | offset => exact hcheck (fun _ => by cases g <;> rfl) h
  | nearText | bm25 | hybrid =>
    obtain rfl := Except.ok.inj h
    cases g with
    | nearText | bm25 | hybrid => first | rfl | exact absurd rfl hg
    | _ => rfl
  | _ =>
    obtain rfl := Except.ok.inj h
    cases g <;> rfl

/-- A search that is not refused meets no other search. -/
lemma notMem_of_conflict?_eq_none {seen : List Flag} {f g : Flag} (h : conflict? seen f = none)
    (hf : f ∈ Flag.searches) (hg : g ∈ Flag.searches) (hne : g ≠ f) : g ∉ seen := by
  rw [conflict?, if_pos (List.contains_iff_mem.2 hf), List.find?_eq_none] at h
  intro hseen
  exact h g hg (by simp [hne, hseen])

/-- What every reading keeps: the searches that are given were met, and they are one at most. -/
structure Exclusive (s : Reading) : Prop where
  met : ∀ f, s.arguments.search f ≠ none → f ∈ s.seen
  one : s.arguments.OneSearch

lemma exclusive_start : Exclusive start where
  met f h := by cases f <;> exact absurd rfl h
  one f _ h := by cases f <;> exact absurd rfl h

variable {s t : Reading}

/-- Only the arguments and the flags that were met count. -/
lemma Exclusive.congr (hs : s.Exclusive) (harguments : t.arguments.search = s.arguments.search)
    (hseen : t.seen = s.seen) : t.Exclusive where
  met f h := by
    rw [harguments] at h
    rw [hseen]
    exact hs.met f h
  one := hs.one.congr harguments

lemma Exclusive.complete {f : Flag} {values : List String} (hs : s.Exclusive) (h : s.complete f values = .ok t) :
    t.Exclusive := by
  unfold Reading.complete at h
  obtain ⟨a, ha, h⟩ := bind_ok h
  have hold {g : Flag} (hg : a.search g ≠ none) (hne : g ≠ f) : g ∈ s.seen :=
    hs.met g (search_set ha hne ▸ hg)
  split at h
  · cases h
  rename_i hconflict
  obtain rfl := Except.ok.inj h
  have hother {g : Flag} (hf : a.search f ≠ none) (hg : a.search g ≠ none) : g = f := by
    by_contra hne
    exact notMem_of_conflict?_eq_none hconflict (Arguments.mem_searches hf) (Arguments.mem_searches hg) hne
      (hold hg hne)
  constructor
  · intro g hg
    by_cases hne : g = f
    · exact hne ▸ List.mem_cons_self
    · exact List.mem_cons_of_mem f (hold hg hne)
  · intro g g' hg hg'
    by_cases hne : g = f
    · subst hne
      exact (hother hg hg').symm
    · by_cases hne' : g' = f
      · subst hne'
        exact hother hg' hg
      · exact hs.one g g' (search_set ha hne ▸ hg) (search_set ha hne' ▸ hg')

lemma Exclusive.close (hs : s.Exclusive) (h : s.close = .ok t) : t.Exclusive := by
  unfold Reading.close at h
  split at h
  · obtain rfl := Except.ok.inj h
    exact hs
  · cases h
  · exact hs.complete h

lemma Exclusive.value {text : String} (hs : s.Exclusive) (h : s.value text = .ok t) : t.Exclusive := by
  unfold Reading.value at h
  split at h
  · split at h
    · obtain rfl := Except.ok.inj h
      exact hs.congr rfl rfl
    · exact hs.complete h
  · split at h
    · obtain rfl := Except.ok.inj h
      exact hs.congr rfl rfl
    · obtain rfl := Except.ok.inj h
      exact hs.congr (by funext f; cases f <;> rfl) rfl

lemma Exclusive.flag {f : Flag} {explicit : Option String} (hs : s.Exclusive) (h : s.flag f explicit = .ok t) :
    t.Exclusive := by
  unfold Reading.flag at h
  split at h
  · exact hs.complete h
  · cases h
  · exact hs.complete h
  · obtain rfl := Except.ok.inj h
    exact hs.congr rfl rfl

/-- **One item.** Every item that is read keeps the searches exclusive. -/
lemma Exclusive.step {item : Item} (hs : s.Exclusive) (h : s.step item = .ok t) : t.Exclusive := by
  cases item with
  | value text => exact hs.value h
  | flag f explicit =>
    obtain ⟨u, hu, h⟩ := bind_ok h
    exact (hs.close hu).flag h
  | stranger text =>
    obtain ⟨u, hu, h⟩ := bind_ok h
    obtain rfl := Except.ok.inj h
    exact (hs.close hu).congr rfl rfl
  | separator =>
    obtain ⟨u, hu, h⟩ := bind_ok h
    split at h
    · obtain rfl := Except.ok.inj h
      exact (hs.close hu).congr rfl rfl
    · obtain rfl := Except.ok.inj h
      exact hs.close hu

/-- **All items.** -/
lemma Exclusive.foldlM {items : List Item} (hs : s.Exclusive) (h : items.foldlM Reading.step s = .ok t) :
    t.Exclusive := by
  induction items generalizing s with
  | nil =>
    obtain rfl := Except.ok.inj h
    exact hs
  | cons item items ih =>
    rw [List.foldlM_cons] at h
    obtain ⟨u, hu, h⟩ := bind_ok h
    exact ih (hs.step hu) h

lemma Exclusive.finish {a : Arguments} (hs : s.Exclusive) (h : s.finish = .ok a) : a.OneSearch := by
  obtain ⟨u, hu, h⟩ := bind_ok h
  split at h
  · cases h
  · split at h
    · cases h
    · obtain rfl := Except.ok.inj h
      exact (hs.close hu).one

end Reading

/-- **One search.** The arguments of a command line that can be read have one search at most. -/
theorem Arguments.oneSearch_of_read {argv : List String} {a : Arguments} (h : Arguments.read argv = .ok a) :
    a.OneSearch := by
  unfold Arguments.read at h
  split at h
  · cases h
  · obtain ⟨s, hs, h⟩ := bind_ok h
    exact (Reading.exclusive_start.foldlM hs).finish h

end VectorQuery.CommandLine
