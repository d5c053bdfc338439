import VectorQuery.Datum.Equality
import VectorQuery.GraphQL.Value
import Mathlib.Data.List.Forall2
import Mathlib.Data.List.Nodup
import Mathlib.Tactic.Lemma

/-! Objects made of fields of which some may be absent. Two of them with the same names are equal as data, in any
order of their fields, only where each field is absent in both or equal in both. -/
namespace VectorQuery

/-! ### Fields of which some may be absent -/

namespace GraphQL.Value

/-- Names with values, of which some may be absent. -/
abbrev Parts := List (String × Option Value)

/-- The fields that are there. -/
def present (ps : Parts) : List (String × Value) := ps.filterMap fun p => p.2.map (p.1, ·)

lemma present_append (ps qs : Parts) : present (ps ++ qs) = present ps ++ present qs := List.filterMap_append

lemma mem_present {ps : Parts} {name : String} {v : Value} :
    (name, v) ∈ present ps ↔ (name, some v) ∈ ps := by
  unfold present
  rw [List.mem_filterMap]
  constructor
  · rintro ⟨⟨n, o⟩, hmem, h⟩
    obtain ⟨w, rfl, h⟩ := Option.map_eq_some_iff.1 h
    obtain ⟨rfl, rfl⟩ := Prod.mk.inj h
    exact hmem
  · exact fun h => ⟨_, h, rfl⟩

end GraphQL.Value

/-! ### Equal dictionaries -/

namespace Datum

lemma sameEntries_iff (es fs : Entries) :
    sameEntries es fs = true ↔ ∀ e ∈ es, ∃ f ∈ fs, e.1.same f.1 = true ∧ e.2.same f.2 = true := by
  induction es with
  | nil => simp [sameEntries]
  | cons e es ih =>
    rw [sameEntries, Bool.and_eq_true, ih, List.forall_mem_cons, List.any_eq_true]
    simp only [Bool.and_eq_true]

end Datum

namespace GraphQL.Value

/-- Equal as data. -/
def Same (v w : Value) : Prop := v.data.same w.data = true

lemma dataFields_eq_map (fs : List (String × Value)) :
    dataFields fs = fs.map fun f => (Datum.str f.1, f.2.data) := by
  induction fs with
  | nil => rfl
  | cons f fs ih => rw [dataFields, ih, List.map_cons]

/-- Equal objects have equally many fields, and each field of the first has an equal one in the second. -/
lemma Same.object {fs gs : List (String × Value)} (h : Same (object fs) (object gs)) :
    fs.length = gs.length ∧ ∀ n v, (n, v) ∈ fs → ∃ w, (n, w) ∈ gs ∧ Same v w := by
  unfold Same at h
  simp only [data, Datum.same, dataFields_eq_map, Bool.and_eq_true, beq_iff_eq, List.length_map,
    Datum.sameEntries_iff, List.forall_mem_map] at h
  obtain ⟨hlength, hentries⟩ := h
  refine ⟨hlength, fun n v hv => ?_⟩
  obtain ⟨e, he, hname, hvalue⟩ := hentries _ hv
  obtain ⟨⟨m, w⟩, hw, rfl⟩ := List.mem_map.1 he
  obtain rfl : n = m := by simpa [Datum.str, Datum.same, MarkedText.same] using hname
  exact ⟨w, hw, hvalue⟩

/-- Both absent, or both there and equal. -/
def Agree : Option Value → Option Value → Prop := Option.Rel Same

lemma agree_some {v w : Value} (h : Agree (some v) (some w)) : Same v w := by
  cases h
  assumption

/-- Fields that agree one by one. -/
abbrev PartsAgree : Parts → Parts → Prop := List.Forall₂ fun p q => Agree p.2 q.2

lemma length_present (ps : Parts) : (present ps).length = ps.countP (·.2.isSome) := by
  unfold present
  rw [List.length_filterMap_eq_countP]
  exact List.countP_congr fun p _ => by rw [Option.isSome_map]

/-- What is there in the first is there in the second, and equal. -/
def Covers (p q : String × Option Value) : Prop := ∀ v, p.2 = some v → ∃ w, q.2 = some w ∧ Same v w

variable {ps qs : Parts}

lemma countP_le_of_covers (h : List.Forall₂ Covers ps qs) :
    ps.countP (·.2.isSome) ≤ qs.countP (·.2.isSome) := by
  induction h with
  | nil => exact Nat.le_refl _
  | @cons p q ps qs hpq _ ih =>
    rw [List.countP_cons, List.countP_cons]
    cases hp : p.2.isSome with
    | false => exact Nat.le_add_right_of_le ih
    | true =>
      obtain ⟨v, hv⟩ := Option.isSome_iff_exists.1 hp
      obtain ⟨w, hw, -⟩ := hpq v hv
      rw [Option.isSome_iff_exists.2 ⟨w, hw⟩]
      exact Nat.add_le_add_right ih 1

/-- Where as many parts are there, nothing more is there in the second. -/
lemma agree_of_covers (h : List.Forall₂ Covers ps qs)
    (hcount : qs.countP (·.2.isSome) ≤ ps.countP (·.2.isSome)) : PartsAgree ps qs := by
  induction h with
  | nil => exact .nil
  | @cons p q ps qs hpq htail ih =>
    have hle := countP_le_of_covers htail
    obtain ⟨n, o⟩ := p
    obtain ⟨m, o'⟩ := q
    cases o with
    | some v =>
      obtain ⟨w, hw, hvw⟩ := hpq v rfl
      obtain rfl : o' = some w := hw
      exact .cons (.some hvw) (ih (by simpa using hcount))
    | none =>
      cases o' with
      | none => exact .cons .none (ih (by simpa using hcount))
      | some w =>
        -- a field that only the second has makes its count the larger one
        simp at hcount
        omega

/-- Objects made of parts of the same names are only equal where all their parts agree. Nothing is there in the
second alone, as both have equally many fields. -/
theorem agree_of_same (hnames : ps.map Prod.fst = qs.map Prod.fst) (hnodup : (qs.map Prod.fst).Nodup)
    (h : Same (object (present ps)) (object (present qs))) : PartsAgree ps qs := by
  obtain ⟨hlength, hfields⟩ := h.object
  have hpairs : List.Forall₂ (fun p q : String × Option Value => p.1 = q.1) ps qs := by
    have hmap : List.Forall₂ Eq (ps.map Prod.fst) (qs.map Prod.fst) := List.forall₂_eq_eq_eq ▸ hnames
    simpa using hmap
  have hcovers : List.Forall₂ Covers ps qs := by
    rw [List.forall₂_iff_zip] at hpairs ⊢
    refine ⟨hpairs.1, fun {p q} hpq v hv => ?_⟩
    obtain ⟨hp, hq⟩ := List.of_mem_zip hpq
    have hp' : (p.1, some v) ∈ ps := hv ▸ hp
    obtain ⟨w, hw, hvw⟩ := hfields p.1 v (mem_present.2 hp')
    -- the names occur once each, so the equal field is the one in the same place
    have hname : p.1 = q.1 := hpairs.2 hpq
    have heq : (p.1, some w) = q := List.inj_on_of_nodup_map hnodup (mem_present.1 hw) hq hname
    exact ⟨w, heq ▸ rfl, hvw⟩
  have hcount : ps.countP (·.2.isSome) = qs.countP (·.2.isSome) := by
    rw [← length_present, ← length_present, hlength]
  exact agree_of_covers hcovers (Nat.le_of_eq hcount.symm)

/-- Equal lists have equal items. -/
lemma Same.list {vs ws : List Value} (h : Same (list vs) (list ws)) : List.Forall₂ Same vs ws := by
  simp only [Same, data, Datum.same] at h
  induction vs generalizing ws with
  | nil =>
    cases ws with
    | nil => exact .nil
    | cons w ws => simp [dataItems, Datum.sameItems] at h
  | cons v vs ih =>
    cases ws with
    | nil => simp [dataItems, Datum.sameItems] at h
    | cons w ws =>
      rw [dataItems, dataItems, Datum.sameItems, Bool.and_eq_true] at h
      exact .cons h.1 (ih h.2)

end GraphQL.Value

end VectorQuery
