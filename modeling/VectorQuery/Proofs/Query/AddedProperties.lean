import VectorQuery.Proofs.GraphQL.FieldParts
import VectorQuery.Proofs.Query.SelectedProperties

/-! The properties of a prompt that are added to the fields of a query. A field counts as a property where it is
that property and nothing else; a field of the same name with a body, or with blanks around it, does not. -/
namespace VectorQuery
open GraphQL

namespace FieldText

/-- The name of the field that is selected. -/
def fieldName (f : FieldText) : String := String.ofList (partsOf f.content.toList).name

/-- Whether a field is its name alone. -/
def isBare (f : FieldText) : Bool :=
  (partsOf f.content.toList).blanks.isEmpty && (partsOf f.content.toList).body.isEmpty

/-- A field is the same text as a name exactly when it has that name and is bare. -/
lemma content_eq_iff {f : FieldText} {p : String} (hp : IsGrammarName p.toList) :
    f.content = p ↔ f.fieldName = p ∧ f.isBare = true := by
  have htext := text_partsOf f.content.toList
  rw [fieldName, isBare, Bool.and_eq_true, List.isEmpty_iff, List.isEmpty_iff]
  constructor
  · rintro rfl
    -- the text that is a name alone is a field, and it is taken apart in one way
    have hvalid : (FieldParts.mk [] f.content.toList [] [] []).Valid :=
      ⟨hp, .inl rfl, by simp [FieldParts.blanks]⟩
    have hwhole : (FieldParts.mk [] f.content.toList [] [] []).text = f.content.toList := by
      simp [FieldParts.text]
    obtain ⟨hname, hbody⟩ := FieldParts.partsOf_text hvalid
    rw [hwhole] at hname hbody
    have hlength := congrArg List.length htext
    rw [FieldParts.text, hname, hbody] at hlength
    simp only [List.length_append, List.length_nil] at hlength
    refine ⟨by rw [hname, String.ofList_toList], List.eq_nil_of_length_eq_zero ?_, hbody⟩
    simp only [FieldParts.blanks, List.length_append]
    omega
  · rintro ⟨rfl, hblanks, hbody⟩
    simp only [FieldParts.blanks, List.append_eq_nil_iff] at hblanks
    obtain ⟨hlead, hgap, htrail⟩ := hblanks
    simp only [FieldParts.text, hlead, hgap, hbody, htrail, List.nil_append, List.append_nil] at htext
    rw [htext, String.ofList_toList]

end FieldText

namespace QueryDescriptor

variable {q : QueryDescriptor} {g : GenerateDirective} {p : String}

lemma count_addedProperties (hp : p ∈ g.properties) : (q.addedProperties g).count p =
    if ∃ f ∈ q.fields, f.content = p then 0 else 1 := by
  have hmem : p ∈ q.fields.map FieldText.content ↔ ∃ f ∈ q.fields, f.content = p := List.mem_map
  split
  · rename_i hfield
    refine List.count_eq_zero_of_not_mem fun hadded => ?_
    exact of_decide_eq_true (List.mem_filter.1 hadded).2 (hmem.2 hfield)
  · rename_i hfield
    have hnodup : g.properties.Nodup := nodup_distinctAfter _ _
    exact List.count_eq_one_of_mem (hnodup.filter _)
      (List.mem_filter.2 ⟨hp, decide_eq_true fun h => hfield (hmem.1 h)⟩)

/-- What a directive adds to the fields of a query: each property once, unless a field is the property as it is
written. For a property that is a name of the grammar, this is a bare field of its name. -/
structure AddsProperties (q : QueryDescriptor) (g : GenerateDirective) : Prop where
  selection_eq : q.selection = q.distinctFields.map Entry.field ++
    (q.addedProperties g).map (fun p => .field (.plain p)) ++
      [.block (.plain "_additional") (q.distinctAdditional ++ [.plain g.clause])]
  written : ∀ p ∈ g.properties, (q.addedProperties g).count p =
    if ∃ f ∈ q.fields, f.content = p then 0 else 1
  named : ∀ p ∈ g.properties, IsGrammarName p.toList → (q.addedProperties g).count p =
    if ∃ f ∈ q.fields, f.fieldName = p ∧ f.isBare = true then 0 else 1

theorem addsProperties_of_generate (hg : q.generate = some g) : q.AddsProperties g := by
  refine ⟨?selection, fun p hp => count_addedProperties hp, fun p hp hname => ?named⟩
  case selection =>
    rw [selection_of_generate hg, selectedFields_of_generate hg, List.map_append, List.map_map]
    rfl
  case named =>
    simp only [count_addedProperties hp, FieldText.content_eq_iff hname]

lemma isSelection_reference : isSelection "author \x7b name \x7d".toList = true := by
  have hbody : isBody "\x7b name \x7d".toList = true := by
    have hinner : ∀ c ∈ " name ".toList, isInert c = true := forall_mem_of_all (by decide)
    change closes (" name ".toList ++ ['}']) 1 = true
    rw [closes_append hinner, closes]
    rfl
  refine isSelection_iff_exists.2
    ⟨⟨[], "author".toList, [' '], "\x7b name \x7d".toList, []⟩, rfl, ?_, .inr hbody,
      forall_mem_of_all (by decide)⟩
  exact isStrictName_iff.1 (by decide)

/-- A prompt for two of the fields of a query. -/
def citationPrompt : GenerateDirective where
  mode := .single
  prompt := ⟨.plain "\x7bauthor\x7d, \x7bvolume\x7d", by decide⟩
  provider := ⟨.plain "voyage", by decide⟩
  params := .unset
  explicitProperties := []

/-- Citations, by a field with a body and by a bare field. -/
def citations : QueryDescriptor where
  collection := ⟨.plain "Essay", by decide⟩
  fields := [⟨.plain "author \x7b name \x7d", isSelection_reference⟩, ⟨.plain "volume", by decide⟩]
  search := none
  filter := none
  limit := none
  offset := none
  sort := []
  groupBy := none
  autocut := none
  additionalFields := []
  consistencyLevel := none
  tenant := none
  generate := some citationPrompt

/-- The bare field is not added again, and the one with a body is. -/
theorem addsProperties_citations :
    (citations.addedProperties citationPrompt).count "volume" = 0 ∧
    (citations.addedProperties citationPrompt).count "author" = 1 := by
  obtain ⟨-, -, hnamed⟩ := addsProperties_of_generate (q := citations) (g := citationPrompt) rfl
  have hvolume := hnamed "volume" (by decide) (isStrictName_iff.1 (by decide))
  have hauthor := hnamed "author" (by decide) (isStrictName_iff.1 (by decide))
  exact ⟨hvolume.trans (if_pos (by decide)), hauthor.trans (if_neg (by decide))⟩

/-- The first field selects the author already, and still the author is selected once more. -/
theorem selection_citations : citations.fields.map FieldText.fieldName = ["author", "volume"] ∧
    citations.selection = [.field (.plain "author \x7b name \x7d"), .field (.plain "volume"),
      .field (.plain "author"), .block (.plain "_additional") [.plain citationPrompt.clause]] := by
  refine ⟨by decide, ?_⟩
  rw [selection_of_generate rfl, selectedFields_of_generate rfl]
  rfl

end QueryDescriptor

end VectorQuery
