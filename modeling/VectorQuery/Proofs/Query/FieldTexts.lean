import VectorQuery.Proofs.GraphQL.FieldTokens
import VectorQuery.Proofs.Query.SelectedProperties

/-! The fields of a query, from what is accepted to the lines of the document. -/
namespace VectorQuery
open GraphQL

namespace QueryDescriptor

/-- Every field of a query is a line of its document as it is written. -/
lemma line_mem_selection {q : QueryDescriptor} {f : FieldText} (hf : f ∈ q.fields) :
    .line f.content.toList ∈ q.selection.map Entry.selection := by
  have hcontent : f.content ∈ q.selectedFields.map MarkedText.content := by
    rw [selectedFields, content_distinct, distinct, mem_distinctAfter, List.map_append]
    have hmem : f.content ∈ (q.fields.map FieldText.text).map MarkedText.content :=
      List.mem_map_of_mem (List.mem_map_of_mem hf)
    exact ⟨List.mem_append_left _ hmem, by simp⟩
  obtain ⟨t, ht, hcontent⟩ := List.mem_map.1 hcontent
  have hentry : Entry.field t ∈ q.selection := by
    unfold selection
    have hmem : Entry.field t ∈ q.selectedFields.map Entry.field ++
        (if q.additionalEntries.isEmpty then []
          else [.block (.plain "_additional") q.additionalEntries]) :=
      List.mem_append_left _ (List.mem_map_of_mem ht)
    rw [if_neg (by simpa using List.ne_nil_of_mem hmem)]
    exact hmem
  exact List.mem_map.2 ⟨_, hentry, by rw [Entry.selection, hcontent]⟩

end QueryDescriptor

namespace FieldText

variable {what : String} {d : Datum}

/-- A value is accepted as it is. -/
lemma view_of_check {f : FieldText} (h : check what d = .ok f) : f.view = d := by
  unfold check at h
  split at h
  · split at h
    · obtain rfl := Except.ok.inj h
      rfl
    · cases h
  · cases h

lemma exists_check_iff : (∃ f, check what d = .ok f) ↔
    ∃ t, d = .text t ∧ isSelection t.content.toList = true := by
  constructor
  · rintro ⟨f, hf⟩
    exact ⟨f.text, (view_of_check hf).symm, f.valid⟩
  · rintro ⟨t, rfl, h⟩
    exact ⟨⟨t, h⟩, check_of_isSelection h what⟩

end FieldText

/-- What is accepted as a field is a text that consists of a name of the grammar, of one body or none, and of
blanks around them; it is kept as it is, and it is a line of the document of every query that has it. It has
the tokens of the name and of the body exactly where the blanks are layout; otherwise it has no tokens. -/
theorem field_tokens (what : String) (d : Datum) (p : FieldParts) (q : QueryDescriptor) :
    ((∃ f, FieldText.check what d = .ok f) ↔
      ∃ t, d = .text t ∧ ∃ p : FieldParts, p.text = t.content.toList ∧ p.Valid) ∧
    (∀ f, FieldText.check what d = .ok f → f.view = d) ∧
    (∀ f ∈ q.fields, .line f.content.toList ∈ q.selection.map Entry.selection) ∧
    (p.Valid → tokens? p.text = if p.blanks.all isLayout then
      (tokens? p.body).map (.name p.name :: ·) else none) := by
  refine ⟨?_, fun _ hf => FieldText.view_of_check hf,
    fun _ hf => QueryDescriptor.line_mem_selection hf, tokens?_of_valid⟩
  rw [FieldText.exists_check_iff]
  exact exists_congr fun _ => and_congr_right fun _ => isSelection_iff_exists

/-- A no-break space in front of a name is accepted, and it is no layout. -/
theorem check_noBreakSpace : ∃ f, FieldText.check "field" (.str "\u00a0title") = .ok f ∧
    (∃ p : FieldParts, p.text = f.content.toList ∧ p.Valid ∧ p.body = [] ∧ '\u00a0' ∈ p.blanks) ∧
    isLayout '\u00a0' = false ∧ tokens? f.content.toList = none := by
  have hselection : isSelection "\u00a0title".toList = true := by decide
  have hvalid := FieldParts.valid_partsOf hselection
  have htokens := tokens?_of_valid hvalid
  rw [text_partsOf, if_neg (by decide)] at htokens
  have hbody : (partsOf "\u00a0title".toList).body = [] := by decide
  have hblank : '\u00a0' ∈ (partsOf "\u00a0title".toList).blanks := by decide
  exact ⟨⟨.plain "\u00a0title", hselection⟩,
    FieldText.check_of_isSelection (t := .plain "\u00a0title") hselection "field",
    ⟨partsOf "\u00a0title".toList, text_partsOf _, hvalid, hbody, hblank⟩, by decide, htokens⟩

end VectorQuery
