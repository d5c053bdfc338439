import VectorQuery.Proofs.Generate.Clause
import VectorQuery.Proofs.Generate.PromptProperties
import VectorQuery.Proofs.GraphQL.RawSelection
import VectorQuery.Query.Render

/-! The tokens of the selection of a query. Every entry closes the braces it opens: the fields of the caller
because they were accepted, names because they have none, the generate clause because it is written so. -/
namespace VectorQuery
open GraphQL

/-- A text with tokens that close the braces they open. -/
def IsClosedText (s : List Char) : Prop := ∃ ts, tokens? s = some ts ∧ ts ≠ [] ∧ Nested ts

/-- Parts with the tokens of their lines, one after the other. -/
lemma exists_mapM_tokens {α : Type} {read : α → Option (List Token)} {line : α → Selection}
    {xs : List α} (h : ∀ x ∈ xs, ∃ ts, read x = some ts ∧ (line x).tokens? = some ts ∧ ts ≠ [] ∧
      Nested ts) :
    ∃ tss, xs.mapM read = some tss ∧ Selection.tokensAll? (xs.map line) = some tss.flatten ∧
      (xs ≠ [] → tss.flatten ≠ []) ∧ Nested tss.flatten := by
  induction xs with
  | nil => exact ⟨[], rfl, rfl, fun hne => absurd rfl hne, nested_nil⟩
  | cons x xs ih =>
    obtain ⟨ts, hts, hline, hne, hnested⟩ := h x (by simp)
    obtain ⟨tss, htss, hall, -, hrest⟩ := ih fun y hy => h y (by simp [hy])
    refine ⟨ts :: tss, by simp [hts, htss], ?_, fun _ => by simp [hne],
      by simpa using hnested.append hrest⟩
    rw [List.map_cons, Selection.tokensAll?, hline, hall]
    simp

namespace Entry

/-- The tokens of an entry: of its text, or of its header and, in braces, of its fields. -/
def tokens? : Entry → Option (List Token)
  | field t => GraphQL.tokens? t.content.toList
  | block header fields => do
    let front ← GraphQL.tokens? header.content.toList
    let inner ← fields.mapM fun t => GraphQL.tokens? t.content.toList
    pure (front ++ (.mark '{' :: (inner.flatten ++ [.mark '}'])))

/-- An entry whose tokens, which are those of its lines, close the braces they open. -/
def IsClosed (e : Entry) : Prop :=
  ∃ ts, e.tokens? = some ts ∧ e.selection.tokens? = some ts ∧ ts ≠ [] ∧ Nested ts

lemma isClosed_field {t : MarkedText} (h : IsClosedText t.content.toList) : (field t).IsClosed := by
  obtain ⟨ts, hts, hne, hnested⟩ := h
  exact ⟨ts, hts, by rw [selection, Selection.tokens?, hts], hne, hnested⟩

/-- Closed texts in braces, under a name. -/
lemma isClosed_block {header : MarkedText} {fields : List MarkedText}
    (hname : isStrictName header.content.toList = true)
    (h : ∀ t ∈ fields, IsClosedText t.content.toList) : (block header fields).IsClosed := by
  have hclosed : ∀ t ∈ fields, ∃ ts, GraphQL.tokens? t.content.toList = some ts ∧
      (Selection.line t.content.toList).tokens? = some ts ∧ ts ≠ [] ∧ Nested ts :=
    fun t ht => isClosed_field (h t ht)
  obtain ⟨tss, htss, hall, -, hnested⟩ := exists_mapM_tokens hclosed
  have hheader := tokens?_strictName hname
  refine ⟨.name header.content.toList :: (.mark '{' :: tss.flatten ++ [.mark '}']), ?_, ?_, by simp,
    (nested_name _).append hnested.braces⟩
  · rw [tokens?, hheader, htss]
    simp
  · rw [selection, Selection.tokens?, tokens?_opening hname, hall]
    simp

end Entry

/-! ### Names -/

lemma isClosedText_of_isStrictName {w : List Char} (h : isStrictName w = true) :
    IsClosedText w := ⟨[.name w], tokens?_strictName h, by simp, nested_name w⟩

/-- A field on one line closes its braces. -/
lemma isClosedText_inlineChars {name : String} {arguments : Arguments} {leaves : List String}
    (hn : isStrictName name.toList = true) (ha : Value.fieldsLegible arguments = true)
    (hl : ∀ w ∈ leaves, isStrictName w.toList = true) (hne : leaves ≠ []) :
    IsClosedText (inlineChars name arguments leaves) :=
  ⟨_, Field.tokens?_inlineChars hn ha hl hne, Field.tokens_ne_nil _, Field.nested_tokens _⟩

/-- The clause is a field with arguments and a body of two fields. -/
theorem GenerateDirective.isClosedText_clause {g : GenerateDirective} (hp : ArePlain g.texts) :
    IsClosedText g.clause.toList := by
  rw [toList_clause]
  exact isClosedText_inlineChars (by decide) (fieldsLegible_arguments hp)
    (isStrictName_of_mem_leaves g) (by simp)

/-! ### The entries of a query -/

/-- A field that was accepted and has tokens has those of one field. -/
lemma isClosedText_field (f : FieldText) (h : (tokens? f.text.content.toList).isSome = true) :
    IsClosedText f.text.content.toList := by
  obtain ⟨ts, hts⟩ := Option.isSome_iff_exists.1 h
  obtain ⟨xs, hxs, rfl⟩ := Option.map_eq_some_iff.1 hts
  have hfield : IsField (tokensOf xs) :=
    isField_of_selecting ((isSelection_eq hxs).symm.trans f.valid)
  refine ⟨tokensOf xs, hts, ?_, hfield.nested⟩
  obtain ⟨n, body, hbody, -⟩ := hfield
  simp [hbody]

lemma isClosedText_fallback : IsClosedText fallbackSelection.content.toList := by
  have htext : fallbackSelection.content.toList = inlineChars "_additional" [] ["id"] := by decide
  rw [htext]
  exact isClosedText_inlineChars (by decide) rfl (by decide) (by simp)

namespace QueryDescriptor

variable {q : QueryDescriptor}

lemma isClosedText_selectedField (hp : ArePlain q.texts)
    (hn : ∀ t ∈ q.nameTexts, '\n' ∉ t.content.toList)
    (hf : ∀ f ∈ q.fields, (tokens? f.text.content.toList).isSome = true) {t : MarkedText}
    (ht : t ∈ q.selectedFields) : IsClosedText t.content.toList := by
  rcases List.mem_append.1 (mem_of_mem_distinctAfter ht) with ht | ht
  · obtain ⟨f, hmem, rfl⟩ := List.mem_map.1 ht
    exact isClosedText_field f (hf f hmem)
  unfold promptFields at ht
  split at ht
  · cases ht
  rename_i g hg
  obtain ⟨p, hmem, rfl⟩ := List.mem_map.1 (List.mem_filter.1 ht).1
  refine isClosedText_of_isStrictName (GenerateDirective.isStrictName_of_mem_properties
    (fun u hu => hp u ?_) (fun n hmem => hn n.text ?_) hmem)
  · simp only [texts, List.mem_cons, List.mem_append, hg, Option.toList_some,
      List.flatMap_singleton, hu, or_true]
  · simp only [nameTexts, List.mem_cons, List.mem_append, hg, Option.toList_some,
      List.flatMap_singleton, List.mem_map_of_mem hmem, true_or, or_true]

lemma isClosedText_additionalEntry (hp : ArePlain q.texts)
    (hn : ∀ t ∈ q.nameTexts, '\n' ∉ t.content.toList) {t : MarkedText}
    (ht : t ∈ q.additionalEntries) : IsClosedText t.content.toList := by
  rcases List.mem_append.1 (mem_of_mem_distinctAfter ht) with ht | ht
  · obtain ⟨n, hmem, rfl⟩ := List.mem_map.1 ht
    refine isClosedText_of_isStrictName (isStrictName_of_isName n.valid (hn n.text ?_))
    simp only [nameTexts, List.mem_cons, List.mem_append, List.mem_map_of_mem hmem, true_or, or_true]
  · obtain ⟨g, hg, rfl⟩ := Option.map_eq_some_iff.1 (Option.mem_toList.1 ht)
    refine GenerateDirective.isClosedText_clause fun u hu => hp u ?_
    simp only [texts, List.mem_cons, List.mem_append, hg, Option.toList_some,
      List.flatMap_singleton, hu, or_true]

/-- The entries of a selection: fields, one block for what is additional, or what stands for nothing. -/
lemma mem_selection {e : Entry} (he : e ∈ q.selection) : e = .field fallbackSelection ∨
    (∃ t ∈ q.selectedFields, e = .field t) ∨
      e = .block (.plain "_additional") q.additionalEntries := by
  unfold selection at he
  simp only at he
  generalize hes : q.selectedFields.map Entry.field ++
    (if q.additionalEntries.isEmpty then []
      else [.block (.plain "_additional") q.additionalEntries]) = es at he
  split at he
  · exact .inl (List.mem_singleton.1 he)
  rw [← hes] at he
  rcases List.mem_append.1 he with he | he
  · obtain ⟨t, ht, rfl⟩ := List.mem_map.1 he
    exact .inr (.inl ⟨t, ht, rfl⟩)
  split at he
  · cases he
  · exact .inr (.inr (List.mem_singleton.1 he))

/-- Every entry of the selection closes the braces it opens. -/
theorem isClosed_selection (hp : ArePlain q.texts)
    (hn : ∀ t ∈ q.nameTexts, '\n' ∉ t.content.toList)
    (hf : ∀ f ∈ q.fields, (tokens? f.text.content.toList).isSome = true) :
    ∀ e ∈ q.selection, e.IsClosed := by
  intro e he
  rcases mem_selection he with rfl | ⟨t, ht, rfl⟩ | rfl
  · exact Entry.isClosed_field isClosedText_fallback
  · exact Entry.isClosed_field (isClosedText_selectedField hp hn hf ht)
  · exact Entry.isClosed_block (by decide) fun t ht => isClosedText_additionalEntry hp hn ht

lemma selection_ne_nil (q : QueryDescriptor) : q.selection ≠ [] := by
  unfold selection
  simp only
  generalize q.selectedFields.map Entry.field ++ _ = es
  split
  · exact List.cons_ne_nil _ _
  · rename_i h
    simpa using h

end QueryDescriptor

end VectorQuery
