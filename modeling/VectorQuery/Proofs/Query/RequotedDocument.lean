import VectorQuery.Proofs.Query.RequotedArguments
import VectorQuery.Proofs.Query.SelectedProperties
import VectorQuery.Proofs.Query.SelectionTokens
import VectorQuery.Term.Filter
import VectorQuery.Term.Query

/-! The literals of texts in a document. The document of a query and the document of the same query without
marks differ in these literals only; every one is a string that stands for its text, unless the text is bare. -/
namespace VectorQuery
open GraphQL

variable {r r' : List Char} {ts us : List MarkedText} {c : RendererConfig} {text : String}

/-! ### Places in a document -/

/-- Where the arguments and the selection stand in a document. -/
lemma exists_document_frame (operation collection indent : List Char) :
    ∃ front back, ∀ arguments selection,
      (Document.mk operation collection arguments selection).chars indent =
        front ++ (arguments ++ ([' ', '{', '\n'] ++
          (Selection.ended (Selection.linesAll indent 3 selection) ++ back))) := by
  refine ⟨Selection.ended [['{'], Selection.pad indent 1 ++ operation ++ [' ', '{']] ++
    (Selection.pad indent 2 ++ collection), Selection.ended [Selection.pad indent 2 ++ ['}'],
    Selection.pad indent 1 ++ ['}'], ['}']], fun arguments selection => ?_⟩
  simp [Document.chars, Document.lines, Selection.lines, Selection.linesAll, Selection.ended]

/-- A document with other arguments, and a selection that is the same but for the literals of texts. -/
lemma requoted_document (operation collection indent : List Char) {fs fs' : Arguments}
    {selection selection' : List Selection} (hf : FieldsRequote fs fs' ts)
    (hs : ∀ r, Requoted (Selection.ended (Selection.linesAll indent 3 selection) ++ r)
      (Selection.ended (Selection.linesAll indent 3 selection') ++ r) us) :
    Requoted (Document.render ⟨operation, collection, argumentsChars fs, selection⟩ indent).toList
      (Document.render ⟨operation, collection, argumentsChars fs', selection'⟩ indent).toList
      (ts ++ us) := by
  obtain ⟨front, back, hchars⟩ := exists_document_frame operation collection indent
  rw [Document.render, Document.render, String.toList_ofList, String.toList_ofList, hchars, hchars]
  exact (requoted_argumentsChars hf ((hs back).append_left _)).append_left front

lemma GraphQL.Selection.linesAll_append (indent : List Char) (depth : Nat) (ss us : List Selection) :
    linesAll indent depth (ss ++ us) = linesAll indent depth ss ++ linesAll indent depth us := by
  induction ss with
  | nil => rfl
  | cons s ss ih => rw [List.cons_append, linesAll, linesAll, ih, List.append_assoc]

/-- Where the last text of a block stands in the lines of a selection. -/
lemma exists_selection_frame (indent : List Char) (entries : List Entry) (header : MarkedText)
    (fields : List MarkedText) : ∃ front back, ∀ t : MarkedText,
      Selection.ended (Selection.linesAll indent 3
        ((entries ++ [Entry.block header (fields ++ [t])]).map Entry.selection)) =
      front ++ (t.content.toList ++ back) := by
  refine ⟨Selection.ended (Selection.linesAll indent 3 (entries.map Entry.selection)) ++
    (Selection.ended [Selection.pad indent 3 ++ header.content.toList ++ [' ', '{']] ++
    (Selection.ended (Selection.linesAll indent 4 (fields.map fun t => .line t.content.toList)) ++
    Selection.pad indent 4)), '\n' :: Selection.ended [Selection.pad indent 3 ++ ['}']],
    fun t => ?_⟩
  simp [Selection.linesAll_append, Selection.ended, Entry.selection, Selection.lines,
    Selection.linesAll]

/-! ### The generate clause -/

namespace GenerateDirective

theorem fieldsRequote_arguments (g : GenerateDirective) :
    FieldsRequote g.arguments g.unmarked.arguments g.literalTexts := by
  have hmodel := fieldsRequote_argument "model" Phrase.unmarked g.params.model
    fun m => requotes_ofText m.text
  have hparams : FieldsRequote g.params.wire g.unmarked.params.wire g.literalTexts := by
    have h := hmodel.append (.refl (
      argument "temperature" (fun t : Quantity => Value.float t.toDouble) g.params.temperature ++
      (argument "maxTokens" (fun k : Count => .int k.value) g.params.maxTokens ++
      argument "topP" (fun s : Share => .float s.toDouble) g.params.topP)))
    simp only [List.append_nil, ← List.map_eq_flatMap] at h
    simp only [ProviderParams.wire, setting_eq_argument, List.append_assoc]
    exact h
  exact .singleton _ (requotes_object (.singleton _ (requotes_object
    (.cons "prompt" (.refl _) hparams))))

lemma requoted_clause (g : GenerateDirective) (hr : Requoted r r' us) :
    Requoted (g.clause.toList ++ r) (g.unmarked.clause.toList ++ r') (g.literalTexts ++ us) := by
  have hclause (d : GenerateDirective) (u : List Char) : d.clause.toList ++ u =
      "generate".toList ++ (argumentsChars d.arguments ++ (" \x7b ".toList ++
        (d.mode.resultField.toList ++ (" error \x7d".toList ++ u)))) := by
    have hchars : d.clause.toList = d.clauseChars := String.toList_ofList
    rw [hchars]
    unfold clauseChars
    simp only [List.append_assoc]
  rw [hclause, hclause]
  have htail := ((hr.append_left " error \x7d".toList).append_left
    g.mode.resultField.toList).append_left " \x7b ".toList
  exact (requoted_argumentsChars g.fieldsRequote_arguments htail).append_left _

end GenerateDirective

/-! ### Queries and aggregations -/

namespace QueryDescriptor

variable {q : QueryDescriptor}

lemma requoted_selection (q : QueryDescriptor) (indent r : List Char) :
    Requoted
      (Selection.ended (Selection.linesAll indent 3 (q.selection.map Entry.selection)) ++ r)
      (Selection.ended (Selection.linesAll indent 3 (q.unmarked.selection.map Entry.selection)) ++ r)
      (q.generate.toList.flatMap GenerateDirective.literalTexts) := by
  cases hg : q.generate with
  | none =>
    have hselection : q.unmarked.selection = q.selection := by
      unfold selection additionalEntries selectedFields promptFields
      simp only [unmarked, hg, Option.map_none]
    rw [hselection]
    exact (Requoted.refl r).append_left _
  | some g =>
    have hfields : q.unmarked.selectedFields = q.selectedFields := by
      unfold selectedFields promptFields
      simp only [unmarked, hg, Option.map_some]
      rfl
    have hg' : q.unmarked.generate = some g.unmarked := by rw [unmarked, hg, Option.map_some]
    have hunmarked : q.unmarked.selection = q.selectedFields.map Entry.field ++
        [.block (.plain "_additional") (q.distinctAdditional ++ [.plain g.unmarked.clause])] := by
      rw [← hfields]
      exact selection_of_generate hg'
    obtain ⟨front, back, hframe⟩ := exists_selection_frame indent (q.selectedFields.map Entry.field)
      (.plain "_additional") q.distinctAdditional
    rw [selection_of_generate hg, hunmarked, hframe, hframe, Option.toList_some,
      List.flatMap_singleton, ← List.append_nil g.literalTexts]
    simp only [List.append_assoc]
    exact (g.requoted_clause ((Requoted.refl r).append_left back)).append_left front

/-- The documents of a query and of the same query without marks. -/
theorem requoted_render (h : q.render c = .ok text) : ∃ text', q.unmarked.render c = .ok text' ∧
    Requoted text.toList text'.toList q.literalTexts := by
  obtain ⟨doc, hdoc, rfl⟩ := Checked.map_ok h
  obtain ⟨fs, hfs, hdoc⟩ := Checked.bind_ok hdoc
  obtain rfl := Checked.pure_ok hdoc
  obtain ⟨fs', hfs', hrequote⟩ := fieldsRequote_arguments hfs
  have hrender : q.unmarked.render c = .ok (Document.render ⟨"Get".toList,
      q.collection.content.toList, argumentsChars fs', q.unmarked.selection.map Entry.selection⟩
        c.indentUnit) := by
    rw [render, document, hfs']
    rfl
  exact ⟨_, hrender, requoted_document _ _ _ hrequote (q.requoted_selection c.indentUnit)⟩

end QueryDescriptor

/-- The documents of an aggregation and of the same one without marks. -/
theorem AggregateDescriptor.requoted_render {a : AggregateDescriptor} (h : a.render c = .ok text) :
    ∃ text', a.unmarked.render c = .ok text' ∧
      Requoted text.toList text'.toList a.literalTexts := by
  obtain ⟨fs, hfs, h⟩ := Checked.bind_ok h
  obtain rfl := Checked.pure_ok h
  obtain ⟨fs', hfs', hrequote⟩ := fieldsRequote_arguments hfs
  have hselection : a.unmarked.selection c = a.selection c := by
    unfold selection unmarked
    rw [Option.isSome_map]
    rfl
  have hrender : a.unmarked.render c = .ok (Document.render ⟨"Aggregate".toList,
      a.collection.content.toList, argumentsChars fs', (a.selection c).map Entry.selection⟩
        c.indentUnit) := by
    rw [render, hfs', hselection]
    rfl
  refine ⟨_, hrender, ?_⟩
  rw [← List.append_nil a.literalTexts]
  exact requoted_document _ _ _ hrequote fun r => (Requoted.refl r).append_left _

/-- The document of a query or an aggregation is that of the same one without marks but for the literals of
its texts, in their places. Such a literal stands for its text exactly when the text is not bare. -/
theorem requoted_render_readsText_iff (q : QueryDescriptor) (a : AggregateDescriptor) (c : RendererConfig) :
    (∀ text, q.render c = .ok text → ∃ text', q.unmarked.render c = .ok text' ∧
      Requoted text.toList text'.toList q.literalTexts) ∧
    (∀ text, a.render c = .ok text → ∃ text', a.unmarked.render c = .ok text' ∧
      Requoted text.toList text'.toList a.literalTexts) ∧
    ∀ (t : MarkedText) (r : List Char), Delimited r →
      (ReadsText ((Value.ofText t).chars ++ r) t.content.toList r ↔ t.isBare = false) :=
  ⟨fun _ => QueryDescriptor.requoted_render, fun _ => AggregateDescriptor.requoted_render,
    fun t _ => readsText_ofText_iff t⟩

/-- A tenant that is marked as a block string. -/
def blockTenant : Tenant := ⟨.block "a\"b", by decide⟩

/-- The objects of the tenant, with answers of a model that is named by a block string. -/
def tenantQuery : QueryDescriptor where
  collection := ⟨.plain "Note", by decide⟩
  fields := []
  search := none
  filter := none
  limit := none
  offset := none
  sort := []
  groupBy := none
  autocut := none
  additionalFields := []
  consistencyLevel := none
  tenant := some blockTenant
  generate := some ⟨.single, ⟨.plain "Go", by decide⟩, ⟨.plain "cohere", by decide⟩,
    ⟨some ⟨.block "m", by decide⟩, none, none, none⟩, []⟩

/-- The number of objects of the tenant. -/
def tenantCount : AggregateDescriptor where
  collection := ⟨.plain "Note", by decide⟩
  metaMetrics := []
  propertyMetrics := []
  groupByPath := none
  search := none
  filter := none
  objectLimit := none
  limit := none
  tenant := some blockTenant

/-- Block strings stand for their texts, as quoted strings do in their places. -/
theorem requoted_render_tenant : (∃ text text', tenantQuery.render .standard = .ok text ∧
      tenantQuery.unmarked.render .standard = .ok text' ∧
      Requoted text.toList text'.toList [.block "a\"b", .block "m"]) ∧
    (∃ text text', tenantCount.render .standard = .ok text ∧
      tenantCount.unmarked.render .standard = .ok text' ∧
      Requoted text.toList text'.toList [.block "a\"b"]) ∧
    ReadsText ((Value.ofText (.block "a\"b")).chars ++ [')']) "a\"b".toList [')'] := by
  obtain ⟨hquery, haggregation, hliteral⟩ :=
    requoted_render_readsText_iff tenantQuery tenantCount .standard
  refine ⟨?query, ?aggregation, (hliteral _ _ (delimited_cons (by decide) [])).2 rfl⟩
  case query =>
    obtain ⟨text, htext⟩ : ∃ text, tenantQuery.render .standard = .ok text := ⟨_, rfl⟩
    obtain ⟨text', htext', hrequoted⟩ := hquery text htext
    exact ⟨text, text', htext, htext', hrequoted⟩
  case aggregation =>
    obtain ⟨text, htext⟩ : ∃ text, tenantCount.render .standard = .ok text := ⟨_, rfl⟩
    obtain ⟨text', htext', hrequoted⟩ := haggregation text htext
    exact ⟨text, text', htext, htext', hrequoted⟩

/-- A condition on a text that is marked as bare is accepted, and the text is written without quotes. -/
theorem render_bare_text : ∃ v f q text back,
    FilterValue.checkText (.text (.bare "x")) = .ok v ∧
    Filter.condition .equal (.tuple [.str "p"]) (Filter.typed v) = .ok f ∧
    QuerySlots.check { collection := .str "Doc", filter := .object (.filter f) } = .ok q ∧
    q.render .standard = .ok text ∧
    text.toList = "\x7b\n  Get \x7b\n    Doc(where: \x7bpath: [\"p\"], operator: Equal, valueText: ".toList ++
      ("x".toList ++ back) ∧
    ¬ReadsText ("x".toList ++ back) "x".toList back := by
  refine ⟨_, _, _, _, "\x7d) \x7b\n      _additional \x7b id \x7d\n    \x7d\n  \x7d\n\x7d\n".toList,
    rfl, rfl, rfl, rfl, ?_, not_readsText_self _ _⟩
  decide +kernel

end VectorQuery
