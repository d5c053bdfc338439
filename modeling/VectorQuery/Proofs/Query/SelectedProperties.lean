import VectorQuery.Proofs.Generate.PromptProperties
import VectorQuery.Query.Render

/-! What a query with a generate directive selects: its fields, the properties of the prompt that no field is,
and last the clause among the additional fields. Main statement: every property of the prompt is an entry
exactly once. -/
namespace VectorQuery
open GraphQL

/-- The field that an entry is, unless it is a block. -/
def Entry.field? : Entry → Option String
  | field t => some t.content
  | block .. => none

/-- No name has a parenthesis in it. -/
lemma Name.parenthesis_not_mem (n : Name) : '(' ∉ n.content.toList := by
  intro h
  rcases isNameChar_of_mem n.valid h with h | h <;> cases h

lemma GenerateDirective.parenthesis_mem_clause (g : GenerateDirective) : '(' ∈ g.clause.toList := by
  have hchars : g.clause.toList = g.clauseChars := String.toList_ofList
  rw [hchars]
  unfold clauseChars
  have hopen : '(' ∈ argumentsChars g.arguments := List.mem_cons_self
  simp only [List.mem_append, hopen, or_true, true_or]

namespace QueryDescriptor

variable {q : QueryDescriptor} {g : GenerateDirective}

/-- The fields of the query, each once. -/
def distinctFields (q : QueryDescriptor) : List MarkedText :=
  (q.fields.map FieldText.text).eraseDupsBy MarkedText.same

/-- The additional fields of the query, each once. -/
def distinctAdditional (q : QueryDescriptor) : List MarkedText :=
  (q.additionalFields.map Name.text).eraseDupsBy MarkedText.same

/-- The properties of the directive that are no fields of the query. -/
def addedProperties (q : QueryDescriptor) (g : GenerateDirective) : List String :=
  g.properties.filter fun p => p ∉ q.fields.map FieldText.content

/-! ### The entries -/

/-- No name is a generate clause, so the clause comes last among the additional entries. -/
lemma additionalEntries_of_generate (hg : q.generate = some g) :
    q.additionalEntries = q.distinctAdditional ++ [.plain g.clause] := by
  unfold additionalEntries
  rw [hg, distinctAdditional, ← distinct_eq_eraseDupsBy]
  refine distinct_append (fun t ht u hu => ?_) (List.pairwise_singleton _ _)
  obtain rfl := List.mem_singleton.1 ht
  obtain ⟨n, -, rfl⟩ := List.mem_map.1 hu
  refine beq_eq_false_iff_ne.2 fun heq => n.parenthesis_not_mem ?_
  rw [Name.content, ← heq]
  exact g.parenthesis_mem_clause

lemma promptFields_of_generate (hg : q.generate = some g) :
    q.promptFields = (q.addedProperties g).map .plain := by
  have hpred : ((fun p : MarkedText => !q.fields.any fun f => p.same f.text) ∘ .plain) =
      fun p => decide (p ∉ q.fields.map FieldText.content) := by
    funext p
    have hany : (q.fields.any fun f => (MarkedText.plain p).same f.text) =
        decide (p ∈ q.fields.map FieldText.content) := by
      rw [Bool.eq_iff_iff, List.any_eq_true, decide_eq_true_iff, List.mem_map]
      exact exists_congr fun f => and_congr_right fun _ => beq_iff_eq.trans eq_comm
    rw [Function.comp_apply, hany, decide_not]
  unfold promptFields addedProperties
  simp only [hg]
  rw [List.filter_map, hpred]

lemma selectedFields_of_generate (hg : q.generate = some g) :
    q.selectedFields = q.distinctFields ++ (q.addedProperties g).map .plain := by
  unfold selectedFields
  rw [promptFields_of_generate hg, distinctFields, ← distinct_eq_eraseDupsBy]
  refine distinct_append (fun t ht u hu => ?new) (List.pairwise_map.2 ?distinct)
  case new =>
    obtain ⟨p, hp, rfl⟩ := List.mem_map.1 ht
    obtain ⟨f, hf, rfl⟩ := List.mem_map.1 hu
    have hnot := of_decide_eq_true (List.mem_filter.1 hp).2
    exact beq_eq_false_iff_ne.2 fun heq => hnot (List.mem_map.2 ⟨f, hf, heq.symm⟩)
  case distinct =>
    have hnodup : g.properties.Nodup := nodup_distinctAfter _ _
    exact (hnodup.filter _).imp fun hne => beq_eq_false_iff_ne.2 hne.symm

lemma selection_of_generate (hg : q.generate = some g) :
    q.selection = q.selectedFields.map Entry.field ++
      [.block (.plain "_additional") (q.distinctAdditional ++ [.plain g.clause])] := by
  unfold selection
  rw [additionalEntries_of_generate hg]
  simp

/-! ### Each property once -/

lemma field?_selection (hg : q.generate = some g) :
    q.selection.filterMap Entry.field? = q.selectedFields.map MarkedText.content := by
  have hfield : Entry.field? ∘ Entry.field = some ∘ MarkedText.content := rfl
  rw [selection_of_generate hg, List.filterMap_append, List.filterMap_map, hfield,
    List.filterMap_eq_map]
  simp [Entry.field?]

lemma content_distinct (ts : List MarkedText) : (distinct MarkedText.same ts).map MarkedText.content =
    distinct (· == ·) (ts.map MarkedText.content) := by
  have hkey (t u : MarkedText) : t.same u = (t.content == u.content) := rfl
  exact map_distinctAfter hkey [] ts

/-- Nothing is selected twice. -/
lemma nodup_selectedFields (q : QueryDescriptor) :
    (q.selectedFields.map MarkedText.content).Nodup := by
  rw [selectedFields, content_distinct]
  exact nodup_distinctAfter _ _

lemma mem_selectedFields_of_mem_properties (hg : q.generate = some g) {p : String}
    (hp : p ∈ g.properties) : p ∈ q.selectedFields.map MarkedText.content := by
  rw [selectedFields, content_distinct, distinct, mem_distinctAfter, List.map_append,
    promptFields_of_generate hg]
  refine ⟨?_, by simp⟩
  by_cases hmem : p ∈ q.fields.map FieldText.content
  · exact List.mem_append_left _ (by simpa [FieldText.content] using hmem)
  · have hadded : p ∈ q.addedProperties g := List.mem_filter.2 ⟨hp, decide_eq_true hmem⟩
    exact List.mem_append_right _ (by simpa using hadded)

/-- The selection of a query with a directive. -/
structure SelectsPrompt (q : QueryDescriptor) (g : GenerateDirective) : Prop where
  selection_eq : q.selection = q.distinctFields.map Entry.field ++
    (q.addedProperties g).map (fun p => .field (.plain p)) ++
      [.block (.plain "_additional") (q.distinctAdditional ++ [.plain g.clause])]
  once : ∀ p ∈ g.properties, (q.selection.filterMap Entry.field?).count p = 1

/-- Every property that a prompt interpolates or that is explicit is found, and it is selected exactly once:
as a field of the query, or behind the fields as a property of the prompt. -/
theorem selectsPrompt_of_generate :
    (∀ template explicit, Generate.AreProperties template explicit
      (Generate.promptProperties template explicit)) ∧
    ∀ (q : QueryDescriptor) (g : GenerateDirective), q.generate = some g → q.SelectsPrompt g := by
  refine ⟨Generate.areProperties_promptProperties, fun q g hg => ⟨?_, fun p hp => ?_⟩⟩
  · rw [selection_of_generate hg, selectedFields_of_generate hg, List.map_append, List.map_map]
    rfl
  · rw [field?_selection hg]
    exact List.count_eq_one_of_mem q.nodup_selectedFields
      (mem_selectedFields_of_mem_properties hg hp)

/-- A prompt with names in braces within braces, and a field that is one of them. -/
def nestedPrompt : GenerateDirective where
  mode := .single
  prompt := ⟨.plain "\x7b\x7btitle\x7d\x7d \x7ba\x7bbody\x7d \x7btitle\x7d", by decide⟩
  provider := ⟨.plain "together", by decide⟩
  params := .unset
  explicitProperties := [⟨.plain "body", by decide⟩, ⟨.plain "year", by decide⟩]

/-- Answers for the prompt, with one of its properties among the fields. -/
def answered : QueryDescriptor where
  collection := ⟨.plain "Diary", by decide⟩
  fields := [⟨.plain "body", by decide⟩, ⟨.bare "body", by decide⟩]
  search := none
  filter := none
  limit := none
  offset := none
  sort := []
  groupBy := none
  autocut := none
  additionalFields := [⟨.plain "id", by decide⟩]
  consistencyLevel := none
  tenant := none
  generate := some nestedPrompt

theorem selectsPrompt_of_generate_nested :
    Generate.AreProperties nestedPrompt.prompt.content ["body", "year"] ["title", "body", "year"] ∧
    answered.selection = [.field (.plain "body"), .field (.plain "title"), .field (.plain "year"),
      .block (.plain "_additional") [.plain "id", .plain nestedPrompt.clause]] ∧
    ∀ p ∈ ["title", "body", "year"], (answered.selection.filterMap Entry.field?).count p = 1 := by
  obtain ⟨hproperties, hselects⟩ := selectsPrompt_of_generate
  obtain ⟨hselection, honce⟩ := hselects answered nestedPrompt rfl
  have hnames : nestedPrompt.properties = ["title", "body", "year"] := by decide
  have hfields : answered.distinctFields = [.plain "body"] := by decide
  have hadded : answered.addedProperties nestedPrompt = ["title", "year"] := by decide
  have hadditional : answered.distinctAdditional = [.plain "id"] := by decide
  rw [hnames] at honce
  refine ⟨?_, ?_, honce⟩
  · rw [← hnames]
    exact hproperties _ _
  · rw [hselection, hfields, hadded, hadditional]
    rfl

end QueryDescriptor

end VectorQuery
