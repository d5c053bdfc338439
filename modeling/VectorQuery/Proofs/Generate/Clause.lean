import VectorQuery.Proofs.GraphQL.FieldReader
import VectorQuery.Proofs.Query.ArgumentValues
import VectorQuery.Generate.Clause

/-! The generate clause read back. It is one field with one argument, in which the provider, the prompt and the
parameters stand as they were given. -/
namespace VectorQuery
open GraphQL

/-- The provider that a key on the wire belongs to. -/
def Provider.ofKey? (key : String) : Option String :=
  (providerKeys.find? fun e => e.2 == key).map Prod.fst

/-- No two providers share a key. -/
lemma Provider.ofKey?_key (p : Provider) : ofKey? p.key = some p.text.content := by
  have hall : ∀ e ∈ providerKeys, ofKey? e.2 = some e.1 := by decide
  exact hall _ (mem_of_lookup p.known)

/-- What the service calls the text that a prompt makes for each object, and the text for the whole group. -/
def GenerateMode.answerName : GenerateMode → String
  | single => "singleResult"
  | grouped => "groupedResult"

lemma GenerateMode.resultField_eq_answerName (m : GenerateMode) : m.resultField = m.answerName := by
  cases m <;> rfl

namespace GenerateDirective

variable {g : GenerateDirective}

lemma isStrictName_resultField (m : GenerateMode) : isStrictName m.resultField.toList = true := by
  cases m <;> decide

lemma isStrictName_key (p : Provider) : isStrictName p.key.toList = true := by
  have hall : ∀ e ∈ providerKeys, isStrictName e.2.toList = true := by decide
  have hkey := hall _ (mem_of_lookup p.known)
  exact hkey

lemma setting_eq_argument {α : Type} (key : String) (wire : α → Value) (o : Option α) :
    ProviderParams.setting key wire o = argument key wire o := by
  cases o <;> rfl

lemma isFaithful_params {p : ProviderParams} (h : ∀ m, p.model = some m → m.text.isPlain = true) :
    ∀ f ∈ p.wire, IsFaithfulField f := by
  simp only [ProviderParams.wire, setting_eq_argument, List.forall_mem_append]
  refine ⟨⟨⟨?model, ?temperature⟩, ?maxTokens⟩, ?topP⟩
  case model => exact isFaithful_ofOption (by decide) fun m hm => isFaithful_ofText (h m hm)
  case temperature =>
    exact isFaithful_ofOption (by decide) fun t _ => Value.isFaithful_quantity t
  case maxTokens => exact isFaithful_ofOption (by decide) fun k _ => Value.isFaithful_int k.value
  case topP =>
    exact isFaithful_ofOption (by decide) fun s _ => Value.isFaithful_quantity s.toQuantity

lemma isPlain_model (hp : ArePlain g.texts) :
    ∀ m, g.params.model = some m → m.text.isPlain = true :=
  fun m hm => hp m.text (by simp [texts, hm])

lemma fieldsLegible_arguments (hp : ArePlain g.texts) :
    Value.fieldsLegible g.arguments = true := by
  have hparams := Value.fieldsLegible_of_faithful (isFaithful_params (isPlain_model hp))
  simp [arguments, Value.fieldsLegible, Value.isLegible, isStrictName_resultField, isStrictName_key,
    hparams.1]
  decide

lemma toList_clause (g : GenerateDirective) :
    g.clause.toList = inlineChars "generate" g.arguments [g.mode.resultField, "error"] := by
  have hopen : " \x7b ".toList = [' ', '{', ' '] := by decide
  have herror : " error \x7d".toList = ' ' :: ("error".toList ++ [' ', '}']) := by decide
  have hchars : g.clause.toList = g.clauseChars := String.toList_ofList
  rw [hchars]
  unfold clauseChars inlineChars
  rw [hopen, herror]
  simp

lemma isStrictName_of_mem_leaves (g : GenerateDirective) :
    ∀ w ∈ [g.mode.resultField, "error"], isStrictName w.toList = true :=
  List.forall_mem_cons.2 ⟨isStrictName_resultField g.mode, by decide⟩

/-- The parameters that are set, as they are read. -/
lemma wire_eq {p : ProviderParams} (h : ∀ m, p.model = some m → m.text.isPlain = true) :
    p.wire = (p.model.map fun m => ("model", .string m.content)).toList ++
      (p.temperature.map fun t => ("temperature", .float t.toDouble)).toList ++
      (p.maxTokens.map fun k => ("maxTokens", .int k.value)).toList ++
      (p.topP.map fun s => ("topP", .float s.toDouble)).toList := by
  have hmodel : (p.model.map fun m => ("model", Value.ofText m.text)) =
      p.model.map fun m => ("model", .string m.content) :=
    Option.map_congr fun m hm => by rw [ofText_eq_string (h m hm), Phrase.content]
  simp only [ProviderParams.wire, setting_eq_argument, argument_eq_toList, hmodel]

/-- The arguments as they are read: of all values only the prompt changes its form, from a block string to a
string. -/
lemma fieldsAsRead_arguments (hp : ArePlain g.texts) : Value.fieldsAsRead g.arguments =
    [(g.mode.resultField, .object [(g.provider.key,
      .object (("prompt", .string g.prompt.content) :: g.params.wire))])] := by
  have hprompt : g.prompt.text.shown = g.prompt.content :=
    MarkedText.shown_of_isPlain (hp _ (by simp [texts]))
  have hparams := (Value.fieldsLegible_of_faithful (isFaithful_params (isPlain_model hp))).2
  simp only [arguments, Value.fieldsAsRead, Value.asRead, hparams, hprompt]

/-- The clause is read as one field, and nothing of it is left. Its argument is named for the mode and holds
one object under the key of the provider: the prompt as it was given, then the parameters that are set. The
key tells the provider. -/
theorem readField_clause (g : GenerateDirective) (hplain : ∀ t ∈ g.texts, t.isPlain = true) :
    readField g.clause.toList = some (.node "generate"
      [(g.mode.answerName, .object [(g.provider.key, .object (("prompt", .string g.prompt.content) ::
        ((g.params.model.map fun m => ("model", .string m.content)).toList ++
          (g.params.temperature.map fun t => ("temperature", .float t.toDouble)).toList ++
          (g.params.maxTokens.map fun k => ("maxTokens", .int k.value)).toList ++
          (g.params.topP.map fun s => ("topP", .float s.toDouble)).toList)))])]
      [.leaf g.mode.answerName, .leaf "error"], []) ∧
    Provider.ofKey? g.provider.key = some g.provider.text.content := by
  have hlegible := fieldsLegible_arguments hplain
  have hname : isStrictName "generate".toList = true := by decide
  have hyields := Field.yields_inlineChars hname hlegible (isStrictName_of_mem_leaves g)
    (List.cons_ne_nil _ _)
  have hfaithful : ∀ f ∈ [Field.leaf g.mode.resultField, .leaf "error"], f.IsFaithful :=
    List.forall_mem_cons.2 ⟨Field.isFaithful_leaf (isStrictName_resultField g.mode),
      List.forall_mem_singleton.2 (Field.isFaithful_leaf (by decide))⟩
  obtain ⟨hleaves, hsame⟩ := Field.all_faithful hfaithful
  have hfield : (Field.inline "generate" g.arguments [g.mode.resultField, "error"]).isLegible =
      true := by
    rw [Field.inline, Field.isLegible, hname, hlegible]
    exact hleaves
  refine ⟨?_, g.provider.ofKey?_key⟩
  rw [toList_clause, readField_of_yields _ hfield hyields ends_nil, Field.inline, Field.asRead,
    fieldsAsRead_arguments hplain, wire_eq (isPlain_model hplain), List.map_cons,
    List.map_singleton, hsame, GenerateMode.resultField_eq_answerName]

/-- A prompt with quotes, braces and a backslash at its end, and three of the four parameters. -/
def escaping : GenerateDirective where
  mode := .grouped
  prompt := ⟨.plain "say \"\"\"\x7btitle\x7d\n\\", by decide⟩
  provider := ⟨.plain "aws_bedrock", by decide⟩
  params := ⟨some ⟨.plain "m\"\x7d)", by decide⟩, some ⟨.float .one, rfl⟩,
    some ⟨7, Nat.succ_pos 6⟩, none⟩
  explicitProperties := []

theorem readField_clause_escaping : readField escaping.clause.toList = some (.node "generate"
      [("groupedResult", .object [("aws", .object [
        ("prompt", .string "say \"\"\"\x7btitle\x7d\n\\"), ("model", .string "m\"\x7d)"),
        ("temperature", .float .one), ("maxTokens", .int 7)])])]
      [.leaf "groupedResult", .leaf "error"], []) ∧
    Provider.ofKey? "aws" = some "aws_bedrock" :=
  readField_clause escaping (by decide)

end GenerateDirective

end VectorQuery
