import VectorQuery.Generate.Directive
import VectorQuery.Generate.Placeholder
import VectorQuery.GraphQL.Value
/-! The generate clause of a directive, and the properties it needs selected. -/
namespace VectorQuery
open GraphQL (Value)

namespace ProviderParams

/-- A parameter under its key, when it is set. -/
def setting (key : String) (wire : α → Value) : Option α → List (String × Value)
  | none => []
  | some a => [(key, wire a)]

/-- The parameters that are set, in a fixed order. -/
def wire (p : ProviderParams) : List (String × Value) :=
  setting "model" (fun m => .ofText m.text) p.model ++
    setting "temperature" (fun t => .float t.toDouble) p.temperature ++
    setting "maxTokens" (fun k => .int k.value) p.maxTokens ++
    setting "topP" (fun s => .float s.toDouble) p.topP

end ProviderParams

namespace GenerateDirective

/-- The arguments of the clause: the prompt and the parameters, under the key of the provider. -/
def arguments (g : GenerateDirective) : GraphQL.Arguments :=
  [(g.mode.resultField, .object [(g.provider.key,
    .object (("prompt", .block g.prompt.text.shown) :: g.params.wire))])]

/-- The text of the clause, with its own selection. -/
def clauseChars (g : GenerateDirective) : List Char :=
  "generate".toList ++ GraphQL.argumentsChars g.arguments ++ " \x7b ".toList ++
    g.mode.resultField.toList ++ " error \x7d".toList

def clause (g : GenerateDirective) : String := String.ofList g.clauseChars

/-- The properties that have to be selected for the prompt. -/
def properties (g : GenerateDirective) : List String :=
  Generate.promptProperties g.prompt.content (g.explicitProperties.map fun n => n.text.shown)

end GenerateDirective

end VectorQuery
