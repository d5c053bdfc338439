import VectorQuery.Distinct
import VectorQuery.Generate.Clause
import VectorQuery.GraphQL.Document
import VectorQuery.Query.Arguments
/-! The selection and the text of a Get query. -/
namespace VectorQuery
open GraphQL (Value)

/-- An entry of a selection: a field, or a block of fields under a name. -/
inductive Entry
  | field (text : MarkedText)
  | block (header : MarkedText) (fields : List MarkedText)

namespace Entry

/-- The entry as a selection of a document. -/
def selection : Entry → GraphQL.Selection
  | field t => .line t.content.toList
  | block header fields =>
    .block header.content.toList (fields.map fun t => .line t.content.toList)

/-- The entry as plain data: a text, or a header with a list of texts. -/
def view : Entry → Datum
  | field t => .text t
  | block header fields => .tuple [.text header, .list (fields.map .text)]

end Entry

/-- What is selected where nothing was asked for. -/
def fallbackSelection : MarkedText := .plain "_additional \x7b id \x7d"

namespace QueryDescriptor

/-- The properties that the prompt needs and no field selects literally. -/
def promptFields (q : QueryDescriptor) : List MarkedText :=
  match q.generate with
  | none => []
  | some g => (g.properties.map .plain).filter fun p => !(q.fields.any fun f => p.same f.text)

/-- The fields of the query, then the properties that the prompt needs. -/
def selectedFields (q : QueryDescriptor) : List MarkedText :=
  distinct MarkedText.same (q.fields.map FieldText.text ++ q.promptFields)

/-- The additional fields, then the generate clause. -/
def additionalEntries (q : QueryDescriptor) : List MarkedText :=
  distinct MarkedText.same (q.additionalFields.map Name.text ++
    (q.generate.map fun g => MarkedText.plain g.clause).toList)

/-- The selection of the query; it is never empty. -/
def selection (q : QueryDescriptor) : List Entry :=
  let entries := q.selectedFields.map Entry.field ++
    (if q.additionalEntries.isEmpty then []
      else [.block (.plain "_additional") q.additionalEntries])
  if entries.isEmpty then [.field fallbackSelection] else entries

/-- The document of the query. -/
def document (q : QueryDescriptor) (c : RendererConfig) : Checked GraphQL.Document := do
  let arguments ← q.arguments c
  pure ⟨"Get".toList, q.collection.content.toList, GraphQL.argumentsChars arguments,
    q.selection.map Entry.selection⟩

/-- The text of the query. -/
def render (q : QueryDescriptor) (c : RendererConfig) : Checked String :=
  (q.document c).map fun doc => doc.render c.indentUnit

end QueryDescriptor

end VectorQuery
