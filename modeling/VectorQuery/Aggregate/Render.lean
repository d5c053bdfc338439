import VectorQuery.Aggregate.Descriptor
import VectorQuery.Query.Render
/-! The arguments, the selection and the text of an Aggregate query. -/
namespace VectorQuery
open GraphQL (Arguments)

namespace Metric

/-- A metric as a selection; the most frequent values are limited. -/
def rendered (m : Metric) (limit : Int) : String :=
  match m with
  | topOccurrences => "topOccurrences(limit: " ++ toString limit ++ ") \x7b value occurs \x7d"
  | m => m.symbol

end Metric

namespace AggregateDescriptor

/-- The arguments of the aggregation. -/
def arguments (a : AggregateDescriptor) : Checked Arguments := do
  let search ← match a.search with
    | none => .ok []
    | some s => s.search.argument.map Option.toList
  pure (argument "where" (fun f => f.compile.value) a.filter ++ search ++
    argument "objectLimit" (fun n => .int n.value) a.objectLimit ++
    argument "limit" (fun n => .int n.value) a.limit ++
    argument "groupBy" (fun p => .ofTexts p.segments) a.groupByPath ++
    argument "tenant" (fun t => .ofText t.text) a.tenant)

/-- The block of one property. -/
def propertyBlock (p : PropertyMetrics) (c : RendererConfig) : Entry :=
  let limit := p.topOccurrencesLimit.getD c.topOccurrencesLimit
  .block p.property.text
    ((distinct (· == ·) p.metrics).map fun m => .plain (m.rendered limit.value))

/-- The metrics of the whole: those asked for, or a count where nothing else is. -/
def metaFields (a : AggregateDescriptor) : List Metric :=
  let ms := distinct (· == ·) a.metaMetrics
  if ms.isEmpty && a.propertyMetrics.isEmpty then [.count] else ms

/-- The selection of the aggregation; it is never empty. -/
def selection (a : AggregateDescriptor) (c : RendererConfig) : List Entry :=
  (if a.groupByPath.isSome then [.block (.plain "groupedBy") [.plain "path", .plain "value"]]
    else []) ++
  (if a.metaFields.isEmpty then []
    else [.block (.plain "meta") (a.metaFields.map fun m => .plain m.symbol)]) ++
  a.propertyMetrics.map (propertyBlock · c)

/-- The text of the aggregation. -/
def render (a : AggregateDescriptor) (c : RendererConfig) : Checked String := do
  let arguments ← a.arguments
  let doc : GraphQL.Document := ⟨"Aggregate".toList, a.collection.content.toList,
    GraphQL.argumentsChars arguments, (a.selection c).map Entry.selection⟩
  pure (doc.render c.indentUnit)

end AggregateDescriptor

end VectorQuery
