import VectorQuery.Query.Descriptor
/-! Aggregate queries over one collection. -/
namespace VectorQuery

/-- One metric or more for one property. -/
structure PropertyMetrics where
  property : Name
  first : Metric
  rest : List Metric
  topOccurrencesLimit : Option Count

/-- A search that an aggregation can run over. -/
structure AggregateSearch where
  search : Search
  aggregable : search.isAggregable = true

/-- An Aggregate query. -/
structure AggregateDescriptor where
  collection : Name
  metaMetrics : List Metric
  propertyMetrics : List PropertyMetrics
  groupByPath : Option Path
  search : Option AggregateSearch
  filter : Option Filter
  objectLimit : Option Count
  limit : Option Count
  tenant : Option Tenant

namespace Metric

def view (m : Metric) : Datum := .text (.word (.metric m))

def check (d : Datum) : Checked Metric :=
  match d.text?.bind fun t => Metric.ofSymbol? t.content with
  | some m => .ok m
  | none => reject (.metric d)

/-- A single metric, or a sequence of metrics. -/
def checkAll (d : Datum) : Checked (List Metric) := do
  (← GenerateDirective.oneOrMany d).mapM check

end Metric

namespace PropertyMetrics

def metrics (p : PropertyMetrics) : List Metric := p.first :: p.rest

def view (p : PropertyMetrics) : Datum :=
  .record "PropertyMetrics" [("property", p.property.view),
    ("metrics", .tuple (p.metrics.map Metric.view)),
    ("top_occurrences_limit", viewOption Count.view p.topOccurrencesLimit)]

def check (property metrics limit : Datum) : Checked PropertyMetrics := do
  let name ← Name.check "property name" property
  match ← Metric.checkAll metrics with
  | [] => reject (.noMetrics property)
  | m :: ms => return ⟨name, m, ms, ← optional (Count.check "top_occurrences_limit") limit⟩

end PropertyMetrics

namespace AggregateDescriptor

def view (a : AggregateDescriptor) : Datum :=
  .record "AggregateDescriptor" [("collection", a.collection.view),
    ("meta_metrics", .tuple (a.metaMetrics.map Metric.view)),
    ("property_metrics", .tuple (a.propertyMetrics.map PropertyMetrics.view)),
    ("group_by_path", viewOption Path.view a.groupByPath),
    ("search", viewOption (fun s => s.search.view) a.search),
    ("filter", viewOption Filter.view a.filter),
    ("object_limit", viewOption Count.view a.objectLimit),
    ("limit", viewOption Count.view a.limit),
    ("tenant", viewOption Tenant.view a.tenant)]

end AggregateDescriptor

end VectorQuery
