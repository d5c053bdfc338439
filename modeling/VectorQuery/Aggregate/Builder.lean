import VectorQuery.Term.Aggregate
/-! Building an aggregation step by step. Metrics of a property replace earlier ones of that property. -/
namespace VectorQuery

/-- A builder call with its arguments as the caller gives them. -/
inductive AggregateCall
  | withMetaMetrics (metrics : List Term)
  | withPropertyMetrics (property : Datum) (metrics : List Term) (topOccurrencesLimit : Datum)
  | withGroupBy (path : Term)
  | withSearch (search : Term)
  | withFilter (filter : Term)
  | withObjectLimit (limit : Term)
  | withLimit (limit : Term)
  | withTenant (tenant : Term)

namespace AggregateDescriptor

/-- The entries with one replaced: the older entry of that property goes, the new one is last. -/
def replaceMetrics (entries : List PropertyMetrics) (entry : PropertyMetrics) :
    List PropertyMetrics :=
  (entries.filter fun e => !e.property.text.same entry.property.text) ++ [entry]

end AggregateDescriptor

namespace AggregateCall

/-- The slots with the one that the call writes. -/
def write (call : AggregateCall) (a : AggregateDescriptor) : Checked AggregateSlots :=
  let s := a.slots
  match call with
  | withMetaMetrics metrics => .ok { s with metaMetrics := .tuple metrics }
  | withPropertyMetrics property metrics limit =>
    (PropertyMetrics.check property (.tuple (Term.views metrics)) limit).map fun entry =>
      let entries := AggregateDescriptor.replaceMetrics a.propertyMetrics entry
      { s with propertyMetrics := .tuple (entries.map fun p => .object (.metrics p)) }
  | withGroupBy path => .ok { s with groupByPath := path }
  | withSearch search => .ok { s with search }
  | withFilter filter => .ok { s with filter }
  | withObjectLimit limit => .ok { s with objectLimit := limit }
  | withLimit limit => .ok { s with limit }
  | withTenant tenant => .ok { s with tenant }

end AggregateCall

namespace AggregateDescriptor

/-- The aggregation after a builder call. -/
def apply (a : AggregateDescriptor) (call : AggregateCall) : Checked AggregateDescriptor := do
  (← call.write a).check

end AggregateDescriptor

end VectorQuery
