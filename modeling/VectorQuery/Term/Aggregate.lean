import VectorQuery.Term.Query
/-! Aggregate queries from callers' values: every slot is checked, in a fixed order. -/
namespace VectorQuery

/-- The slots of an aggregation as callers fill them. -/
structure AggregateSlots where
  collection : Term
  metaMetrics : Term := .tuple []
  propertyMetrics : Term := .tuple []
  groupByPath : Term := .none
  search : Term := .none
  filter : Term := .none
  objectLimit : Term := .none
  limit : Term := .none
  tenant : Term := .none

namespace AggregateSlots

/-- An entry is the metrics of a property themselves. -/
def checkEntry : Term → Checked PropertyMetrics
  | .object (.metrics p) => .ok p
  | t => reject (.mustBe "property_metrics entries" .propertyMetrics t.view)

def checkSearch (t : Term) : Checked (Option AggregateSearch) :=
  Term.optionalObject
    (fun
      | .search s => if h : s.isAggregable = true then some ⟨s, h⟩ else none
      | _ => none)
    (fun d => reject (.searchInAggregate d.kindName)) t

/-- The aggregation that the slots describe. -/
def check (s : AggregateSlots) : Checked AggregateDescriptor := do
  let collection ← Name.check "collection name" s.collection.view
  let metaMetrics ← Metric.checkAll s.metaMetrics.view
  let propertyMetrics ← (← s.propertyMetrics.itemsOf).mapM checkEntry
  let groupByPath ← optional Path.check s.groupByPath.view
  let search ← checkSearch s.search
  let filter ← checkFilter s.filter
  let objectLimit ← optional (Count.check "object_limit") s.objectLimit.view
  let limit ← optional (Count.check "limit") s.limit.view
  let tenant ← optional Tenant.check s.tenant.view
  pure { collection, metaMetrics, propertyMetrics, groupByPath, search, filter, objectLimit, limit
         tenant }

end AggregateSlots

namespace AggregateDescriptor

/-- The slots that describe the aggregation. -/
def slots (a : AggregateDescriptor) : AggregateSlots where
  collection := .data a.collection.view
  metaMetrics := .data (.tuple (a.metaMetrics.map Metric.view))
  propertyMetrics := .tuple (a.propertyMetrics.map fun p => .object (.metrics p))
  groupByPath := .data (viewOption Path.view a.groupByPath)
  search := .ofOption (fun s => .search s.search) a.search
  filter := .ofOption .filter a.filter
  objectLimit := .data (viewOption Count.view a.objectLimit)
  limit := .data (viewOption Count.view a.limit)
  tenant := .data (viewOption Tenant.view a.tenant)

/-- The aggregation over a whole collection. -/
def overAll (collection : Term) (metaMetrics : List Term) : Checked AggregateDescriptor :=
  AggregateSlots.check { collection, metaMetrics := .tuple metaMetrics }

end AggregateDescriptor

end VectorQuery
