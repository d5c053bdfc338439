import VectorQuery.Filter.Expression
import VectorQuery.Generate.Directive
import VectorQuery.GraphQL.Selection
import VectorQuery.Settings.Rendering
import VectorQuery.Search.Basic
/-! Get queries over one collection, and their sort keys and groups. -/
namespace VectorQuery

structure SortSpec where
  path : Path
  direction : SortDirection

structure GroupBySpec where
  path : Path
  groups : Option Count
  objectsPerGroup : Option Count

/-- A tenant name: any text that is not empty. -/
structure Tenant where
  text : MarkedText
  nonempty : text.isEmpty = false

/-- A Get query. -/
structure QueryDescriptor where
  collection : Name
  fields : List FieldText
  search : Option Search
  filter : Option Filter
  limit : Option Count
  offset : Option Nat
  sort : List SortSpec
  groupBy : Option GroupBySpec
  autocut : Option Count
  additionalFields : List Name
  consistencyLevel : Option ConsistencyLevel
  tenant : Option Tenant
  generate : Option GenerateDirective

namespace SortSpec

def view (s : SortSpec) : Datum :=
  .record "SortSpec" [("path", s.path.view), ("direction", .text (.word (.direction s.direction)))]

/-- The value as a direction. -/
def checkDirection (d : Datum) : Checked SortDirection :=
  match d.text?.bind fun t => SortDirection.ofSymbol? t.content with
  | some x => .ok x
  | none => reject (.mustBe "Sort direction" .direction d)

def check (path direction : Datum) : Checked SortSpec := do
  let p ← Path.check path
  let d ← checkDirection direction
  pure ⟨p, d⟩

/-- The direction of a sort key that names none. -/
def ascending : Datum := .text (.word (.direction .asc))

end SortSpec

namespace GroupBySpec

def view (g : GroupBySpec) : Datum :=
  .record "GroupBySpec" [("path", g.path.view), ("groups", viewOption Count.view g.groups),
    ("objects_per_group", viewOption Count.view g.objectsPerGroup)]

def check (path groups objectsPerGroup : Datum) : Checked GroupBySpec := do
  let p ← Path.check path
  let n ← optional (Count.check "groups") groups
  let k ← optional (Count.check "objects_per_group") objectsPerGroup
  pure ⟨p, n, k⟩

/-- One group unless told otherwise. -/
def defaultGroups : Datum := .int 1

/-- Ten objects a group unless told otherwise. -/
def defaultObjects : Datum := .int 10

end GroupBySpec

namespace Tenant

def view (t : Tenant) : Datum := .text t.text

def check (d : Datum) : Checked Tenant :=
  match d with
  | .text t =>
    if h : t.isEmpty = false then .ok ⟨t, h⟩ else reject (.mustBe "tenant" .nonEmptyString d)
  | _ => reject (.mustBe "tenant" .nonEmptyString d)

end Tenant

/-- The value as the consistency level of a query. -/
def ConsistencyLevel.check (d : Datum) : Checked ConsistencyLevel :=
  match ofDatum? d with
  | some l => .ok l
  | none => reject (.mustBe "consistency_level" .consistencyLevel d)

namespace QueryDescriptor

def view (q : QueryDescriptor) : Datum :=
  .record "QueryDescriptor" [("collection", q.collection.view),
    ("fields", .tuple (q.fields.map FieldText.view)), ("search", viewOption Search.view q.search),
    ("filter", viewOption Filter.view q.filter), ("limit", viewOption Count.view q.limit),
    ("offset", viewOption (fun (n : Nat) => .int n) q.offset),
    ("sort", .tuple (q.sort.map SortSpec.view)),
    ("group_by", viewOption GroupBySpec.view q.groupBy),
    ("autocut", viewOption Count.view q.autocut),
    ("additional_fields", .tuple (q.additionalFields.map Name.view)),
    ("consistency_level", viewOption ConsistencyLevel.view q.consistencyLevel),
    ("tenant", viewOption Tenant.view q.tenant),
    ("generate", viewOption GenerateDirective.view q.generate)]

end QueryDescriptor

end VectorQuery
