import VectorQuery.Filter.Where
import VectorQuery.Query.Descriptor
import VectorQuery.Search.Argument
/-! The arguments of a Get query: only those that are set, in a fixed order. -/
namespace VectorQuery
open GraphQL (Value Arguments)

/-- An argument, when its value is there. -/
def argument (name : String) (wire : α → Value) : Option α → Arguments
  | none => []
  | some a => [(name, wire a)]

/-- A count on the wire; an absent one is null. -/
def countWire : Option Count → Value
  | none => .null
  | some c => .int c.value

namespace SortSpec

def wire (s : SortSpec) : Value :=
  .object [("path", .ofTexts s.path.segments), ("order", .enum s.direction.symbol)]

end SortSpec

namespace GroupBySpec

def wire (g : GroupBySpec) : Value :=
  .object [("path", .ofTexts g.path.segments), ("groups", countWire g.groups),
    ("objectsPerGroup", countWire g.objectsPerGroup)]

end GroupBySpec

namespace QueryDescriptor

/-- The condition that an object has a given id. -/
def idFilter (id : Phrase) : Filter :=
  .leaf ⟨⟨[.plain "id"], by decide⟩, .known .equal, .text id.text⟩

/-- The filter that takes effect: a fetch by id adds its condition in front. -/
def effectiveFilter (q : QueryDescriptor) : Option Filter :=
  match q.search, q.filter with
  | some (.fetchById id), none => some (idFilter id)
  | some (.fetchById id), some f => some (.all (idFilter id) [f])
  | _, f => f

/-- The `where` argument, if there is one. -/
def whereValue (q : QueryDescriptor) : Option Value :=
  q.effectiveFilter.map fun f => f.compile.value

/-- The search argument, if there is one. -/
def searchArgument (q : QueryDescriptor) : Checked Arguments :=
  match q.search with
  | none => .ok []
  | some s => s.argument.map Option.toList

/-- The level that takes effect. -/
def effectiveLevel (q : QueryDescriptor) (c : RendererConfig) : Option ConsistencyLevel :=
  q.consistencyLevel.orElse fun _ => c.defaultConsistencyLevel

/-- The sort keys, when there are some. -/
def sortArgument (q : QueryDescriptor) : Arguments :=
  if q.sort.isEmpty then [] else [("sort", .list (q.sort.map SortSpec.wire))]

/-- The arguments of the query. -/
def arguments (q : QueryDescriptor) (c : RendererConfig) : Checked Arguments := do
  let search ← q.searchArgument
  pure (argument "limit" (fun n => .int n.value) q.limit ++
    argument "offset" (fun (n : Nat) => .int n) q.offset ++
    argument "where" id q.whereValue ++ search ++ q.sortArgument ++
    argument "groupBy" GroupBySpec.wire q.groupBy ++
    argument "autocut" (fun n => .int n.value) q.autocut ++
    argument "consistencyLevel" (fun l => .enum l.text.content) (q.effectiveLevel c) ++
    argument "tenant" (fun t => .ofText t.text) q.tenant)

end QueryDescriptor

end VectorQuery
