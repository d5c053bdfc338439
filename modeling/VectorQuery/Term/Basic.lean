import VectorQuery.Aggregate.Descriptor
/-! What a caller may hand over: plain data, objects of the library, and containers of both. -/
namespace VectorQuery

/-- The objects of the library. -/
inductive Object
  | value (v : FilterValue)
  | filter (f : Filter)
  | search (s : Search)
  | move (m : Move)
  | sort (s : SortSpec)
  | groupBy (g : GroupBySpec)
  | query (q : QueryDescriptor)
  | params (p : ProviderParams)
  | directive (g : GenerateDirective)
  | metrics (p : PropertyMetrics)
  | aggregate (a : AggregateDescriptor)
  | rendering (c : RendererConfig)

def Object.view : Object → Datum
  | value v => v.view
  | filter f => f.view
  | search s => s.view
  | move m => m.view
  | sort s => s.view
  | groupBy g => g.view
  | query q => q.view
  | params p => p.view
  | directive g => g.view
  | metrics p => p.view
  | aggregate a => a.view
  | rendering c => c.view

/-- A caller's value. -/
inductive Term
  | data (d : Datum)
  | object (o : Object)
  | list (xs : List Term)
  | tuple (xs : List Term)
  | dict (entries : List (Datum × Term))

namespace Term

instance : Inhabited Term := ⟨.data .none⟩

def none : Term := .data .none

def str (s : String) : Term := .data (.str s)

mutual

/-- The plain view of a value: objects appear as records. -/
def view : Term → Datum
  | data d => d
  | object o => o.view
  | list xs => .list (views xs)
  | tuple xs => .tuple (views xs)
  | dict es => .dict (entryViews es)

def views : List Term → List Datum
  | [] => []
  | x :: r => x.view :: views r

def entryViews : List (Datum × Term) → List (Datum × Datum)
  | [] => []
  | (k, v) :: r => (k, v.view) :: entryViews r

end

/-- What a sequence runs over; other values are of the wrong type. -/
def itemsOf : Term → Checked (List Term)
  | list xs => .ok xs
  | tuple xs => .ok xs
  | dict es => .ok (es.map fun (k, _) => .data k)
  | data d => (VectorQuery.itemsOf d).map fun ds => ds.map .data
  | object _ => .error .wrongType

def isNone (t : Term) : Bool := t.view.isNone

/-- An optional object: absent, the object, or refused. -/
def optionalObject (read : Object → Option α) (refuse : Datum → Checked (Option α)) :
    Term → Checked (Option α)
  | object o =>
    match read o with
    | some a => .ok (some a)
    | Option.none => refuse o.view
  | t => if t.isNone then .ok Option.none else refuse t.view

end Term

end VectorQuery
