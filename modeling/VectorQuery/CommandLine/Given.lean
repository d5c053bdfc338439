import VectorQuery.Datum.Basic
/-! What is given for a flag that takes one value: that value, or nothing at all. -/
namespace VectorQuery.CommandLine

/-- A flag is given nothing when two dashes alone stand after its equals sign. -/
inductive Given (α : Type)
  | nothing
  | value (a : α)

namespace Given

/-- The first of the values that a flag is given. -/
def ofList : List α → Given α
  | [] => nothing
  | a :: _ => value a

/-- The value after a check; nothing needs no check. -/
def check (read : α → Except ε β) : Given α → Except ε (Given β)
  | nothing => .ok nothing
  | value a => (read a).map value

/-- What is given as data; nothing is an empty list. -/
def datum (view : α → Datum) : Given α → Datum
  | nothing => .list []
  | value a => view a

/-- What may be given as data. -/
def datum? (view : α → Datum) : Option (Given α) → Datum
  | none => .none
  | some g => g.datum view

end Given

end VectorQuery.CommandLine
