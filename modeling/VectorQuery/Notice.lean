import VectorQuery.Datum.Show
/-! Warnings that accompany a result. -/
namespace VectorQuery

/-- A line that was logged while compiling. -/
inductive Notice
  /-- an operator outside the table, and the name it is sent as -/
  | unknownOperator (given : Datum) (sentAs : String)
  /-- a response that reports errors -/
  | partialAnswer (operation collection : String) (rows : Nat) (errors : List String)

def Notice.message : Notice → String
  | unknownOperator given sentAs =>
    "Operator " ++ given.detailed ++ " is not a known filter operator, sending it as " ++
      quotedText sentAs
  | partialAnswer operation collection rows errors =>
    operation ++ " " ++ collection ++ " returned " ++ toString rows ++ " row(s) with errors: " ++
      "; ".intercalate errors

/-- A result together with the warnings on the way to it, in order. -/
structure Noted (α : Type) where
  value : α
  notices : List Notice

namespace Noted

/-- A result without warnings. -/
def quiet (a : α) : Noted α := ⟨a, []⟩

def map (f : α → β) (x : Noted α) : Noted β := ⟨f x.value, x.notices⟩

end Noted

end VectorQuery
