import VectorQuery.Fault
import VectorQuery.Notice
/-! Response envelopes: the rows of a query under `data`, and the errors that the server reports next
to them. Nothing in an envelope is an error of its own; what is missing yields no rows. -/
namespace VectorQuery

/-- A row of an answer: the entries of a dictionary. -/
abbrev Row := Datum.Entries

/-- What a query brought back. -/
structure Extraction where
  rows : List Row
  errors : List String

namespace Extraction

/-- Whether the server reported no errors. -/
def ok (x : Extraction) : Bool := x.errors.isEmpty

/-- The rows as data. -/
def rowsView (x : Extraction) : Datum := .list (x.rows.map .dict)

/-- The errors as data. -/
def errorsView (x : Extraction) : Datum := .list (x.errors.map .str)

end Extraction

namespace Envelope

/-- The text of one reported error: its message, or all of it where it has none. -/
def errorText (d : Datum) : String :=
  match d.get? "message" with
  | none => d.shown
  | some .none => d.shown
  | some m => m.shown

/-- The reported errors: a list, or a single one on its own. -/
def reported (envelope : Datum) : List Datum :=
  match envelope.get? "errors" with
  | none => []
  | some (.list xs) => xs
  | some d => if d.truthy then [d] else []

/-- The text of every reported error, in order. -/
def errorMessages (envelope : Datum) : List String := (reported envelope).map errorText

/-- The data below a path of keys, absent where a level is no dictionary or has no such key. -/
def node (envelope : Datum) (keys : List String) : Datum :=
  keys.foldl (fun d key => (d.get? key).getD .none) envelope

/-- The dictionaries in a list; other data are no rows. -/
def rowsOf : Datum → List Row
  | .list xs => xs.filterMap Datum.dict?
  | _ => []

/-- The rows of an operation on a collection together with the errors, and a warning if there are
any errors. -/
def extract (envelope : Datum) (operation collection : String) : Noted Extraction :=
  let rows := rowsOf (node envelope ["data", operation, collection])
  let errors := errorMessages envelope
  ⟨⟨rows, errors⟩,
    if errors.isEmpty then [] else [.partialAnswer operation collection rows.length errors]⟩

@[simp] theorem extract_errors (envelope : Datum) (operation collection : String) :
    (extract envelope operation collection).value.errors = errorMessages envelope := rfl

end Envelope

end VectorQuery
