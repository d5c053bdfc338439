import VectorQuery.Fault
import VectorQuery.Json.Write
import VectorQuery.Response.Envelope
/-! What a run of the command line prints, and how it ends. -/
namespace VectorQuery.CommandLine

/-- What a run prints and how it ends. -/
structure Report where
  exitCode : Nat
  out : String
  err : String

namespace Report

/-- The report of rows and errors; errors without any rows are a failure. -/
def ofExtraction (x : Extraction) : Report where
  exitCode := if x.errors.isEmpty || !x.rows.isEmpty then 0 else 1
  out := Json.writeIndented 0 (.object [("rows", x.rowsView), ("errors", x.errorsView)]) ++ "\n"
  err := ""

/-- The report of a fault, if the command line reports it: what the library finds wrong, and a missing
file of settings. -/
def ofFault? (e : Fault) : Option Report :=
  let report (message : String) : Report := ⟨1, "", "Error: " ++ message ++ "\n"⟩
  match e with
  | .missingFile _ => e.message?.map report
  | e => if e.isReported then e.message?.map report else none

/-- A report or a fault that is no report. -/
def settle (x : Checked Report) : Checked Report :=
  match x with
  | .ok report => .ok report
  | .error e =>
    match ofFault? e with
    | some report => .ok report
    | none => .error e

end Report

end VectorQuery.CommandLine
