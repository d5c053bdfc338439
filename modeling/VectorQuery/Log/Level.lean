import VectorQuery.Fault
import VectorQuery.Text.Upper
/-! Levels of log records: numbers, some of which have names. -/
namespace VectorQuery

/-- A level as settings give it; a truth value counts as one or zero. -/
inductive LogLevel
  | number (i : Int)
  | truth (b : Bool)
  deriving DecidableEq

namespace LogLevel

def value : LogLevel → Int
  | number i => i
  | truth b => if b then 1 else 0

def view : LogLevel → Datum
  | number i => .int i
  | truth b => .bool b

def debug : Int := 10
def info : Int := 20
def warning : Int := 30

/-- The names that settings may use. -/
def names : List (String × Int) := [
  ("CRITICAL", 50), ("FATAL", 50), ("ERROR", 40), ("WARNING", warning), ("WARN", warning),
  ("INFO", info), ("DEBUG", debug), ("NOTSET", 0)]

/-- The name that records show for a level; a level without one shows its number. -/
def nameOf (level : LogLevel) : String :=
  match [(50, "CRITICAL"), (40, "ERROR"), (warning, "WARNING"), (info, "INFO"), (debug, "DEBUG"),
      (0, "NOTSET")].lookup level.value with
  | some name => name
  | none => "Level " ++ level.view.shown

/-- The level that a setting stands for: a number itself, a name in any case of its letters, or else
the fallback. -/
def ofDatum (d : Datum) (fallback : LogLevel) : LogLevel :=
  match d with
  | .int i => .number i
  | .bool b => .truth b
  | d =>
    if d.truthy then
      match names.lookup (String.ofList (Text.upper d.shown.toList)) with
      | some i => .number i
      | none => fallback
    else fallback

/-- Names that stand for something else than a level, with the fault of taking it for one: the format of records is
a text, and the formats by their styles are a table. -/
def otherNames : List (String × Fault) := [("BASIC_FORMAT", .badValue), ("_STYLES", .wrongType)]

/-- Refuses a setting that names something else than a level. -/
def check : Datum → Checked Unit
  | .text t =>
    match otherNames.lookup (String.ofList (Text.upper t.shown.toList)) with
    | some e => .error e
    | none => .ok ()
  | _ => .ok ()

/-- The lower one of two levels, the first if they are equal. -/
def min (a b : LogLevel) : LogLevel := if b.value < a.value then b else a

@[simp] theorem value_min (a b : LogLevel) : (min a b).value = Min.min a.value b.value := by
  unfold min
  split <;> omega

end LogLevel

end VectorQuery
