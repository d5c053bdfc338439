import VectorQuery.Log.Loggers
/-! The lines of the log: how records are written, and what is written between set-ups. -/
namespace VectorQuery

namespace LogRecord

/-- The name that the record shows for its logger. -/
def loggerName (r : LogRecord) : String := if r.logger.isEmpty then "root" else r.logger

/-- The name that the record shows for its level. -/
def levelName (r : LogRecord) : String := (LogLevel.number r.level).nameOf

/-- The lines of a text. -/
def linesOf (text : String) : List String := (Text.splitOn '\n' text.toList).map String.ofList

/-- The lines in the log file, without their time. -/
def fileLines (r : LogRecord) : List String :=
  linesOf (r.loggerName ++ " - " ++ r.levelName ++ " - " ++ r.message)

/-- The lines on the console. -/
def consoleLines (r : LogRecord) : List String := linesOf (r.levelName ++ " - " ++ r.message)

end LogRecord

/-- A log that was set up: the last set-up, the loggers since then, and the lines written so far. -/
structure Log where
  setup : LogSetup
  loggers : Loggers
  fileLines : List String
  consoleLines : List String

namespace Log

/-- The log after a record that goes to a handler. -/
def writeTo (r : LogRecord) (l : Log) : LogHandler → Log
  | .file .. => { l with fileLines := l.fileLines ++ r.fileLines }
  | .console _ => { l with consoleLines := l.consoleLines ++ r.consoleLines }

/-- The log after more records. -/
def write (l : Log) (records : List LogRecord) : Log :=
  records.foldl (fun l r => (l.loggers.takers r).foldl (writeTo r) l) l

/-- The log after a set-up, which replaces the earlier one. The records on the way to a new set-up
still go where the old one sends them. -/
def configure [YamlLibrary] (files : Files) (env : Environment) (a : LogArguments)
    (before : Option Log) : Checked Log := do
  let (setup, records) ← a.setup files env
  let l := (before.getD ⟨setup, .initial, [], []⟩).write records
  let l := { l with setup, loggers := l.loggers.install setup }
  pure (l.write [setup.report])

/-- The log after several set-ups. -/
def configureAll [YamlLibrary] (files : Files) (env : Environment) (calls : List LogArguments) :
    Checked (Option Log) :=
  calls.foldlM (fun before a => (configure files env a before).map some) none

/-- The log after one set-up and some repetitions of it. -/
def configureAgain [YamlLibrary] (files : Files) (env : Environment) (a : LogArguments) :
    (repetitions : Nat) → Checked Log
  | 0 => configure files env a none
  | n + 1 => do configure files env a (some (← configureAgain files env a n))

end Log

end VectorQuery
