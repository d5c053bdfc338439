import VectorQuery.Log.Setup
/-! The loggers: the handlers of the root logger, the levels from which on loggers and handlers let records
pass, and what a set-up makes of them. -/
namespace VectorQuery

/-- A handler of the root logger, with the level from which on it takes records. -/
inductive LogHandler
  | file (path : String) (level : LogLevel)
  | console (level : LogLevel)
  deriving DecidableEq

namespace LogHandler

def level : LogHandler → LogLevel
  | file _ level => level
  | console level => level

def takes (h : LogHandler) (r : LogRecord) : Bool := h.level.value ≤ r.level

end LogHandler

/-- The loggers of the HTTP layer. -/
def LogSetup.httpLoggers : List String := ["httpx", "httpcore"]

/-- Handlers and levels as they stand. -/
structure Loggers where
  handlers : List LogHandler
  rootLevel : LogLevel
  /-- the levels of loggers right below the root logger that have one of their own -/
  levels : List (String × LogLevel)

namespace Loggers

/-- Before any set-up there is no handler. -/
def initial : Loggers := ⟨[], .number LogLevel.warning, []⟩

def addHandler (l : Loggers) (h : LogHandler) : Loggers := { l with handlers := l.handlers ++ [h] }

def removeHandler (l : Loggers) (h : LogHandler) : Loggers := { l with handlers := l.handlers.erase h }

def setLevel (level : LogLevel) (l : Loggers) (logger : String) : Loggers :=
  { l with levels := (logger, level) :: l.levels.filter (·.1 != logger) }

/-- The loggers after a set-up: its two handlers replace all others. -/
def install (l : Loggers) (s : LogSetup) : Loggers :=
  let cleared := l.handlers.foldl removeHandler l
  let root := { cleared with rootLevel := s.rootLevel }
  let handling := (root.addHandler (.file s.path s.fileLevel)).addHandler (.console s.consoleLevel)
  LogSetup.httpLoggers.foldl (setLevel s.httpLevel) handling

/-- The level of the logger at the top of a dotted name, if it has one of its own. -/
def ownLevel? (l : Loggers) (logger : String) : Option LogLevel :=
  match Text.splitOn '.' logger.toList with
  | [] => none
  | top :: _ => l.levels.lookup (String.ofList top)

/-- The level from which on a logger passes records: its own one where that is not zero. -/
def threshold (l : Loggers) (logger : String) : Int :=
  match (l.ownLevel? logger).filter (·.value != 0) with
  | some own => own.value
  | none => l.rootLevel.value

/-- Whether the logger of a record passes it on; records at zero or below never pass. -/
def passes (l : Loggers) (r : LogRecord) : Bool := 0 < r.level && l.threshold r.logger ≤ r.level

/-- The handlers that take a record, once for each. -/
def takers (l : Loggers) (r : LogRecord) : List LogHandler :=
  if l.passes r then l.handlers.filter (·.takes r) else []

end Loggers

end VectorQuery
