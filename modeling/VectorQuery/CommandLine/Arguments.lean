import VectorQuery.CommandLine.Given
import VectorQuery.CommandLine.Item
import VectorQuery.Number.Numeral
import VectorQuery.Settings.Files
/-! Reading a command line, item by item. -/
namespace VectorQuery.CommandLine

/-- What a command line says. -/
structure Arguments where
  configFile : String
  collection : Given String
  fields : List String
  nearText : Option (Given String)
  bm25 : Option (Given String)
  hybrid : Option (Given String)
  certainty : Option (Given Double)
  alpha : Option (Given Double)
  limit : Option (Given Int)
  offset : Option (Given Int)
  whereEqual : List (Given String)
  additional : List String
  renderOnly : Bool
  debug : Bool

/-- What has been read so far. -/
structure Reading where
  /-- the arguments, with nothing for a collection that is not named yet -/
  arguments : Arguments
  /-- the flags met so far -/
  seen : List Flag
  /-- whether the path of the settings has been read -/
  hasPath : Bool
  /-- whether that path was the last item -/
  pathLast : Bool
  /-- the flag that may take further values, and those it has -/
  pending : Option (Flag × List String)
  /-- the items that nothing takes -/
  extras : List String

namespace Reading

/-- Nothing read yet. -/
def start : Reading where
  arguments :=
    { configFile := Settings.defaultPath, collection := .nothing, fields := [], nearText := none
      bm25 := none, hybrid := none, certainty := none, alpha := none, limit := none
      offset := none, whereEqual := [], additional := [], renderOnly := false, debug := false }
  seen := []
  hasPath := false
  pathLast := false
  pending := none
  extras := []

/-- The integer that a text for a flag stands for. -/
def integer (f : Flag) (text : String) : Except Stop Int :=
  match Numeral.int? text.toList with
  | some i => .ok i
  | none => .error (.usage (.noInteger f text))

/-- The number that a text for a flag stands for. -/
def number (f : Flag) (text : String) : Except Stop Double :=
  match Numeral.double? text.toList with
  | some d => .ok d
  | none => .error (.usage (.noNumber f text))

/-- The arguments with what is given for a flag that takes one value. -/
def setOne (a : Arguments) (f : Flag) (given : Given String) : Except Stop Arguments :=
  match f with
  | .collection => .ok { a with collection := given }
  | .nearText => .ok { a with nearText := some given }
  | .bm25 => .ok { a with bm25 := some given }
  | .hybrid => .ok { a with hybrid := some given }
  | .certainty => do return { a with certainty := some (← given.check (number f)) }
  | .alpha => do return { a with alpha := some (← given.check (number f)) }
  | .limit => do return { a with limit := some (← given.check (integer f)) }
  | .offset => do return { a with offset := some (← given.check (integer f)) }
  | .whereEqual => .ok { a with whereEqual := a.whereEqual ++ [given] }
  | _ => .ok a

/-- The arguments with all values of a flag; the last mention of a flag that takes many counts. -/
def set (a : Arguments) (f : Flag) (values : List String) : Except Stop Arguments :=
  match f with
  | .help => .error .help
  | .renderOnly => .ok { a with renderOnly := true }
  | .debug => .ok { a with debug := true }
  | .fields => .ok { a with fields := values }
  | .additional => .ok { a with additional := values }
  | f => setOne a f (.ofList values)

/-- The search among the flags met so far that a search does not go with. -/
def conflict? (seen : List Flag) (f : Flag) : Option Flag :=
  if Flag.searches.contains f then
    Flag.searches.find? fun other => other != f && seen.contains other
  else none

/-- A flag with its values is complete. -/
def complete (s : Reading) (f : Flag) (values : List String) : Except Stop Reading := do
  let arguments ← set s.arguments f values
  match conflict? s.seen f with
  | some other => .error (.usage (.conflict f other))
  | none => pure { s with arguments, seen := f :: s.seen, pending := none, pathLast := false }

/-- No further values follow for the flag that may take some. -/
def close (s : Reading) : Except Stop Reading :=
  match s.pending with
  | none => .ok s
  | some (f, []) =>
    .error (.usage (if f.arity = .many then .expectedSome f else .expectedOne f))
  | some (f, values) => s.complete f values

/-- A value: of the flag that waits for one, else the path of the settings, else left over. -/
def value (s : Reading) (text : String) : Except Stop Reading :=
  match s.pending with
  | some (f, values) =>
    if f.arity = .many then .ok { s with pending := some (f, values ++ [text]) }
    else s.complete f (values ++ [text])
  | none =>
    if s.hasPath then .ok { s with extras := s.extras ++ [text], pathLast := false }
    else .ok { s with
      arguments := { s.arguments with configFile := text }, hasPath := true, pathLast := true }

/-- A flag, with the value after its equals sign if it has one. -/
def flag (s : Reading) (f : Flag) (explicit : Option String) : Except Stop Reading :=
  match f.arity, explicit with
  | .none, none => s.complete f []
  | .none, some text => .error (.usage (.ignoredValue f text))
  | _, some text => s.complete f (explicitValues text)
  | _, none => .ok { s with pending := some (f, []), pathLast := false }

/-- The next item. -/
def step (s : Reading) : Item → Except Stop Reading
  | .value text => s.value text
  | .flag f explicit => do (← s.close).flag f explicit
  | .stranger text => do
    let s ← s.close
    pure { s with extras := s.extras ++ [text], pathLast := false }
  | .separator => do
    let s ← s.close
    if s.hasPath && !s.pathLast then pure { s with extras := s.extras ++ ["--"] }
    else pure s

/-- Everything has been read. -/
def finish (s : Reading) : Except Stop Arguments := do
  let s ← s.close
  if !s.seen.contains .collection then .error (.usage (.missing .collection))
  else if !s.extras.isEmpty then .error (.usage (.unrecognized s.extras))
  else pure s.arguments

end Reading

/-- The arguments of a command line. -/
def Arguments.read (argv : List String) : Except Stop Arguments :=
  match itemsOf argv with
  | .error fault => .error (.usage fault)
  | .ok items => do (← items.foldlM Reading.step Reading.start).finish

end VectorQuery.CommandLine
