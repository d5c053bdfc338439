import VectorQuery.Datum.Show
/-! The flags of the command line, and what is wrong with a command line that does not follow them. -/
namespace VectorQuery.CommandLine

inductive Flag
  | help | collection | fields | nearText | bm25 | hybrid | certainty | alpha | limit | offset
  | whereEqual | additional | renderOnly | debug
  deriving DecidableEq

/-- How many values a flag takes. -/
inductive Arity
  | none | one | many
  deriving DecidableEq

namespace Flag

def all : List Flag :=
  [help, collection, fields, nearText, bm25, hybrid, certainty, alpha, limit, offset, whereEqual,
    additional, renderOnly, debug]

/-- How the flag is written. -/
def spellings : Flag → List String
  | help => ["-h", "--help"]
  | collection => ["--collection"]
  | fields => ["--fields"]
  | nearText => ["--near-text"]
  | bm25 => ["--bm25"]
  | hybrid => ["--hybrid"]
  | certainty => ["--certainty"]
  | alpha => ["--alpha"]
  | limit => ["--limit"]
  | offset => ["--offset"]
  | whereEqual => ["--where-equal"]
  | additional => ["--additional"]
  | renderOnly => ["--render-only"]
  | debug => ["--debug"]

def arity : Flag → Arity
  | help => .none
  | renderOnly => .none
  | debug => .none
  | fields => .many
  | additional => .many
  | _ => .one

/-- The name of the flag in messages. -/
def label (f : Flag) : String := "/".intercalate f.spellings

/-- Every spelling with its flag. -/
def table : List (String × Flag) := all.flatMap fun f => f.spellings.map fun s => (s, f)

/-- The searches, of which a command line has at most one. -/
def searches : List Flag := [nearText, bm25, hybrid]

end Flag

/-- Why a command line cannot be read. -/
inductive UsageFault
  | ambiguous (given : String) (candidates : List String)
  | expectedOne (f : Flag)
  | expectedSome (f : Flag)
  | ignoredValue (f : Flag) (value : String)
  | noInteger (f : Flag) (value : String)
  | noNumber (f : Flag) (value : String)
  | conflict (f other : Flag)
  | missing (f : Flag)
  | unrecognized (arguments : List String)

namespace UsageFault

/-- A message about one flag. -/
def about (f : Flag) (text : String) : String := "argument " ++ f.label ++ ": " ++ text

def message : UsageFault → String
  | ambiguous given candidates =>
    "ambiguous option: " ++ given ++ " could match " ++ ", ".intercalate candidates
  | expectedOne f => about f "expected one argument"
  | expectedSome f => about f "expected at least one argument"
  | ignoredValue f value => about f ("ignored explicit argument " ++ quotedText value)
  | noInteger f value => about f ("invalid int value: " ++ quotedText value)
  | noNumber f value => about f ("invalid float value: " ++ quotedText value)
  | conflict f other => about f ("not allowed with argument " ++ other.label)
  | missing f => "the following arguments are required: " ++ f.label
  | unrecognized arguments => "unrecognized arguments: " ++ " ".intercalate arguments

end UsageFault

/-- A command line that is not run: it asks for help, or it cannot be read. -/
inductive Stop
  | help
  | usage (fault : UsageFault)

end VectorQuery.CommandLine
