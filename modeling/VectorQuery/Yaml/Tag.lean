import VectorQuery.Yaml.Numeral
import VectorQuery.Yaml.Timestamp
/-! The types of nodes: by name, or for a plain scalar by its text. -/
namespace VectorQuery.Yaml

/-- What a node is read as. -/
inductive Tag
  | null
  | bool
  | int
  | float
  | binary
  | timestamp
  | str
  | seq
  | map
  /-- a sequence of pairs -/
  | pairs
  | set
  /-- a key whose value is merged into its mapping -/
  | merge
  /-- a key whose value stands for its mapping where a scalar is asked for -/
  | value
  /-- a tag that no data have -/
  | unknown
  deriving DecidableEq

namespace Tag

/-- What the names of the tags begin with. -/
def nameStart : String := "tag:yaml.org,2002:"

/-- The tags by the ends of their names. -/
def names : List (String × Tag) := [
  ("null", null), ("bool", bool), ("int", int), ("float", float), ("binary", binary),
  ("timestamp", timestamp), ("str", str), ("seq", seq), ("map", map), ("omap", pairs),
  ("pairs", pairs), ("set", set), ("merge", merge), ("value", value)]

/-- The tag of a name. -/
def ofName (name : String) : Tag :=
  ((names.find? fun (last, _) => nameStart ++ last == name).map Prod.snd).getD unknown

/-- The tags of scalars that have data. -/
def isScalar : Tag → Bool
  | null => true
  | bool => true
  | int => true
  | float => true
  | binary => true
  | timestamp => true
  | str => true
  | _ => false

def nullWords : List String := ["~", "null", "Null", "NULL"]

def trueWords : List String :=
  ["yes", "Yes", "YES", "true", "True", "TRUE", "on", "On", "ON"]

def falseWords : List String :=
  ["no", "No", "NO", "false", "False", "FALSE", "off", "Off", "OFF"]

/-- The tag of a plain scalar. One line feed at its end does not count, but is not nothing either. -/
def ofPlain (s : List Char) : Tag :=
  let body := Timestamp.withoutLineFeed s
  let word := String.ofList body
  if s.isEmpty then null
  else if trueWords.contains word || falseWords.contains word then bool
  else if isFloat body then float
  else if isInteger body then int
  else if word == "<<" then merge
  else if nullWords.contains word then null
  else if Timestamp.isTimestamp s then timestamp
  else if word == "=" then value
  else str

end Tag

end VectorQuery.Yaml
