import VectorQuery.Datum.Show
/-! Writing JSON texts, on one line or indented. Characters beyond ASCII are written as themselves. -/
namespace VectorQuery.Json
open VectorQuery.Text

/-- One character inside a string: quote, backslash and control characters are escaped. -/
def escapedChar (c : Char) : List Char :=
  if c = '"' then ['\\', '"']
  else if c = '\\' then ['\\', '\\']
  else if c = '\n' then ['\\', 'n']
  else if c = '\r' then ['\\', 'r']
  else if c = '\t' then ['\\', 't']
  else if c.toNat = 8 then ['\\', 'b']
  else if c.toNat = 12 then ['\\', 'f']
  else if c.toNat < 0x20 then '\\' :: 'u' :: hexText 4 c.toNat
  else [c]

/-- A string in double quotes. -/
def quotedChars (s : List Char) : List Char := '"' :: s.flatMap escapedChar ++ ['"']

def quotedString (s : String) : String := String.ofList (quotedChars s.toList)

/-- A double; the values that are no numbers by name. -/
def doubleText : Double → String
  | .nan => "NaN"
  | .infinite false => "Infinity"
  | .infinite true => "-Infinity"
  | d => d.show

/-- The text of a key; keys that are not text are written as their text. -/
def keyText : Datum → String
  | .text t => t.content
  | .none => "null"
  | .bool b => if b then "true" else "false"
  | .int i => toString i
  | .float d => doubleText d
  | d => d.shown

mutual

/-- The text on one line. -/
def write : Datum → String
  | .none => "null"
  | .bool b => if b then "true" else "false"
  | .int i => toString i
  | .float d => doubleText d
  | .text t => quotedString t.content
  | .list xs => "[" ++ ", ".intercalate (writeItems xs) ++ "]"
  | .tuple xs => "[" ++ ", ".intercalate (writeItems xs) ++ "]"
  | .dict es => "\x7b" ++ ", ".intercalate (writeEntries es) ++ "\x7d"
  | d => quotedString d.shown

def writeItems : List Datum → List String
  | [] => []
  | x :: r => write x :: writeItems r

def writeEntries : List (Datum × Datum) → List String
  | [] => []
  | (k, v) :: r => (quotedString (keyText k) ++ ": " ++ write v) :: writeEntries r

end

/-- A new line at a depth of two spaces a level. -/
def newline (depth : Nat) : String := String.ofList ('\n' :: List.replicate (2 * depth) ' ')

/-- Items on lines of their own between two brackets; brackets alone when there are none. -/
def bracketed (depth : Nat) (opening closing : String) (items : List String) : String :=
  if items.isEmpty then opening ++ closing
  else opening ++ newline (depth + 1) ++ ("," ++ newline (depth + 1)).intercalate items ++
    newline depth ++ closing

mutual

/-- The text with items and entries on lines of their own. -/
def writeIndented (depth : Nat) : Datum → String
  | .list xs => bracketed depth "[" "]" (indentedItems (depth + 1) xs)
  | .tuple xs => bracketed depth "[" "]" (indentedItems (depth + 1) xs)
  | .dict es => bracketed depth "\x7b" "\x7d" (indentedEntries (depth + 1) es)
  | d => write d

def indentedItems (depth : Nat) : List Datum → List String
  | [] => []
  | x :: r => writeIndented depth x :: indentedItems depth r

def indentedEntries (depth : Nat) : List (Datum × Datum) → List String
  | [] => []
  | (k, v) :: r =>
    (quotedString (keyText k) ++ ": " ++ writeIndented depth v) :: indentedEntries depth r

end

end VectorQuery.Json
