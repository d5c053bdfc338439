import VectorQuery.Json.Write
/-! String literals: quoted strings, and block strings where the reader of a block string gives the
text back unchanged. -/
namespace VectorQuery.GraphQL
open VectorQuery.Text

/-- A quoted string. -/
def quotedLiteral (s : List Char) : List Char := Json.quotedChars s

/-- Characters that a block string cannot hold: control characters but tab and line feed. -/
def isBlockUnsafe (c : Char) : Bool :=
  let n := c.toNat
  n ≤ 8 || (0xb ≤ n && n ≤ 0x1f)

def isIndent (c : Char) : Bool := c == ' ' || c == '\t'

/-- Nothing but spaces and tabs. -/
def isBlankLine (line : List Char) : Bool := line.all isIndent

/-- Whether removing common indentation and blank lines at both ends leaves the lines unchanged. -/
def keepsLines : List (List Char) → Bool
  | [] => false
  | first :: rest =>
    !isBlankLine first && !isBlankLine (rest.getLastD first) &&
      !rest.any fun line => line.head?.any isIndent

/-- Whether a block string can carry the text. -/
def fitsBlock (s : List Char) : Bool := !s.any isBlockUnsafe && keepsLines (splitOn '\n' s)

/-- The text with every triple quote escaped, from the left. -/
def escapeTripleQuotes : List Char → List Char
  | '"' :: '"' :: '"' :: r => '\\' :: '"' :: '"' :: '"' :: escapeTripleQuotes r
  | c :: r => c :: escapeTripleQuotes r
  | [] => []

/-- A line feed that the reader removes again, where the closing quotes would join what is before. -/
def guardEnd (s : List Char) : List Char :=
  match s.getLast? with
  | some '"' => s ++ ['\n']
  | some '\\' => s ++ ['\n']
  | _ => s

def tripleQuote : List Char := ['"', '"', '"']

/-- A block string, or a quoted string for a text that a block string would not give back. -/
def blockLiteral (s : List Char) : List Char :=
  if fitsBlock s then tripleQuote ++ guardEnd (escapeTripleQuotes s) ++ tripleQuote
  else quotedLiteral s

end VectorQuery.GraphQL
