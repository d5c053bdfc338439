import VectorQuery.Fault
/-! A place in a text with its line and column, and the way over what is not part of any token. -/
namespace VectorQuery.Yaml

/-- Characters that end a line. -/
def isBreak (c : Char) : Bool :=
  c == '\n' || c == '\u0085' || c == '\u2028' || c == '\u2029'

/-- What a line end inside a text reads as. -/
def breakText (c : Char) : Char := if c = '\u0085' then '\n' else c

/-- Characters that end a token: blanks and line ends. -/
def isGap (c : Char) : Bool := c == ' ' || c == '\t' || isBreak c

/-- The text is at its end or at a gap. -/
def gapFollows : List Char → Bool
  | [] => true
  | c :: _ => isGap c

/-- The text is at its end, at a space or at a line end; a tab does not count. -/
def spaceFollows : List Char → Bool
  | [] => true
  | c :: _ => c == ' ' || isBreak c

/-- The text is at the end of a line. -/
def lineEndFollows : List Char → Bool
  | [] => true
  | c :: _ => isBreak c

/-- A mark that is no part of the text and has no width. -/
def byteOrderMark : Char := '\ufeff'

/-- A place in a text: what follows it, how many characters come before it, its line and its column. -/
structure Cursor where
  rest : List Char
  index : Nat
  line : Nat
  column : Nat

/-- What a reader found, and the place after it. -/
abbrev Found (α : Type) := Checked (α × Cursor)

/-- The text is not well formed. -/
def malformed : Checked α := .error .malformedYaml

namespace Cursor

/-- The place after the next character. -/
def advance (c : Cursor) : Cursor :=
  match c.rest with
  | [] => c
  | x :: r =>
    if isBreak x then ⟨r, c.index + 1, c.line + 1, 0⟩
    else ⟨r, c.index + 1, c.line, if x = byteOrderMark then c.column else c.column + 1⟩

/-- The place after `n` characters. -/
def advanceBy : (n : Nat) → Cursor → Cursor
  | 0, c => c
  | n + 1, c => advanceBy n c.advance

/-- The first place of a text, past a byte order mark. -/
def start (text : List Char) : Cursor :=
  let c : Cursor := ⟨text, 0, 0, 0⟩
  if text.head? = some byteOrderMark then c.advance else c

/-- The place after all next characters of a kind. -/
def skip (kind : Char → Bool) (c : Cursor) : Cursor :=
  c.advanceBy (c.rest.takeWhile kind).length

/-- The place after all next spaces. -/
def skipSpaces (c : Cursor) : Cursor := c.skip (· == ' ')

/-- The place after what may stand at the end of a line, spaces and a comment, and the line end itself;
nothing else may stand there. -/
def skipLine? (c : Cursor) : Option Cursor :=
  let c := c.skipSpaces
  let c := if c.rest.head? = some '#' then c.skip (!isBreak ·) else c
  if lineEndFollows c.rest then some c.advance else none

/-- Three dashes or three points alone at the beginning of a line begin or end a document. -/
def isMarker (c : Cursor) : Bool :=
  c.column == 0 &&
    (("---".toList.isPrefixOf c.rest || "...".toList.isPrefixOf c.rest) &&
      gapFollows (c.rest.drop 3))

/-- The next place, in the text after a cursor, that is neither in white space nor in a comment, and
whether a line begins on the way to it. -/
def tokenFrom : (comment newLine : Bool) → List Char → Cursor → Cursor × Bool
  | _, newLine, [], c => (c, newLine)
  | comment, newLine, x :: r, c =>
    if isBreak x then tokenFrom false true r c.advance
    else if comment || x == ' ' then tokenFrom comment newLine r c.advance
    else if x = '#' then tokenFrom true newLine r c.advance
    else (c, newLine)

/-- The beginning of the next token, and whether a line begins on the way to it. -/
def token (c : Cursor) : Cursor × Bool := tokenFrom false false c.rest c

/-- The line ends, in the text after a cursor, up to the next text, and the place of that; none where
a document begins or ends in between. -/
def lineEndsFrom? (isBlank : Char → Bool) : List Char → Cursor → Option (List Char × Cursor)
  | [], c => some ([], c)
  | x :: r, c =>
    if isBreak x then
      if c.advance.isMarker then none
      else (lineEndsFrom? isBlank r c.advance).map fun (ends, c) => (breakText x :: ends, c)
    else if isBlank x then lineEndsFrom? isBlank r c.advance
    else some ([], c)

/-- The line ends in white space. -/
def lineEnds? (isBlank : Char → Bool) (c : Cursor) : Option (List Char × Cursor) :=
  lineEndsFrom? isBlank c.rest c

end Cursor

/-- What line ends in a row read as inside a text: a single one as a space, and a first one that others
follow as nothing. Line and paragraph separators stay. -/
def folded : List Char → List Char
  | ['\n'] => [' ']
  | '\n' :: more => more
  | ends => ends

end VectorQuery.Yaml
