import VectorQuery.Text.Digit
import VectorQuery.Yaml.Cursor
/-! Scalars between quotes. White space around a line end is no part of their text; between double
quotes a backslash begins an escape. -/
namespace VectorQuery.Yaml
open VectorQuery.Text

/-- The character of an escape of one letter. -/
def escape? (c : Char) : Option Char :=
  (["0\x00", "a\x07", "b\x08", "t\t", "\t\t", "n\n", "v\x0b", "f\x0c", "r\r", "e\x1b", "  ",
    "\"\"", "//", "\\\\", "N\u0085", "_\u00a0", "L\u2028", "P\u2029"].findSome? fun pair =>
      match pair.toList with
      | [letter, value] => if letter = c then some value else none
      | _ => none)

/-- How many hexadecimal digits follow the letter of an escape. -/
def escapeWidth? (c : Char) : Option Nat :=
  if c = 'x' then some 2 else if c = 'u' then some 4 else if c = 'U' then some 8 else none

/-- The character with a number. Halves of surrogate pairs are read as the replacement character. -/
def charOfCode (n : Nat) : Checked Char :=
  if 0x80000000 ≤ n then .error .tooLarge
  else if 0x10ffff < n then .error .badValue
  else if n.isValidChar then .ok (Char.ofNat n)
  else .ok '\ufffd'

/-- The character of an escape after its backslash, and the place after it. -/
def escaped (c : Cursor) : Found Char :=
  match c.rest with
  | [] => malformed
  | letter :: r =>
    match escape? letter with
    | some value => .ok (value, c.advance)
    | none =>
      match escapeWidth? letter with
      | none => malformed
      | some width =>
        match ((r.take width).mapM hexDigit?).filter (·.length == width) with
        | none => malformed
        | some ds => (charOfCode (ofDigits 16 ds)).map fun x => (x, c.advanceBy (width + 1))

/-- Blanks between quotes. -/
def isInnerBlank (c : Char) : Bool := c == ' ' || c == '\t'

/-- A part of a text, and the text after it. -/
def andThen (part : List Char) (rest : Found (List Char)) : Found (List Char) :=
  rest.map fun (text, c) => (part ++ text, c)

/-- The text of a quoted scalar after its opening quote. -/
def quotedRest (quote : Char) : (fuel : Nat) → Cursor → Found (List Char)
  | 0, _ => malformed
  | fuel + 1, c =>
    match c.rest with
    | [] => malformed
    | x :: r =>
      if x = quote then
        if quote = '\'' ∧ r.head? = some '\'' then andThen [quote] (quotedRest quote fuel (c.advanceBy 2))
        else .ok ([], c.advance)
      else if isGap x then
        let next := c.skip isInnerBlank
        if next.rest.isEmpty || !lineEndFollows next.rest then
          andThen (c.rest.takeWhile isInnerBlank) (quotedRest quote fuel next)
        else match next.lineEnds? isInnerBlank with
          | none => malformed
          | some (ends, next) => andThen (folded ends) (quotedRest quote fuel next)
      else if quote = '"' ∧ x = '\\' then
        if !r.isEmpty && lineEndFollows r then
          match c.advance.lineEnds? isInnerBlank with
          | none => malformed
          | some (ends, next) => andThen (ends.drop 1) (quotedRest quote fuel next)
        else
          match escaped c.advance with
          | .error e => .error e
          | .ok (value, next) => andThen [value] (quotedRest quote fuel next)
      else andThen [x] (quotedRest quote fuel c.advance)

/-- The text of a scalar between the quotes that a place begins with. -/
def betweenQuotes (quote : Char) (c : Cursor) : Found (List Char) :=
  quotedRest quote (c.rest.length + 1) c.advance

end VectorQuery.Yaml
