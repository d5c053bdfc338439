import VectorQuery.Text.Printable
import VectorQuery.Text.Digit
/-! Quoted text for messages: single quotes unless the text holds some and no double ones; what is
not printable appears as an escape. -/
namespace VectorQuery.Text

/-- The quote that needs fewer escapes. -/
def quoteFor (s : List Char) : Char := if s.contains '\'' && !s.contains '"' then '"' else '\''

/-- An unprintable character by its code point, in the shortest of three widths. -/
def codePointEscape (n : Nat) : List Char :=
  if n < 0x100 then '\\' :: 'x' :: hexText 2 n
  else if n < 0x10000 then '\\' :: 'u' :: hexText 4 n
  else '\\' :: 'U' :: hexText 8 n

/-- One character between quotes. -/
def quotedChar (quote c : Char) : List Char :=
  if c = quote ∨ c = '\\' then ['\\', c]
  else if c = '\n' then ['\\', 'n']
  else if c = '\r' then ['\\', 'r']
  else if c = '\t' then ['\\', 't']
  else if isPrintable c then [c]
  else codePointEscape c.toNat

/-- A text in quotes. -/
def quoted (s : List Char) : List Char :=
  let q := quoteFor s
  q :: s.flatMap (quotedChar q) ++ [q]

/-- One byte between quotes; all beyond ASCII are escapes. -/
def quotedByte (quote : Char) (b : UInt8) : List Char :=
  if b.toNat < 0x7f then quotedChar quote (Char.ofNat b.toNat) else codePointEscape b.toNat

/-- Bytes in quotes, marked as bytes. -/
def quotedBytes (bs : List UInt8) : List Char :=
  let q := quoteFor (bs.map fun b => Char.ofNat b.toNat)
  'b' :: q :: bs.flatMap (quotedByte q) ++ [q]

end VectorQuery.Text
