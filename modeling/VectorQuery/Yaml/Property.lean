import VectorQuery.Number.Numeral
import VectorQuery.Text.Digit
import VectorQuery.Yaml.Cursor
/-! What stands before a node or a document without being data: anchors, tags and directives. -/
namespace VectorQuery.Yaml
open VectorQuery.Text

/-- Characters of the names of anchors, handles and directives. -/
def isNameChar (c : Char) : Bool := (c.isAlphanum && c.toNat < 128) || c == '-' || c == '_'

/-- The name of an anchor after the character that introduces it. -/
def anchorName (c : Cursor) : Found String :=
  let name := c.rest.takeWhile isNameChar
  let next := c.advanceBy name.length
  let ends := gapFollows next.rest ||
    next.rest.head?.any fun x => x == '}' || "?:,]%@\x60".toList.contains x
  if name.isEmpty || !ends then malformed else .ok (String.ofList name, next)

/-- Characters of the names of tags. -/
def isUriChar (c : Char) : Bool :=
  (c.isAlphanum && c.toNat < 128) || "-;/?:@&=+$,_.!~*'()[]%".toList.contains c

/-- The characters that bytes encode. -/
def charsOfBytes? (bytes : List UInt8) : Option (List Char) :=
  (String.fromUTF8? ⟨bytes.toArray⟩).map String.toList

/-- A text in which a percent sign and two hexadecimal digits stand for a byte, read after some bytes
that stand last first. -/
def unescaped? (bytes : List UInt8) : List Char → Option (List Char)
  | [] => charsOfBytes? bytes.reverse
  | '%' :: a :: b :: r => do
    let high ← hexDigit? a
    let low ← hexDigit? b
    unescaped? (UInt8.ofNat (high * 16 + low) :: bytes) r
  | c :: r => do
    if c = '%' then none
    else return (← charsOfBytes? bytes.reverse) ++ c :: (← unescaped? [] r)

/-- The name of a tag, or a part of one. -/
def uri (c : Cursor) : Found String :=
  let s := c.rest.takeWhile isUriChar
  if s.isEmpty then malformed
  else match unescaped? [] s with
    | none => malformed
    | some name => .ok (String.ofList name, c.advanceBy s.length)

/-- A tag as it is written: the handle that stands for the beginning of its name, if any, and the
rest of the name. -/
structure TagName where
  handle : Option String
  suffix : String

namespace TagName

/-- The tag that only says that the kind of the node is its tag. -/
def unspecific : String := "!"

/-- The handle between two exclamation marks, of which the first is passed already. -/
def namedHandle (c : Cursor) : Found String :=
  let name := c.rest.takeWhile isNameChar
  let next := c.advanceBy name.length
  if next.rest.head? = some '!' then
    .ok ("!" ++ String.ofList name ++ "!", next.advance)
  else malformed

/-- The tag at a place, without regard to what follows it. -/
def readAny (c : Cursor) : Checked (TagName × Cursor) :=
  let next := c.advance
  if next.rest.head? = some '<' then do
    let (name, next) ← uri next.advance
    if next.rest.head? = some '>' then pure (⟨none, name⟩, next.advance) else malformed
  else if gapFollows next.rest then .ok (⟨none, unspecific⟩, next)
  else do
    let word := next.rest.takeWhile fun x => x != ' ' && !isBreak x
    let (handle, next) ← if word.contains '!' then namedHandle next else pure ("!", next)
    let (suffix, next) ← uri next
    pure (⟨some handle, suffix⟩, next)

/-- The tag at a place. -/
def read (c : Cursor) : Checked (TagName × Cursor) := do
  let (t, next) ← readAny c
  if spaceFollows next.rest then pure (t, next) else malformed

end TagName

/-- A line about the document that follows it. -/
inductive Directive
  /-- the version that the document is written for, by its first number -/
  | version (major : Int)
  | handle (name start : String)
  | other

namespace Directive

/-- A decimal number. -/
def number (c : Cursor) : Found Int :=
  let ds := c.rest.takeWhile fun x => (asciiDigit? x).isSome
  if ds.isEmpty then malformed
  else match Numeral.int? ds with
    | none => .error .badValue
    | some n => .ok (n, c.advanceBy ds.length)

/-- The version at a place: two numbers and a point. -/
def readVersion (c : Cursor) : Checked (Directive × Cursor) := do
  let (major, next) ← number c.skipSpaces
  if next.rest.head? ≠ some '.' then malformed
  else
    let (_, next) ← number next.advance
    if spaceFollows next.rest then pure (.version major, next) else malformed

/-- The handle at a place, and the beginning of the names that it stands for. -/
def readHandle (c : Cursor) : Checked (Directive × Cursor) := do
  let c := c.skipSpaces
  if c.rest.head? ≠ some '!' then malformed
  else
    let (name, next) ← if c.advance.rest.head? = some ' ' then pure ("!", c.advance)
      else TagName.namedHandle c.advance
    if next.rest.head? ≠ some ' ' then malformed
    else
      let (start, next) ← uri next.skipSpaces
      if spaceFollows next.rest then pure (.handle name start, next) else malformed

/-- The directive of a line. Lines with other names are passed over. -/
def read (c : Cursor) : Checked (Directive × Cursor) := do
  let name := c.advance.rest.takeWhile isNameChar
  let next := c.advance.advanceBy name.length
  if name.isEmpty || !spaceFollows next.rest then malformed
  else
    let (d, next) ← match String.ofList name with
      | "YAML" => readVersion next
      | "TAG" => readHandle next
      | _ => pure (.other, next.skip (!isBreak ·))
    match next.skipLine? with
    | none => malformed
    | some next => pure (d, next)

end Directive

end VectorQuery.Yaml
