import VectorQuery.Yaml.BlockText
import VectorQuery.Yaml.PlainText
import VectorQuery.Yaml.QuotedText
import VectorQuery.Yaml.Token
/-! Finding the tokens of a text one after the other. Whether a token begins a key shows only at the
colon after it, so every place where a key may begin is remembered until then. -/
namespace VectorQuery.Yaml

/-- A place where a key may have begun. -/
structure PendingKey where
  /-- how many tokens come before it -/
  number : Nat
  /-- nothing but a key can stand there -/
  required : Bool
  index : Nat
  line : Nat
  column : Nat

namespace PendingKey

/-- A key ends on its own line, and its colon is at most this far from its beginning. -/
def maxLength : Nat := 1024

/-- No colon at a place or after it can belong to the key. -/
def isPast (k : PendingKey) (c : Cursor) : Bool :=
  k.line != c.line || maxLength < c.index - k.index

/-- The key, if a colon at a place can still belong to it. -/
def refresh (c : Cursor) : Option PendingKey → Checked (Option PendingKey)
  | none => .ok none
  | some k =>
    if !k.isPast c then .ok (some k) else if k.required then malformed else .ok none

/-- No colon came for the key. -/
def forget : Option PendingKey → Checked (Option PendingKey)
  | none => .ok none
  | some k => if k.required then malformed else .ok none

end PendingKey

/-- A text read up to a place. -/
structure Layout where
  cursor : Cursor
  /-- the tokens so far, the last one first -/
  tokens : List Token
  /-- the columns of the open blocks, the innermost one first -/
  blocks : List Nat
  /-- a key may begin here -/
  keyAllowed : Bool
  /-- the key that may have begun between the innermost brackets, or in the blocks outside brackets -/
  pending : Option PendingKey
  /-- such keys outside the brackets that are open, for each of these -/
  outer : List (Option PendingKey)

namespace Layout

def start (text : List Char) : Layout := ⟨.start text, [], [], true, none, []⟩

def inBrackets (s : Layout) : Bool := !s.outer.isEmpty

/-- The least column of what belongs to the innermost block. -/
def leastColumn (s : Layout) : Nat :=
  match s.blocks with
  | [] => 0
  | column :: _ => column + 1

def emit (t : Token) (s : Layout) : Layout := { s with tokens := t :: s.tokens }

/-- With tokens put in where only `number` others come before. -/
def insert (number : Nat) (new : List Token) (s : Layout) : Layout :=
  let later := s.tokens.length - number
  { s with tokens := s.tokens.take later ++ new.reverse ++ s.tokens.drop later }

/-- With the blocks closed that a place no longer belongs to. Between brackets blocks stay open. -/
def closeBlocks (ends : Nat → Bool) (s : Layout) : Layout :=
  if s.inBrackets then s
  else
    let closed := s.blocks.takeWhile ends
    { s with
      blocks := s.blocks.drop closed.length
      tokens := List.replicate closed.length .blockEnd ++ s.tokens }

/-- Whether a block begins at a column, because it lies further in than the blocks so far. -/
def opensBlock (column : Nat) (s : Layout) : Bool := s.blocks.head?.all (· < column)

/-- With a key, if any is pending, given up. -/
def forgetKey (s : Layout) : Checked Layout := do
  return { s with pending := ← PendingKey.forget s.pending }

/-- With a key expected from here on, where one may begin. -/
def awaitKey (s : Layout) : Checked Layout :=
  if s.keyAllowed then do
    let s ← s.forgetKey
    let c := s.cursor
    let required := !s.inBrackets && s.blocks.head? == some c.column
    return { s with pending := some ⟨s.tokens.length, required, c.index, c.line, c.column⟩ }
  else .ok s

/-- With all keys given up that a place lies too far behind. -/
def refreshKeys (s : Layout) : Checked Layout := do
  let pending ← PendingKey.refresh s.cursor s.pending
  let outer ← s.outer.mapM (PendingKey.refresh s.cursor)
  return { s with pending, outer }

/-- With the next characters read as a token. -/
def take (length : Nat) (t : Token) (s : Layout) : Layout :=
  { s.emit t with cursor := s.cursor.advanceBy length }

/-- A mark that stands before or after documents. -/
def outside (s : Layout) : Checked Layout := do
  let s ← (s.closeBlocks fun _ => true).forgetKey
  return { s with keyAllowed := false }

def directive (s : Layout) : Checked Layout := do
  let s ← s.outside
  let (d, next) ← Directive.read s.cursor
  return { s.emit (.directive d) with cursor := next }

def marker (t : Token) (s : Layout) : Checked Layout := do
  return (← s.outside).take 3 t

/-- An opening bracket: inside it keys are looked for anew. -/
def openBrackets (t : Token) (s : Layout) : Checked Layout := do
  let s ← s.awaitKey
  return { s.take 1 t with keyAllowed := true, pending := none, outer := s.pending :: s.outer }

/-- A closing bracket. -/
def closeBrackets (t : Token) (s : Layout) : Checked Layout :=
  match s.outer with
  | [] => malformed
  | pending :: outer => .ok { s.take 1 t with keyAllowed := false, pending, outer }

def comma (s : Layout) : Checked Layout := do
  return { (← s.forgetKey).take 1 .comma with keyAllowed := true }

/-- With a block begun at the column of the place, if it is further in. -/
def openBlock (t : Token) (s : Layout) : Checked Layout :=
  let column := s.cursor.column
  if s.inBrackets then .ok s
  else if !s.keyAllowed then malformed
  else if s.opensBlock column then .ok { s.emit t with blocks := column :: s.blocks }
  else .ok s

/-- The dash of an item. -/
def item (s : Layout) : Checked Layout := do
  let s ← (← s.openBlock .itemsStart).forgetKey
  return { s.take 1 .item with keyAllowed := true }

/-- The question mark of a key. -/
def key (s : Layout) : Checked Layout := do
  let s ← (← s.openBlock .entriesStart).forgetKey
  return { s.take 1 .key with keyAllowed := !s.inBrackets }

/-- The colon of a value. The key that it belongs to began at the pending place, if there is one. -/
def value (s : Layout) : Checked Layout :=
  match s.pending with
  | some k =>
    let s := { s with pending := none }
    let s :=
      if !s.inBrackets && s.opensBlock k.column then
        { s.insert k.number [.entriesStart, .key] with blocks := k.column :: s.blocks }
      else s.insert k.number [.key]
    .ok { s.take 1 .value with keyAllowed := false }
  | none => do
    let s ← s.openBlock .entriesStart
    return { s.take 1 .value with keyAllowed := !s.inBrackets }

/-- A token that may begin a key, read after its first character. -/
def named (read : Cursor → Found α) (token : α → Token) (s : Layout) : Checked Layout := do
  let s ← s.awaitKey
  let (a, next) ← read s.cursor
  return { s.emit (token a) with cursor := next, keyAllowed := false }

def quoted (quote : Char) (s : Layout) : Checked Layout :=
  s.named (betweenQuotes quote) fun text => .scalar text false

def plain (s : Layout) : Checked Layout := do
  let s ← s.awaitKey
  let t := plainText s.inBrackets s.leastColumn s.cursor
  return { s.emit (.scalar t.text true) with cursor := t.next, keyAllowed := t.endsLine }

/-- A block scalar; it is never a key without a question mark. -/
def block (s : Layout) : Checked Layout := do
  let s ← s.forgetKey
  let (text, next) ← blockText (max 1 s.leastColumn) s.cursor
  return { s.emit (.scalar text false) with cursor := next, keyAllowed := true }

/-- With the way to the next token passed, and the blocks closed that it does not belong to. -/
def toToken (s : Layout) : Checked Layout := do
  let (c, newLine) := s.cursor.token
  let keyAllowed := s.keyAllowed || (newLine && !s.inBrackets)
  let s ← { s with cursor := c, keyAllowed }.refreshKeys
  return s.closeBlocks (c.column < ·)

/-- With the token at the place read, whose first character is given. -/
def token (x : Char) (s : Layout) : Checked Layout :=
  let r := s.cursor.rest.drop 1
  let before (bracketsDo : Bool) : Bool := (bracketsDo && s.inBrackets) || gapFollows r
  if x = '%' ∧ s.cursor.column = 0 then s.directive
  else if s.cursor.isMarker then s.marker (if x = '-' then .documentStart else .documentEnd)
  else if x = '[' then s.openBrackets .openBracket
  else if x = '{' then s.openBrackets .openBrace
  else if x = ']' then s.closeBrackets .closeBracket
  else if x = '}' then s.closeBrackets .closeBrace
  else if x = ',' then s.comma
  else if x = '-' ∧ before false then s.item
  else if x = '?' ∧ before true then s.key
  else if x = ':' ∧ before true then s.value
  else if x = '*' then s.named (fun c => anchorName c.advance) .alias
  else if x = '&' then s.named (fun c => anchorName c.advance) .anchor
  else if x = '!' then s.named TagName.read .tag
  else if (x = '|' ∨ x = '>') ∧ !s.inBrackets then s.block
  else if x = '\'' ∨ x = '"' then s.quoted x
  else if startsPlain s.inBrackets s.cursor.rest then s.plain
  else malformed

/-- With the end of the text read. -/
def finish (s : Layout) : Checked Layout := do
  return (← s.outside).emit .textEnd

/-- The tokens up to a fault. Those from a place on where a key may have begun are not known yet. -/
def stoppedBy (f : Fault) (s : Layout) : List Token :=
  let keys := (s.pending :: s.outer).filterMap id
  let numbers := (keys.filter fun k => !k.isPast s.cursor).map PendingKey.number
  s.tokens.reverse.take (numbers.foldl min s.tokens.length) ++ [.broken f]

/-- All tokens of a text that is read up to a place. -/
def allTokens : (fuel : Nat) → Layout → List Token
  | 0, s => s.stoppedBy .malformedYaml
  | fuel + 1, s =>
    match s.toToken with
    | .error f => s.stoppedBy f
    | .ok t =>
      match t.cursor.rest with
      | [] =>
        match t.finish with
        | .error f => s.stoppedBy f
        | .ok t => t.tokens.reverse
      | x :: _ =>
        match t.token x with
        | .error f => s.stoppedBy f
        | .ok t => allTokens fuel t

end Layout

/-- The tokens of a text. The last one says how the text ends. -/
def tokens (text : List Char) : List Token := (Layout.start text).allTokens (text.length + 1)

end VectorQuery.Yaml
