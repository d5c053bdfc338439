import VectorQuery.Yaml.Cursor
/-! Block scalars: indented lines after a header, kept as they are or folded. -/
namespace VectorQuery.Yaml

/-- What becomes of the line ends after the last line. -/
inductive Chomping
  | strip | clip | keep
  deriving DecidableEq

structure BlockHeader where
  folded : Bool
  chomping : Chomping
  /-- the indentation of the lines beyond that of the parent, where the header tells it -/
  indent : Option Nat

namespace BlockHeader

def chomping? (c : Char) : Option Chomping :=
  if c = '-' then some .strip else if c = '+' then some .keep else none

def indent? (c : Char) : Option Nat :=
  if '1' ≤ c ∧ c ≤ '9' then some (c.toNat - 48) else none

/-- A header with marks: one for each of its two properties at most, in any order. -/
def marked? (fold : Bool) : List Char → Option BlockHeader
  | [] => some ⟨fold, .clip, none⟩
  | [a] =>
    match chomping? a, indent? a with
    | some k, _ => some ⟨fold, k, none⟩
    | none, some n => some ⟨fold, .clip, some n⟩
    | none, none => none
  | [a, b] =>
    match chomping? a, indent? b, chomping? b, indent? a with
    | some k, some n, _, _ => some ⟨fold, k, some n⟩
    | _, _, some k, some n => some ⟨fold, k, some n⟩
    | _, _, _, _ => none
  | _ => none

/-- The header at a place, and the beginning of the line after it. -/
def read? (c : Cursor) : Option (BlockHeader × Cursor) :=
  let marks := (c.rest.drop 1).takeWhile fun x => x != ' ' && !isBreak x
  match marked? (c.rest.head? == some '>') marks, (c.advanceBy (marks.length + 1)).skipLine? with
  | some h, some next => some (h, next)
  | _, _ => none

end BlockHeader

/-- The lines of a text, each with what ends it. -/
def rawLines : List Char → List (List Char × Option Char)
  | [] => []
  | c :: r =>
    if isBreak c then ([], some c) :: rawLines r
    else match rawLines r with
      | [] => [([c], none)]
      | (line, ending) :: rest => (c :: line, ending) :: rest

/-- The indentation of a line. -/
def indentOf (line : List Char) : Nat := (line.takeWhile (· == ' ')).length

/-- A line without text. -/
def isBlankLine (line : List Char) : Bool := line.all (· == ' ')

/-- The indentation of a block that its header does not tell: that of its first line with text, and
no less than that of the blank lines before and the least one. -/
def blockIndent (least : Nat) (lines : List (List Char × Option Char)) : Nat :=
  let (blank, rest) := lines.span fun l => isBlankLine l.1
  let text := match rest with
    | [] => 0
    | (line, _) :: _ => indentOf line
  (blank.map fun l => l.1.length).foldl max (max least text)

/-- A line of a block without its indentation, and the line ends from its own up to the next line. -/
structure BlockLine where
  text : List Char
  ends : List Char

/-- The lines of a block, after the line ends of blank ones before them. -/
structure Block where
  leading : List Char
  lines : List BlockLine
  /-- how many characters of the whole text they take -/
  size : Nat

namespace Block

/-- The block at the beginning of some lines; it ends before a line with less indentation. -/
def ofLines (indent : Nat) : List (List Char × Option Char) → Block
  | [] => ⟨[], [], 0⟩
  | (line, ending) :: r =>
    if indent < line.length ∧ indent ≤ indentOf line then
      let b := ofLines indent r
      let ends := (ending.map breakText).toList
      ⟨[], ⟨line.drop indent, ends ++ b.leading⟩ :: b.lines, line.length + ends.length + b.size⟩
    else match ending with
      | none => ⟨[], [], 0⟩
      | some x =>
        if isBlankLine line then
          let b := ofLines indent r
          ⟨breakText x :: b.leading, b.lines, line.length + 1 + b.size⟩
        else ⟨[], [], 0⟩

/-- A line that begins with text. Only between two of those do line ends fold. -/
def startsText (l : BlockLine) : Bool := l.text.head?.any fun c => c != ' ' && c != '\t'

/-- The lines with the line ends between them. -/
def join (fold : Bool) : List BlockLine → List Char
  | [] => []
  | [l] => l.text
  | l :: next :: r =>
    let ends := if fold && startsText l && startsText next then folded l.ends else l.ends
    l.text ++ ends ++ join fold (next :: r)

/-- The text of a block: its lines, and the line ends after the last one as the header has it. -/
def text (h : BlockHeader) (b : Block) : List Char :=
  let ends := match b.lines.getLast? with
    | none => if h.chomping = .keep then b.leading else []
    | some l =>
      match h.chomping with
      | .strip => []
      | .clip => l.ends.take 1
      | .keep => l.ends
  (if b.lines.isEmpty then [] else b.leading) ++ join h.folded b.lines ++ ends

end Block

/-- The block scalar at a place whose lines are indented by at least `least`. -/
def blockText (least : Nat) (c : Cursor) : Found (List Char) :=
  match BlockHeader.read? c with
  | none => malformed
  | some (h, next) =>
    let lines := rawLines next.rest
    let indent := match h.indent with
      | some n => least + n - 1
      | none => blockIndent least lines
    let b := Block.ofLines indent lines
    .ok (b.text h, next.advanceBy b.size)

end VectorQuery.Yaml
