import VectorQuery.Yaml.Cursor
/-! Plain scalars: words with gaps between them, on one line or more, without quotes. -/
namespace VectorQuery.Yaml

/-- Characters that end a plain scalar between brackets. -/
def isFlowIndicator (c : Char) : Bool := c == ',' || c == '[' || c == ']' || c == '{' || c == '}'

/-- Characters that no plain scalar begins with. -/
def isIndicator (c : Char) : Bool := isFlowIndicator c || "#&*!|>'\"%@\x60".toList.contains c

/-- A plain scalar can begin here: a dash, or outside brackets a colon or question mark, only before a
character that belongs to it. -/
def startsPlain (inBrackets : Bool) : List Char → Bool
  | [] => false
  | c :: r =>
    if isGap c || isIndicator c then false
    else if c = '-' then !gapFollows r
    else if c = ':' ∨ c = '?' then !inBrackets && !gapFollows r
    else true

/-- The text after a colon that ends a plain scalar. -/
def colonEnds (inBrackets : Bool) : List Char → Bool
  | [] => true
  | c :: _ => isGap c || (inBrackets && isFlowIndicator c)

/-- The characters of a plain scalar up to the next gap. -/
def plainWord (inBrackets : Bool) : List Char → List Char
  | [] => []
  | c :: r =>
    if isGap c || (c == ':' && colonEnds inBrackets r) ||
        (inBrackets && (isFlowIndicator c || c == '?')) then []
    else c :: plainWord inBrackets r

/-- A plain scalar as far as it goes. -/
structure PlainText where
  text : List Char
  /-- the place after the white space behind the scalar -/
  next : Cursor
  /-- a line ends in that white space -/
  endsLine : Bool

/-- The gap after a word: what it reads as, its end, and whether a line ends in it. It reads as nothing
where no further word can follow. -/
def plainGap (c : Cursor) : List Char × Cursor × Bool :=
  let next := c.skipSpaces
  if next.rest.isEmpty || !lineEndFollows next.rest then
    (List.replicate (next.index - c.index) ' ', next, false)
  else match next.lineEnds? (· == ' ') with
    | none => ([], next, true)
    | some (ends, next) => (folded ends, next, true)

/-- The words at a place, with the gaps between them; `endsLine` says whether a line ends before them.
Outside brackets further lines are indented by at least `least`. -/
def plainWords (inBrackets : Bool) (least : Nat) : (fuel : Nat) → (endsLine : Bool) → Cursor → PlainText
  | 0, endsLine, c => ⟨[], c, endsLine⟩
  | fuel + 1, endsLine, c =>
    let word := if c.rest.head? = some '#' then [] else plainWord inBrackets c.rest
    if word.isEmpty then ⟨[], c, endsLine⟩
    else
      let (gap, next, endsLine) := plainGap (c.advanceBy word.length)
      if gap.isEmpty || (!inBrackets && next.column < least) then ⟨word, next, endsLine⟩
      else
        let more := plainWords inBrackets least fuel endsLine next
        { more with text := if more.text.isEmpty then word else word ++ gap ++ more.text }

/-- The plain scalar at a place. -/
def plainText (inBrackets : Bool) (least : Nat) (c : Cursor) : PlainText :=
  plainWords inBrackets least (c.rest.length + 1) false c

end VectorQuery.Yaml
