import VectorQuery.GraphQL.Name
import VectorQuery.Text.Digit
import Mathlib.Tactic.Lemma

/-! The lexical grammar of GraphQL. A text is cut from the left into lexemes: tokens, and what may stand
between tokens without a meaning. Characters are Unicode scalar values of any kind. -/
namespace VectorQuery.GraphQL

/-- A token with its characters; of a string, those between its quotes, as they are written. -/
inductive Token
  /-- a punctuator of one character -/
  | mark (c : Char)
  | spread
  | name (text : List Char)
  | int (text : List Char)
  | float (text : List Char)
  | string (body : List Char)
  | block (body : List Char)
  deriving DecidableEq

/-- What a text is cut into. Only tokens carry meaning. -/
inductive Lexeme
  | token (t : Token)
  /-- white space, or a character that ends a line -/
  | blank (c : Char)
  | comma
  | byteOrderMark
  | comment (text : List Char)
  deriving DecidableEq

/-- The characters that are punctuators by themselves. -/
def isMark (c : Char) : Bool := "!$&()[]\x7b|\x7d:=@".toList.contains c

def isWhiteSpace (c : Char) : Bool := c == ' ' || c == '\t'
def isLineEnd (c : Char) : Bool := c == '\n' || c == '\r'

/-- A property of the characters of a list, checked one by one. -/
lemma forall_mem_of_all {p : Char → Prop} [DecidablePred p] {s : List Char}
    (h : s.all (fun c => decide (p c)) = true) : ∀ c ∈ s, p c :=
  fun c hc => of_decide_eq_true (List.all_eq_true.1 h c hc)

/-- No character of a class comes next. -/
def Stops (p : Char → Bool) (s : List Char) : Prop := ∀ c ∈ s.head?, p c = false

/-! ### Numbers -/

/-- Digits of an integer: no zero in front of others. -/
def isWhole : List Char → Bool
  | [] => false
  | ['0'] => true
  | c :: _ => c != '0'

/-- The digits of an integer in front of a text, and the rest. -/
def whole? (s : List Char) : Option (List Char × List Char) :=
  let ds := s.takeWhile Char.isDigit
  if isWhole ds then some (ds, s.dropWhile Char.isDigit) else none

/-- An integer with its sign. -/
def integer? : List Char → Option (List Char × List Char)
  | '-' :: r => (whole? r).map fun (ds, q) => ('-' :: ds, q)
  | s => whole? s

/-- A point with one digit or more after it; nothing when there is no point. -/
def fraction? : List Char → Option (List Char × List Char)
  | '.' :: r =>
    let ds := r.takeWhile Char.isDigit
    if ds.isEmpty then none else some ('.' :: ds, r.dropWhile Char.isDigit)
  | s => some ([], s)

def isExponentMark (c : Char) : Bool := c == 'e' || c == 'E'

/-- A sign in front of a text, if there is one. -/
def sign : List Char → List Char × List Char
  | '+' :: r => (['+'], r)
  | '-' :: r => (['-'], r)
  | s => ([], s)

/-- An exponent with one digit or more; nothing when there is no exponent mark. -/
def exponent? : List Char → Option (List Char × List Char)
  | [] => some ([], [])
  | c :: r =>
    if isExponentMark c then
      let (sgn, q) := sign r
      let ds := q.takeWhile Char.isDigit
      if ds.isEmpty then none else some (c :: sgn ++ ds, q.dropWhile Char.isDigit)
    else some ([], c :: r)

/-- What may not follow a number. -/
def extendsNumber (c : Char) : Bool := c.isDigit || c == '.' || isNameStart c

/-- A number in front of a text, and the rest. -/
def number? (s : List Char) : Option (Token × List Char) := do
  let (ds, r) ← integer? s
  let (frac, r) ← fraction? r
  let (exp, r) ← exponent? r
  if r.head?.any extendsNumber then none
  else some (if (frac ++ exp).isEmpty then .int ds else .float (ds ++ frac ++ exp), r)

/-! ### Strings -/

def isHex (c : Char) : Bool := (Text.hexDigit? c).isSome

/-- A code point in hexadecimal digits: any number of them between braces, or four. -/
def isCodePoint : List Char → Bool
  | '{' :: r => !(r.takeWhile isHex).isEmpty && (r.dropWhile isHex).head? == some '}'
  | r => 4 ≤ (r.takeWhile isHex).length

/-- What may stand after a backslash in a string. -/
def isEscape : List Char → Bool
  | [] => false
  | c :: r => if c = 'u' then isCodePoint r else "\"\\/bfnrt".toList.contains c

/-- The text up to the quote that ends a string on its line, and the text after that quote. -/
def stringBody? : List Char → Option (List Char × List Char)
  | [] => none
  | '"' :: r => some ([], r)
  | '\\' :: c :: r =>
    if isEscape (c :: r) then (stringBody? r).map fun (b, q) => ('\\' :: c :: b, q) else none
  | c :: r => if isLineEnd c then none else (stringBody? r).map fun (b, q) => (c :: b, q)

/-- The text up to the triple quote that ends a block string, and the text after it. -/
def blockBody? : List Char → Option (List Char × List Char)
  | [] => none
  | '"' :: '"' :: '"' :: r => some ([], r)
  | '\\' :: '"' :: '"' :: '"' :: r =>
    (blockBody? r).map fun (b, q) => ('\\' :: '"' :: '"' :: '"' :: b, q)
  | c :: r => (blockBody? r).map fun (b, q) => (c :: b, q)

/-! ### Lexemes -/

/-- The token in front of a text, and the rest. -/
def token? : List Char → Option (Token × List Char)
  | [] => none
  | '.' :: '.' :: '.' :: r => some (.spread, r)
  | '"' :: '"' :: '"' :: r => (blockBody? r).map fun (b, q) => (.block b, q)
  | '"' :: r => (stringBody? r).map fun (b, q) => (.string b, q)
  | c :: r =>
    if isMark c then some (.mark c, r)
    else if isNameStart c then
      some (.name (c :: r.takeWhile isNameChar), r.dropWhile isNameChar)
    else number? (c :: r)

/-- The lexeme in front of a text, and the rest. -/
def lexeme? : List Char → Option (Lexeme × List Char)
  | [] => none
  | c :: r =>
    if isWhiteSpace c || isLineEnd c then some (.blank c, r)
    else if c = ',' then some (.comma, r)
    else if c = '\ufeff' then some (.byteOrderMark, r)
    else if c = '#' then
      some (.comment (r.takeWhile (!isLineEnd ·)), r.dropWhile (!isLineEnd ·))
    else (token? (c :: r)).map fun (t, q) => (.token t, q)

end VectorQuery.GraphQL
