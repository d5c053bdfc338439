import VectorQuery.Datum.Equality
import VectorQuery.Text.Digit
import VectorQuery.Number.Numeral
/-! Reading JSON texts. Integers keep any size, numbers with a point or an exponent are doubles, the
names of the values that are no numbers are read too, and of entries with one key the last counts. -/
namespace VectorQuery.Json
open VectorQuery.Text

/-- What a reader found, and the text after it. -/
abbrev Found (α : Type) := Option (α × List Char)

def isSpace (c : Char) : Bool := c == ' ' || c == '\t' || c == '\n' || c == '\r'

def skipSpace (s : List Char) : List Char := s.dropWhile isSpace

/-- The rest after a word at the front. -/
def afterWord? (word : String) (s : List Char) : Option (List Char) :=
  if word.toList.isPrefixOf s then some (s.drop word.length) else none

/-- Four hexadecimal digits. -/
def unit? : List Char → Found Nat
  | a :: b :: c :: d :: r => ([a, b, c, d].mapM hexDigit?).map fun ds => (ofDigits 16 ds, r)
  | _ => none

/-- A code unit after `\u`, and the low half of a pair when the unit is a high half. -/
def escapedUnit? (s : List Char) : Found Char :=
  match unit? s with
  | none => none
  | some (n, r) =>
    if 0xd800 ≤ n ∧ n < 0xdc00 then
      match r with
      | '\\' :: 'u' :: r' =>
        match unit? r' with
        | some (k, r'') =>
          if 0xdc00 ≤ k ∧ k < 0xe000 then
            some (Char.ofNat (0x10000 + (n - 0xd800) * 0x400 + (k - 0xdc00)), r'')
          else some (Char.ofNat 0xfffd, r)
        | none => none
      | _ => some (Char.ofNat 0xfffd, r)
    else if 0xdc00 ≤ n ∧ n < 0xe000 then some (Char.ofNat 0xfffd, r)
    else some (Char.ofNat n, r)

/-- The character of a one letter escape. -/
def simpleEscape? : Char → Option Char
  | '"' => some '"'
  | '\\' => some '\\'
  | '/' => some '/'
  | 'b' => some (Char.ofNat 8)
  | 'f' => some (Char.ofNat 12)
  | 'n' => some '\n'
  | 'r' => some '\r'
  | 't' => some '\t'
  | _ => none

/-- The inside of a string and its closing quote; no raw control characters. -/
def stringBody? : (fuel : Nat) → List Char → Found (List Char)
  | 0, _ => none
  | _, [] => none
  | fuel + 1, c :: r =>
    if c = '"' then some ([], r)
    else if c = '\\' then
      match r with
      | [] => none
      | 'u' :: r' =>
        match escapedUnit? r' with
        | some (c', r'') => (stringBody? fuel r'').map fun (cs, rest) => (c' :: cs, rest)
        | none => none
      | e :: r' =>
        match simpleEscape? e with
        | some c' => (stringBody? fuel r').map fun (cs, rest) => (c' :: cs, rest)
        | none => none
    else if c.toNat < 0x20 then none
    else (stringBody? fuel r).map fun (cs, rest) => (c :: cs, rest)

/-- A string after its opening quote. -/
def string? (s : List Char) : Found String :=
  (stringBody? (s.length + 1) s).map fun (cs, r) => (String.ofList cs, r)

def takeDigits (s : List Char) : List Char × List Char := s.span Char.isDigit

def digitsValue (ds : List Char) : Nat := ofDigits 10 (ds.filterMap asciiDigit?)

/-- A point and at least one digit, if they are there. -/
def fraction (s : List Char) : List Char × List Char :=
  match s with
  | '.' :: r =>
    match takeDigits r with
    | ([], _) => ([], s)
    | (ds, rest) => (ds, rest)
  | s => ([], s)

/-- An exponent with at least one digit, if it is there. -/
def exponent? (s : List Char) : Found Int :=
  match s with
  | c :: r =>
    if c = 'e' ∨ c = 'E' then
      let (negative, body) := Numeral.sign r
      match takeDigits body with
      | ([], _) => none
      | (ds, rest) =>
        let n : Int := digitsValue ds
        some (if negative then -n else n, rest)
    else none
  | [] => none

/-- A number: no leading zeros, and a digit on each side of the point. -/
def number? (s : List Char) : Found Datum :=
  let (negative, body) := match s with
    | '-' :: r => (true, r)
    | r => (false, r)
  let whole := match body with
    | '0' :: r => (['0'], r)
    | b => takeDigits b
  match whole with
  | ([], _) => none
  | (ds, r) =>
    let (fs, r) := fraction r
    match exponent? r with
    | some (e, r) =>
      some (.float (Double.ofDecimal negative (digitsValue (ds ++ fs)) (e - fs.length)), r)
    | none =>
      if fs.isEmpty then
        if Numeral.maxDigits < ds.length then none
        else
          let n : Int := digitsValue ds
          some (.int (if negative then -n else n), r)
      else some (.float (Double.ofDecimal negative (digitsValue (ds ++ fs)) (-(fs.length : Int))), r)

/-- Words that stand for values. -/
def word? (s : List Char) : Found Datum :=
  [("null", Datum.none), ("true", .bool true), ("false", .bool false), ("NaN", .float .nan),
    ("Infinity", .float (.infinite false)), ("-Infinity", .float (.infinite true))].findSome?
    fun (w, d) => (afterWord? w s).map fun r => (d, r)

mutual

/-- A value at the front of the text. -/
def value? : (fuel : Nat) → List Char → Found Datum
  | 0, _ => none
  | fuel + 1, s =>
    match s with
    | '"' :: r => (string? r).map fun (t, r) => (Datum.str t, r)
    | '[' :: r =>
      match skipSpace r with
      | ']' :: r => some (.list [], r)
      | r => (items? fuel r).map fun (xs, r) => (.list xs, r)
    | '{' :: r =>
      match skipSpace r with
      | '}' :: r => some (.dict [], r)
      | r => (entries? fuel [] r).map fun (es, r) => (.dict es, r)
    | s =>
      match word? s with
      | some found => some found
      | none => number? s

/-- One item or more, and the closing bracket. -/
def items? : (fuel : Nat) → List Char → Found (List Datum)
  | 0, _ => none
  | fuel + 1, s =>
    match value? fuel s with
    | none => none
    | some (x, r) =>
      match skipSpace r with
      | ']' :: r => some ([x], r)
      | ',' :: r => (items? fuel (skipSpace r)).map fun (xs, r) => (x :: xs, r)
      | _ => none

/-- One entry or more after the entries so far, and the closing brace. -/
def entries? : (fuel : Nat) → List (Datum × Datum) → List Char → Found (List (Datum × Datum))
  | 0, _, _ => none
  | fuel + 1, es, s =>
    match s with
    | '"' :: r =>
      match string? r with
      | none => none
      | some (key, r) =>
        match skipSpace r with
        | ':' :: r =>
          match value? fuel (skipSpace r) with
          | none => none
          | some (v, r) =>
            let es := Datum.setEntry (.str key) v es
            match skipSpace r with
            | '}' :: r => some (es, r)
            | ',' :: r => entries? fuel es (skipSpace r)
            | _ => none
        | _ => none
    | _ => none

end

/-- The value that a whole text writes, with white space around it. -/
def read? (s : List Char) : Option Datum :=
  match value? (s.length + 1) (skipSpace s) with
  | some (d, r) => if (skipSpace r).isEmpty then some d else none
  | none => none

end VectorQuery.Json
