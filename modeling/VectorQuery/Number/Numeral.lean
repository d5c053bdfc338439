import VectorQuery.Text.Split
import VectorQuery.Text.Digit
import VectorQuery.Number.Double
/-! Reading numbers that people write: blanks around, a sign, digits of any script, and single
underscores between digits. -/
namespace VectorQuery.Numeral
open VectorQuery.Text

/-- Blanks around a numeral: ASCII layout, and every blank outside ASCII. -/
def isPadding (c : Char) : Bool :=
  (9 ≤ c.toNat && c.toNat ≤ 13) || c == ' ' || (0x7f < c.toNat && isBlank c)

def strip (s : List Char) : List Char :=
  ((s.dropWhile isPadding).reverse.dropWhile isPadding).reverse

/-- The sign in front, and what follows it. -/
def sign : List Char → Bool × List Char
  | '-' :: r => (true, r)
  | '+' :: r => (false, r)
  | s => (false, s)

/-- The digits in front, and the rest; an underscore is passed only between two digits. -/
def digits : List Char → List Nat × List Char
  | [] => ([], [])
  | c :: r =>
    match digitValue? c with
    | none => ([], c :: r)
    | some d =>
      match r with
      | '_' :: c' :: r' =>
        if (digitValue? c').isSome then
          let (ds, rest) := digits (c' :: r')
          (d :: ds, rest)
        else ([d], r)
      | r =>
        let (ds, rest) := digits r
        (d :: ds, rest)

/-- Integer numerals have at most this many digits. -/
def maxDigits : Nat := 4300

/-- An integer numeral in base ten. -/
def int? (s : List Char) : Option Int :=
  let (negative, body) := sign (strip s)
  match digits body with
  | (d :: ds, []) =>
    if maxDigits < ds.length + 1 then none
    else
      let n : Int := ofDigits 10 (d :: ds)
      some (if negative then -n else n)
  | _ => none

/-- The names of the values that are no numbers, in any case of their letters. -/
def special? (negative : Bool) (s : List Char) : Option Double :=
  let name := s.map Char.toLower
  if name = "inf".toList ∨ name = "infinity".toList then some (.infinite negative)
  else if name = "nan".toList then some .nan
  else none

/-- A decimal exponent, or none written. -/
def exponent? : List Char → Option Int
  | [] => some 0
  | c :: r =>
    if c = 'e' ∨ c = 'E' then
      let (negative, body) := sign r
      match digits body with
      | (d :: ds, []) =>
        let n : Int := ofDigits 10 (d :: ds)
        some (if negative then -n else n)
      | _ => none
    else none

/-- A decimal numeral: digits with a point anywhere among them, and an exponent. -/
def double? (s : List Char) : Option Double :=
  let (negative, body) := sign (strip s)
  match special? negative body with
  | some d => some d
  | none =>
    let (whole, rest) := digits body
    let (fraction, rest) := match rest with
      | '.' :: r => digits r
      | r => ([], r)
    if whole.isEmpty && fraction.isEmpty then none
    else (exponent? rest).map fun e =>
      Double.ofDecimal negative (ofDigits 10 (whole ++ fraction)) (e - fraction.length)

end VectorQuery.Numeral
