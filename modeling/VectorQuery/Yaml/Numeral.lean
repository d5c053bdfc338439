import VectorQuery.Number.Arithmetic
import VectorQuery.Number.Numeral
import VectorQuery.Text.Split
import VectorQuery.Fault
/-! Numerals: which plain scalars are one, and the number of a scalar that is read as one, which need
not be. Besides decimal ones there are binary, octal and hexadecimal integers, and sexagesimal numbers
whose parts stand between colons. Underscores count nowhere. -/
namespace VectorQuery.Yaml
open VectorQuery.Text VectorQuery.Numeral

/-- Text in place of an infinity, after its sign. -/
def infinityWords : List String := [".inf", ".Inf", ".INF"]

/-- Text in place of what is no number. -/
def nanWords : List String := [".nan", ".NaN", ".NAN"]

def isDigitOrUnderscore (c : Char) : Bool := c.isDigit || c == '_'

/-- Digits and underscores after a first digit. -/
def isDigits (s : List Char) : Bool :=
  s.head?.any Char.isDigit && s.all isDigitOrUnderscore

/-- A part of a sexagesimal numeral after its first: at most two digits, less than sixty. -/
def isSixtieth : List Char → Bool
  | [a] => a.isDigit
  | [a, b] => '0' ≤ a && a ≤ '5' && b.isDigit
  | _ => false

/-- Two or more parts of a sexagesimal numeral. -/
def isSexagesimal (s : List Char) : Bool :=
  match splitOn ':' s with
  | first :: part :: parts => isDigits first && (part :: parts).all isSixtieth
  | _ => false

/-- At least one digit of a base or underscore. -/
def isBased (base : Nat) (s : List Char) : Bool :=
  !s.isEmpty && s.all fun c => c == '_' || (hexDigit? c).any (· < base)

/-- A plain scalar that is an integer numeral. -/
def isInteger (s : List Char) : Bool :=
  let body := (sign s).2
  match body with
  | ['0'] => true
  | '0' :: 'b' :: r => isBased 2 r
  | '0' :: 'x' :: r => isBased 16 r
  | '0' :: r => isBased 8 r
  | _ => isDigits body || isSexagesimal body

/-- An exponent has a sign; without one the scalar is no number. -/
def isExponent : List Char → Bool
  | [] => true
  | e :: sign :: r =>
    (e == 'e' || e == 'E') && (sign == '+' || sign == '-') && !r.isEmpty && r.all Char.isDigit
  | _ => false

/-- A plain scalar that is a numeral with a point. -/
def isFloat (s : List Char) : Bool :=
  let body := (sign s).2
  let signed := body.length < s.length
  let whole := body.takeWhile fun c => isDigitOrUnderscore c || c == ':'
  infinityWords.contains (String.ofList body) ||
    (!signed && nanWords.contains (String.ofList body)) ||
    match body.drop whole.length with
    | '.' :: r =>
      let places := r.takeWhile isDigitOrUnderscore
      let exponent := r.drop places.length
      (isDigits whole && isExponent exponent) || (isSexagesimal whole && exponent.isEmpty) ||
        (whole.isEmpty && !signed && isDigits places && isExponent exponent)
    | _ => false

/-- The value, or the fault of a text that is no numeral. -/
def orNoNumeral (x : Option α) : Checked α :=
  match x with
  | some a => .ok a
  | none => .error .badValue

/-- What may stand between the sign and the digits of an integer in a base that is no decimal one. -/
def baseMark (base : Nat) : Char := if base = 2 then 'b' else if base = 8 then 'o' else 'x'

/-- An integer in a base that is a power of two: blanks around, a sign, the mark of the base, and digits
of any script. -/
def based? (base : Nat) (s : List Char) : Option Int :=
  let (negative, body) := sign ((strip s).map fun c => ((digitValue? c).map hexChar).getD c)
  let ds := match body with
    | '0' :: mark :: r => if mark.toLower = baseMark base then r else body
    | _ => body
  if ds.isEmpty then none
  else (ds.mapM fun c => (hexDigit? c).filter (· < base)).map fun vs =>
    if negative then -(ofDigits base vs : Int) else ofDigits base vs

/-- The magnitude of an integer, by what it begins with. -/
def magnitude (s : List Char) : Checked Int :=
  match s with
  | [] => .error .noItem
  | ['0'] => .ok 0
  | '0' :: 'b' :: r => orNoNumeral (based? 2 r)
  | '0' :: 'x' :: r => orNoNumeral (based? 16 r)
  | '0' :: r => orNoNumeral (based? 8 ('0' :: r))
  | s =>
    if s.contains ':' then do
      let parts ← (splitOn ':' s).mapM fun part => orNoNumeral (int? part)
      return parts.foldl (fun n d => n * 60 + d) 0
    else orNoNumeral (int? s)

/-- The integer of a scalar. -/
def integer (s : List Char) : Checked Int := do
  let s := s.filter (· != '_')
  if s.isEmpty then .error .noItem
  else
    let (negative, body) := sign s
    let n ← magnitude body
    return if negative then -n else n

/-- A sum of doubles that count sixty times as much one after the other. -/
def sixties (weight : Int) (sum : Double) : List Double → Checked Double
  | [] => .ok sum
  | d :: r =>
    match Double.ofInt? weight with
    | none => .error .tooLarge
    | some w => sixties (weight * 60) (sum.add (d.mul w)) r

/-- The double of a scalar. -/
def double (s : List Char) : Checked Double := do
  let s := (s.filter (· != '_')).map Char.toLower
  if s.isEmpty then .error .noItem
  else
    let (negative, body) := sign s
    let d ←
      if body = ".inf".toList then .ok (.infinite false)
      else if body = ".nan".toList then .ok .nan
      else if body.contains ':' then do
        let parts ← (splitOn ':' body).mapM fun part => orNoNumeral (double? part)
        sixties 1 .zero parts.reverse
      else orNoNumeral (double? body)
    return if negative then d.neg else d

end VectorQuery.Yaml
