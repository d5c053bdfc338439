/-! Double precision numbers in exact integer arithmetic: rounding a ratio to the nearest double, a
half going to the even mantissa, and exact comparison. A finite double is a sign and `m * 2^e`. -/
namespace VectorQuery

/-- `m * 2^e` is a double: the mantissa stays below `2^53`, and is at least `2^52` unless the exponent
is least. -/
def IsNormal (m : Nat) (e : Int) : Prop :=
  m < 9007199254740992 ∧ -1074 ≤ e ∧ e ≤ 971 ∧ (4503599627370496 ≤ m ∨ e = -1074)

instance (m : Nat) (e : Int) : Decidable (IsNormal m e) := inferInstanceAs (Decidable (_ ∧ _))

inductive Double
  | nan
  | infinite (negative : Bool)
  | finite (negative : Bool) (m : Nat) (e : Int) (normal : IsNormal m e)
  deriving DecidableEq

namespace Double

/-- A zero with a sign. -/
def signedZero (negative : Bool) : Double := .finite negative 0 (-1074) (by decide)

def zero : Double := signedZero false
def one : Double := .finite false 4503599627370496 (-52) (by decide)

def isFinite : Double → Bool
  | .finite .. => true
  | _ => false

/-- The integer nearest to `n / d`; a half goes to the even neighbour. -/
def roundHalfEven (n d : Nat) : Nat :=
  let q := n / d
  let r := n % d
  if 2*r < d then q else if d < 2*r then q+1 else if q % 2 = 0 then q else q+1

/-- The ratio `n / (d * 2^e)` as a numerator and a denominator. -/
def scale (n d : Nat) (e : Int) : Nat × Nat :=
  if 0 ≤ e then (n, d * Nat.pow 2 e.toNat) else (n * Nat.pow 2 (-e).toNat, d)

/-- The binary exponent of the ratio `n / d`: it is at least `2^k` and less than `2^(k+1)`. -/
def binaryExponent (n d : Nat) : Int :=
  let k : Int := (n.log2 : Int) - (d.log2 : Int)
  let (a, b) := scale n d k
  if b ≤ a then k else k - 1

/-- The double nearest to `±n / d`; beyond the largest finite one it is infinite. -/
def ofRatio (negative : Bool) (n d : Nat) : Double :=
  let e := max (binaryExponent n d - 52) (-1074)
  let (a, b) := scale n d e
  let m := roundHalfEven a b
  let (m, e) := if m = 9007199254740992 then (4503599627370496, e+1) else (m, e)
  if h : IsNormal m e then .finite negative m e h else .infinite negative

/-- The double nearest to `±n * 10^e`. Exponents that decide alone are not multiplied out. -/
def ofDecimal (negative : Bool) (n : Nat) (e : Int) : Double :=
  if n = 0 ∨ e < -(400 + (n.log2 : Int)) then signedZero negative
  else if 400 < e then .infinite negative
  else if 0 ≤ e then ofRatio negative (n * Nat.pow 10 e.toNat) 1
  else ofRatio negative n (Nat.pow 10 (-e).toNat)

/-- The nearest double of an integer, when that is finite. -/
def ofInt? (i : Int) : Option Double :=
  let d := if i = 0 then zero else ofRatio (i < 0) i.natAbs 1
  if d.isFinite then some d else none

end Double

/-- A number as a caller writes it: an integer of any size, or a double. -/
inductive Num
  | int (i : Int)
  | float (d : Double)
  deriving DecidableEq

namespace Num

/-- A dyadic rational `s * 2^e`, or one of the values that are not rational. -/
inductive Extended
  | nan
  | infinite (negative : Bool)
  | dyadic (s e : Int)

def extended : Num → Extended
  | .int i => .dyadic i 0
  | .float .nan => .nan
  | .float (.infinite n) => .infinite n
  | .float (.finite n m e _) => .dyadic (if n then -(m : Int) else m) e

/-- Both dyadic rationals as integers over one power of two. -/
def aligned (a e b f : Int) : Int × Int :=
  let g := min e f
  (a * (Nat.pow 2 (e - g).toNat : Nat), b * (Nat.pow 2 (f - g).toNat : Nat))

/-- Strictly less; nothing compares with what is not a number. -/
def lt (x y : Num) : Bool :=
  match x.extended, y.extended with
  | .dyadic a e, .dyadic b f => let (p, q) := aligned a e b f; p < q
  | .infinite n, .infinite k => n && !k
  | .infinite n, .dyadic .. => n
  | .dyadic .., .infinite k => !k
  | _, _ => false

/-- The same rational, or the same infinity; both zeros are the same. -/
def same (x y : Num) : Bool :=
  match x.extended, y.extended with
  | .dyadic a e, .dyadic b f => let (p, q) := aligned a e b f; p == q
  | .infinite n, .infinite k => n == k
  | _, _ => false

def le (x y : Num) : Bool := lt x y || same x y

/-- The nearest double, unless the number is an integer beyond all finite ones. -/
def toDouble? : Num → Option Double
  | .int i => Double.ofInt? i
  | .float d => some d

/-- The integer part, toward zero, of a finite number. -/
def truncate? : Num → Option Int
  | .int i => some i
  | .float (.finite n m e _) =>
    let k : Nat := if 0 ≤ e then m * Nat.pow 2 e.toNat else m / Nat.pow 2 (-e).toNat
    some (if n then -(k : Int) else k)
  | .float _ => none

end Num

end VectorQuery
