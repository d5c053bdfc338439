import VectorQuery.Number.Double
/-! The shortest decimal text that reads back to a double: the fewest digits that do, of those the
nearest, written positionally from 10^-4 up to 10^16. -/
namespace VectorQuery.Double

/-- A positive decimal: an integer of digits times a power of ten. -/
structure Decimal where
  digits : Nat
  exponent : Int

/-- The decimal exponent of `n / d`: it is at least `10^k` and less than `10^(k+1)`. -/
def decimalExponent (n d : Nat) : Int :=
  let k := (binaryExponent n d * 30103).fdiv 100000
  let reaches (k : Int) : Bool :=
    if 0 ≤ k then d * Nat.pow 10 k.toNat ≤ n else d ≤ n * Nat.pow 10 (-k).toNat
  if reaches (k + 1) then k + 1 else if reaches k then k else k - 1

/-- The ratio's two neighbours among the decimals of `count` digits, the nearer one first. -/
def neighbours (n d : Nat) (k : Int) (count : Nat) : List Decimal :=
  let e := k + 1 - count
  let (a, b) := if 0 ≤ e then (n, d * Nat.pow 10 e.toNat) else (n * Nat.pow 10 (-e).toNat, d)
  let q := a / b
  let r := a % b
  let low := ⟨q, e⟩
  let high := ⟨q + 1, e⟩
  if 2*r < b ∨ 2*r = b ∧ q % 2 = 0 then [low, high] else [high, low]

/-- The first decimal of `count` digits or more that rounds to the double. -/
def search (d : Double) (n den : Nat) (k : Int) : (tries count : Nat) → Option Decimal
  | 0, _ => none
  | tries + 1, count =>
    match (neighbours n den k count).find? fun c => ofDecimal false c.digits c.exponent = d with
    | some c => some c
    | none => search d n den k tries (count + 1)

/-- Every decimal found by the search rounds to the double. -/
theorem ofDecimal_of_search {d : Double} {n den : Nat} {k : Int} {tries count : Nat} {c : Decimal}
    (h : search d n den k tries count = some c) : ofDecimal false c.digits c.exponent = d := by
  induction tries generalizing count with
  | zero => simp [search] at h
  | succ tries ih =>
    unfold search at h
    split at h
    · rename_i c' hc
      obtain rfl : c' = c := by simpa using h
      simpa using List.find?_some hc
    · exact ih h

/-- The shortest decimal of the positive double `m * 2^e`; the exact one if seventeen digits failed. -/
def shortest (m : Nat) (e : Int) (h : IsNormal m e) : Decimal :=
  let (n, d) := scale m 1 (-e)
  match search (.finite false m e h) n d (decimalExponent n d) 17 1 with
  | some c => c
  | none => if 0 ≤ e then ⟨m * Nat.pow 2 e.toNat, 0⟩ else ⟨m * Nat.pow 5 (-e).toNat, e⟩

/-- Digits without their trailing zeros. -/
def stripZeros (ds : List Char) : List Char := (ds.reverse.dropWhile (· == '0')).reverse

/-- A decimal exponent with its sign and at least two digits. -/
def exponentText (e : Int) : List Char :=
  let ds := Nat.toDigits 10 e.natAbs
  'e' :: (if e < 0 then '-' else '+') :: (if ds.length < 2 then '0' :: ds else ds)

/-- The text of `0.ds * 10^point`: positional while the point is near, else with an exponent. -/
def layout (ds : List Char) (point : Int) : List Char :=
  if point < -3 ∨ 16 < point then
    match ds with
    | [] => ['0']
    | [c] => c :: exponentText (point - 1)
    | c :: r => c :: '.' :: r ++ exponentText (point - 1)
  else if point ≤ 0 then '0' :: '.' :: List.replicate (-point).toNat '0' ++ ds
  else
    let whole := ds.take point.toNat
    let fraction := ds.drop point.toNat
    whole ++ List.replicate (point.toNat - ds.length) '0' ++
      '.' :: (if fraction.isEmpty then ['0'] else fraction)

/-- The text of a double; a finite one always shows a point or an exponent. -/
def text : Double → List Char
  | .nan => ['n', 'a', 'n']
  | .infinite n => (if n then ['-'] else []) ++ ['i', 'n', 'f']
  | .finite n m e h =>
    (if n then ['-'] else []) ++
      if m = 0 then ['0', '.', '0']
      else
        let c := shortest m e h
        let ds := Nat.toDigits 10 c.digits
        layout (stripZeros ds) (ds.length + c.exponent)

end VectorQuery.Double
