import VectorQuery.Number.Double
/-! Sums and products of doubles: the exact result, rounded once to the nearest double. -/
namespace VectorQuery.Double

/-- The double nearest to `±m * 2^e`. -/
def ofDyadic (negative : Bool) (m : Nat) (e : Int) : Double :=
  if m = 0 then signedZero negative
  else
    let (n, d) := scale m 1 (-e)
    ofRatio negative n d

/-- The double with the other sign; what is no number has none. -/
def neg : Double → Double
  | .nan => .nan
  | .infinite n => .infinite (!n)
  | .finite n m e h => .finite (!n) m e h

/-- The product; infinity times zero is no number. -/
def mul : Double → Double → Double
  | .nan, _ => .nan
  | _, .nan => .nan
  | .infinite n, .infinite k => .infinite (n != k)
  | .infinite n, .finite k m _ _ => if m = 0 then .nan else .infinite (n != k)
  | .finite n m _ _, .infinite k => if m = 0 then .nan else .infinite (n != k)
  | .finite n m e _, .finite k l f _ => ofDyadic (n != k) (m * l) (e + f)

/-- The sum; infinities of different signs have none. A sum of zero is negative only between negative
zeros. -/
def add : Double → Double → Double
  | .nan, _ => .nan
  | _, .nan => .nan
  | .infinite n, .infinite k => if n = k then .infinite n else .nan
  | .infinite n, .finite .. => .infinite n
  | .finite .., .infinite k => .infinite k
  | .finite n m e _, .finite k l f _ =>
    let (a, b) := Num.aligned (if n then -(m : Int) else m) e (if k then -(l : Int) else l) f
    if a + b = 0 then signedZero (n && k)
    else ofDyadic (a + b < 0) (a + b).natAbs (min e f)

@[simp] theorem neg_neg (d : Double) : d.neg.neg = d := by cases d <;> simp [neg]

theorem add_comm (x y : Double) : x.add y = y.add x := by
  cases x <;> cases y <;> simp only [add]
  · rename_i n k
    cases n <;> cases k <;> rfl
  · rename_i n m e _ k l f _
    simp only [Num.aligned, Int.min_comm e f, Int.add_comm, Bool.and_comm n k]

end VectorQuery.Double
