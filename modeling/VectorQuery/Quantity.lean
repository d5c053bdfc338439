import VectorQuery.Fault
/-! Checked numbers: finite quantities, shares between zero and one, and positive counts. -/
namespace VectorQuery

namespace Num

/-- Whether the nearest double is finite. -/
def isFinite (n : Num) : Bool := n.toDouble?.any Double.isFinite

end Num

/-- A finite number, as the caller wrote it. -/
structure Quantity where
  num : Num
  finite : num.isFinite = true

namespace Quantity

/-- The number as a double. -/
def toDouble (q : Quantity) : Double := q.num.toDouble?.getD .zero

theorem isFinite_toDouble (q : Quantity) : q.toDouble.isFinite = true := by
  have h := q.finite
  unfold Num.isFinite at h
  unfold toDouble
  cases hd : q.num.toDouble? with
  | none => simp [hd] at h
  | some d => simpa [hd] using h

def view (q : Quantity) : Datum := .num q.num

/-- The value as a finite number. -/
def check (subject : String) (d : Datum) : Checked Quantity :=
  match d.num? with
  | none => reject (.mustBe subject .finiteNumber d)
  | some n =>
    if h : n.isFinite = true then .ok ⟨n, h⟩
    else if n.toDouble?.isNone then .error .tooLarge
    else reject (.mustBe subject .finiteNumber d)

end Quantity

namespace Num

/-- Between zero and one, both included. -/
def inUnit (n : Num) : Bool := le (.int 0) n && le n (.int 1)

end Num

/-- A finite number between zero and one. -/
structure Share extends Quantity where
  unit : num.inUnit = true

namespace Share

/-- The value as a share. -/
def check (subject : String) (d : Datum) : Checked Share := do
  let q ← Quantity.check subject d
  if h : q.num.inUnit = true then .ok ⟨q, h⟩ else reject (.outsideUnit subject q.num)

/-- The whole. -/
def whole : Share := ⟨⟨.float .one, by decide⟩, by decide⟩

end Share

/-- A positive integer. -/
structure Count where
  value : Nat
  positive : 0 < value

namespace Count

def view (c : Count) : Datum := .int c.value

/-- The value as a positive integer. -/
def check (subject : String) (d : Datum) : Checked Count :=
  match d with
  | .int i =>
    if h : 0 < i.toNat then .ok ⟨i.toNat, h⟩
    else reject (.mustBe subject .positiveInteger d)
  | _ => reject (.mustBe subject .positiveInteger d)

end Count

/-- The value as an integer that is not negative. -/
def checkNatural (subject : String) (d : Datum) : Checked Nat :=
  match d with
  | .int i =>
    if 0 ≤ i then .ok i.toNat else reject (.mustBe subject .nonNegativeInteger d)
  | _ => reject (.mustBe subject .nonNegativeInteger d)

/-- A check that lets absent values through. -/
def optional (check : Datum → Checked α) : Datum → Checked (Option α)
  | .none => .ok none
  | d => (check d).map some

/-- The view of a value that may be absent. -/
def viewOption (view : α → Datum) : Option α → Datum
  | none => .none
  | some a => view a

/-- The items of a sequence; other values are of the wrong type. -/
def itemsOf (d : Datum) : Checked (List Datum) :=
  match d.items? with
  | some xs => .ok xs
  | none => .error .wrongType

end VectorQuery
