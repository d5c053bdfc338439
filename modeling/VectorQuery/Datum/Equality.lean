import VectorQuery.Datum.Basic
/-! Equality of plain data: numbers by value whatever their type, text without its marks, moments by
instant, sets and dictionaries in any order, records by name and fields. -/
namespace VectorQuery.Datum

/-- Data that count as numbers, truth values being one and zero. -/
def numeral? : Datum → Option Num
  | .bool b => some (.int (if b then 1 else 0))
  | .int i => some (.int i)
  | .float d => some (.float d)
  | _ => Option.none

mutual

/-- Equality of data. -/
def same : Datum → Datum → Bool
  | .none, .none => true
  | .text a, .text b => a.same b
  | .bytes a, .bytes b => a == b
  | .day a, .day b => a == b
  | .moment a, .moment b => a.same b
  | .list xs, .list ys => sameItems xs ys
  | .tuple xs, .tuple ys => sameItems xs ys
  | .set xs, .set ys => xs.length == ys.length && allAmong xs ys
  | .dict es, .dict fs => es.length == fs.length && sameEntries es fs
  | .record n fs, .record m gs => n == m && sameFields fs gs
  | a, b =>
    match a.numeral?, b.numeral? with
    | some x, some y => x.same y
    | _, _ => false

def sameItems : List Datum → List Datum → Bool
  | [], [] => true
  | x :: xs, y :: ys => same x y && sameItems xs ys
  | _, _ => false

/-- Every item of the first is equal to one of the second. -/
def allAmong : List Datum → List Datum → Bool
  | [], _ => true
  | x :: r, ys => (ys.any fun y => same x y) && allAmong r ys

/-- Every entry of the first has an equal key with an equal value in the second. -/
def sameEntries : List (Datum × Datum) → List (Datum × Datum) → Bool
  | [], _ => true
  | (k, v) :: r, fs => (fs.any fun (k', v') => same k k' && same v v') && sameEntries r fs

def sameFields : List (String × Datum) → List (String × Datum) → Bool
  | [], [] => true
  | (n, v) :: r, (m, w) :: s => n == m && same v w && sameFields r s
  | _, _ => false

end

/-- A dictionary with an entry set: in place when the key is there already, else at the end. -/
def setEntry (key value : Datum) : List (Datum × Datum) → List (Datum × Datum)
  | [] => [(key, value)]
  | (k, v) :: r => if same k key then (k, value) :: r else (k, v) :: setEntry key value r

end VectorQuery.Datum
