import VectorQuery.GraphQL.Literal
import VectorQuery.GraphQL.Name
/-! Input values of a document: what they are, how they are written, and which plain data are one. -/
namespace VectorQuery.GraphQL

inductive Value
  | null
  | bool (b : Bool)
  | int (i : Int)
  | float (d : Double)
  | string (s : String)
  | block (s : String)
  | enum (s : String)
  | list (xs : List Value)
  | object (fields : List (String × Value))

instance : Inhabited Value := ⟨.null⟩

/-- Text as a value, by its mark. -/
def Value.ofText : MarkedText → Value
  | .plain s => .string s
  | .bare s => .enum s
  | .block s => .block s
  | .word w => .string w.symbol

/-- A list of texts as a value. -/
def Value.ofTexts (ts : List MarkedText) : Value := .list (ts.map ofText)

/-- An integer in decimal. -/
def intChars (i : Int) : List Char :=
  if i < 0 then '-' :: Nat.toDigits 10 i.natAbs else Nat.toDigits 10 i.natAbs

/-- What separates items, fields and arguments. -/
def separator : List Char := [',', ' ']

namespace Value

mutual

/-- The text of a value. -/
def chars : Value → List Char
  | .null => "null".toList
  | .bool b => if b then "true".toList else "false".toList
  | .int i => intChars i
  | .float d => d.text
  | .string s => quotedLiteral s.toList
  | .block s => blockLiteral s.toList
  | .enum s => s.toList
  | .list xs => '[' :: itemsChars xs ++ [']']
  | .object fs => '{' :: fieldsChars fs ++ ['}']

def itemsChars : List Value → List Char
  | [] => []
  | [x] => x.chars
  | x :: y :: r => x.chars ++ separator ++ itemsChars (y :: r)

def fieldsChars : List (String × Value) → List Char
  | [] => []
  | [(n, v)] => n.toList ++ ':' :: ' ' :: v.chars
  | (n, v) :: f :: r => n.toList ++ ':' :: ' ' :: v.chars ++ separator ++ fieldsChars (f :: r)

end

/-- The text of a value. -/
def render (v : Value) : String := String.ofList v.chars

mutual

/-- The value that plain data stand for. Refused are, in the order of reading, doubles that are no
numbers, keys that are no names, and data of a kind that has no literal. -/
def ofDatum : Datum → Checked Value
  | .none => .ok .null
  | .bool b => .ok (.bool b)
  | .int i => .ok (.int i)
  | .float d => if d.isFinite then .ok (.float d) else reject (.nonFinite d)
  | .text t => .ok (ofText t)
  | .list xs => (ofItems xs).map .list
  | .tuple xs => (ofItems xs).map .list
  | .dict es => (ofEntries es).map .object
  | .bytes _ => .error (.unencodable "bytes")
  | .day _ => .error (.unencodable "date")
  | .moment _ => .error (.unencodable "datetime")
  | .set _ => .error (.unencodable "set")
  | .record name _ => .error (.unencodable name)

def ofItems : List Datum → Checked (List Value)
  | [] => .ok []
  | x :: r => do
    let v ← ofDatum x
    let vs ← ofItems r
    pure (v :: vs)

def ofEntries : List (Datum × Datum) → Checked (List (String × Value))
  | [] => .ok []
  | (k, x) :: r => do
    let name ← Name.check "argument name" k
    let v ← ofDatum x
    let vs ← ofEntries r
    pure ((name.text.shown, v) :: vs)

end

end Value

namespace Value

mutual

/-- A value as plain data. -/
def data : Value → Datum
  | .null => .none
  | .bool b => .bool b
  | .int i => .int i
  | .float d => .float d
  | .string s => .str s
  | .block s => .text (.block s)
  | .enum s => .text (.bare s)
  | .list xs => .list (dataItems xs)
  | .object fs => .dict (dataFields fs)

def dataItems : List Value → List Datum
  | [] => []
  | x :: r => x.data :: dataItems r

def dataFields : List (String × Value) → Datum.Entries
  | [] => []
  | (n, v) :: r => (.str n, v.data) :: dataFields r

end

/-- The text of a number as a double; truth values count as one and zero. -/
def floatText (d : Datum) : Checked String :=
  match d with
  | .bool b => .ok (Double.show (if b then .one else .zero))
  | d =>
    match d.num?.map Num.toDouble? with
    | none => .error .wrongType
    | some none => .error .tooLarge
    | some (some x) => if x.isFinite then .ok x.show else reject (.nonFinite x)

end Value

/-- Arguments of a field, in order. -/
abbrev Arguments := List (String × Value)

/-- Arguments in parentheses; nothing when there are none. -/
def argumentsChars (arguments : Arguments) : List Char :=
  if arguments.isEmpty then [] else '(' :: Value.fieldsChars arguments ++ [')']

/-- Arguments given as plain data, in order. -/
def argumentsOfData : List (String × Datum) → Checked Arguments
  | [] => .ok []
  | (name, x) :: r => do
    let v ← Value.ofDatum x
    let vs ← argumentsOfData r
    pure ((name, v) :: vs)

end VectorQuery.GraphQL
