import VectorQuery.Filter.Path
import VectorQuery.GraphQL.Value
/-! Values of filter conditions. Each variant names the argument that carries it, so the argument never
depends on what the value looks like. -/
namespace VectorQuery

/-- A date, as a moment or as RFC 3339 text. -/
inductive DateValue
  | moment (t : Moment)
  | text (t : MarkedText)

inductive FilterValue
  | text (t : MarkedText)
  | integer (i : Int)
  | number (q : Quantity)
  | boolean (b : Bool)
  | date (d : DateValue)
  | textList (ts : List MarkedText)
  | integerList (is : List Int)
  | numberList (qs : List Quantity)
  | booleanList (bs : List Bool)
  | geoRange (latitude longitude distance : Quantity)

namespace DateValue

/-- The text on the wire; a moment without an offset is taken as universal time. -/
def wireText : DateValue → MarkedText
  | moment t => .plain (String.ofList t.inUniversalTime.iso)
  | text t => t

def view : DateValue → Datum
  | moment t => .moment t
  | text t => .text t

end DateValue

namespace FilterValue
open GraphQL (Value)

/-- The argument that carries the value. -/
def wireField : FilterValue → String
  | text _ => "valueText"
  | integer _ => "valueInt"
  | number _ => "valueNumber"
  | boolean _ => "valueBoolean"
  | date _ => "valueDate"
  | textList _ => "valueTextArray"
  | integerList _ => "valueIntArray"
  | numberList _ => "valueNumberArray"
  | booleanList _ => "valueBooleanArray"
  | geoRange .. => "valueGeoRange"

/-- The value on the wire; numbers become doubles. -/
def wire : FilterValue → Value
  | text t => .ofText t
  | integer i => .int i
  | number q => .float q.toDouble
  | boolean b => .bool b
  | date d => .ofText d.wireText
  | textList ts => .ofTexts ts
  | integerList is => .list (is.map .int)
  | numberList qs => .list (qs.map fun q => .float q.toDouble)
  | booleanList bs => .list (bs.map .bool)
  | geoRange lat lon dist => .object [
      ("geoCoordinates", .object [("latitude", .float lat.toDouble),
        ("longitude", .float lon.toDouble)]),
      ("distance", .object [("max", .float dist.toDouble)])]

def view : FilterValue → Datum
  | text t => .record "Text" [("value", .text t)]
  | integer i => .record "Integer" [("value", .int i)]
  | number q => .record "Number" [("value", q.view)]
  | boolean b => .record "Boolean" [("value", .bool b)]
  | date d => .record "Date" [("value", d.view)]
  | textList ts => .record "TextList" [("value", .tuple (ts.map .text))]
  | integerList is => .record "IntegerList" [("value", .tuple (is.map .int))]
  | numberList qs => .record "NumberList" [("value", .tuple (qs.map Quantity.view))]
  | booleanList bs => .record "BooleanList" [("value", .tuple (bs.map .bool))]
  | geoRange lat lon dist => .record "GeoRange" [("latitude", lat.view), ("longitude", lon.view),
      ("distance", dist.view)]

/-- Integers that fit 64 bits with a sign: from `-2^63` to `2^63 - 1`. -/
def isInt64 (i : Int) : Bool := -9223372036854775808 ≤ i && i ≤ 9223372036854775807

def checkText : Datum → Checked FilterValue
  | .text t => .ok (.text t)
  | d => reject (.mustBe "Text value" .string d)

def checkInteger (d : Datum) : Checked FilterValue :=
  match d with
  | .int i => if isInt64 i then .ok (.integer i) else reject (.mustBe "Integer value" .int64 d)
  | _ => reject (.mustBe "Integer value" .int64 d)

def checkNumber (d : Datum) : Checked FilterValue := (Quantity.check "Number value" d).map .number

def checkBoolean : Datum → Checked FilterValue
  | .bool b => .ok (.boolean b)
  | d => reject (.mustBe "Boolean value" .bool d)

def checkDate : Datum → Checked FilterValue
  | .moment t => .ok (.date (.moment t))
  | .text t => .ok (.date (.text t))
  | d => reject (.mustBe "Date value" .date d)

/-- An item by its reading; one that has none is refused for a reason of the whole. -/
def checkItem (read : Datum → Checked (Option α)) (refusal : Rejection) (d : Datum) : Checked α := do
  match ← read d with
  | some a => pure a
  | none => reject refusal

/-- A sequence whose items all have the reading. -/
def checkList (name : String) (read : Datum → Checked (Option α)) (d : Datum) :
    Checked (List α) := do
  (← itemsOf d).mapM (checkItem read (.itemTypes name d))

def checkTextList (d : Datum) : Checked FilterValue :=
  (checkList "TextList" (fun d => .ok d.text?) d).map .textList

/-- An integer of 64 bits. -/
def readInt64 : Datum → Option Int
  | .int i => if isInt64 i then some i else none
  | _ => none

def checkIntegerList (d : Datum) : Checked FilterValue :=
  (checkList "IntegerList" (fun d => .ok (readInt64 d)) d).map .integerList

/-- A finite number. -/
def readQuantity (d : Datum) : Checked (Option Quantity) :=
  match d.num? with
  | none => .ok none
  | some n =>
    if h : n.isFinite = true then .ok (some ⟨n, h⟩)
    else if n.toDouble?.isNone then .error .tooLarge
    else .ok none

def checkNumberList (d : Datum) : Checked FilterValue :=
  (checkList "NumberList" readQuantity d).map .numberList

/-- A truth value. -/
def readBool : Datum → Option Bool
  | .bool b => some b
  | _ => none

def checkBooleanList (d : Datum) : Checked FilterValue :=
  (checkList "BooleanList" (fun d => .ok (readBool d)) d).map .booleanList

/-- A circle: coordinates in degrees, a distance in meters. -/
def checkGeoRange (latitude longitude distance : Datum) : Checked FilterValue := do
  let lat ← Quantity.check "GeoRange latitude" latitude
  let lon ← Quantity.check "GeoRange longitude" longitude
  let dist ← Quantity.check "GeoRange distance" distance
  let within (n : Num) (bound : Int) : Bool := Num.le (.int (-bound)) n && Num.le n (.int bound)
  if !within lat.num 90 || !within lon.num 180 then reject (.coordinates lat.num lon.num)
  if Num.lt dist.num (.int 0) then reject (.negativeDistance dist.num)
  pure (.geoRange lat lon dist)

end FilterValue

end VectorQuery
