import VectorQuery.Number.Numeral
import VectorQuery.Settings.Basic
import VectorQuery.Transport.Basic
/-! The connection section of the settings. -/
namespace VectorQuery
open Settings (setting)

namespace Datum

/-- Bytes as the characters of a numeral. -/
def asciiChars? (bs : List UInt8) : Option (List Char) :=
  if bs.all fun b => b.toNat < 0x80 then some (bs.map fun b => Char.ofNat b.toNat)
  else Option.none

/-- A value, or a refusal of the value it was read from. -/
def orBad (x : Option α) : Checked α :=
  match x with
  | some a => .ok a
  | Option.none => .error .badValue

/-- Any number, or a numeral in text, as a double. -/
def toDouble : Datum → Checked Double
  | .bool b => .ok (if b then .one else .zero)
  | .int i =>
    match Double.ofInt? i with
    | some d => .ok d
    | Option.none => .error .tooLarge
  | .float d => .ok d
  | .text t => orBad (Numeral.double? t.content.toList)
  | .bytes bs => orBad ((asciiChars? bs).bind Numeral.double?)
  | _ => .error .wrongType

/-- Any number without its fraction, or a numeral in text, as an integer. -/
def toInt : Datum → Checked Int
  | .bool b => .ok (if b then 1 else 0)
  | .int i => .ok i
  | .float (.infinite _) => .error .tooLarge
  | .float d => orBad (Num.truncate? (.float d))
  | .text t => orBad (Numeral.int? t.content.toList)
  | .bytes bs => orBad ((asciiChars? bs).bind Numeral.int?)
  | _ => .error .wrongType

end Datum

namespace Transport

/-- The transport that the section `WEAVIATE` describes. -/
def ofSettings [HttpLibrary] (s : Settings) : Checked Transport := do
  let es ← s.entries "WEAVIATE"
  let timeout ← (setting es "TIMEOUT" (.int defaultTimeout)).toDouble
  let maxRetries ← (setting es "MAX_RETRIES" (.int defaultRetries)).toInt
  make (setting es "BASE_URL" (.str defaultUrl)) (setting es "API_KEY" .none) timeout maxRetries

end Transport

end VectorQuery
