import VectorQuery.Text.Base64
import VectorQuery.Yaml.Tag
/-! The data of a scalar with a tag. -/
namespace VectorQuery.Yaml

/-- A truth value in any case of its letters. -/
def truth (s : List Char) : Checked Bool :=
  let word := String.ofList (s.map Char.toLower)
  if Tag.trueWords.contains word then .ok true
  else if Tag.falseWords.contains word then .ok false
  else .error .noKey

/-- The bytes of a text in base 64. -/
def bytes (s : List Char) : Checked (List UInt8) :=
  if s.all fun c => c.toNat < 128 then
    match Text.base64? s with
    | some bs => .ok bs
    | none => .error .malformedYaml
  else .error .malformedYaml

/-- The data of a text under the tag of a scalar. Other tags have none. -/
def scalarDatum (tag : Tag) (s : List Char) : Checked Datum :=
  match tag with
  | .null => .ok .none
  | .bool => (truth s).map .bool
  | .int => (integer s).map .int
  | .float => (double s).map .float
  | .binary => (bytes s).map .bytes
  | .timestamp =>
    match Timestamp.read? s with
    | some t => t.datum
    | none => .error .noAttribute
  | .str => .ok (.str (String.ofList s))
  | _ => .error .malformedYaml

end VectorQuery.Yaml
