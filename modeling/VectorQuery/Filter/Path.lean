import VectorQuery.Quantity
import VectorQuery.Text.Split
/-! Property paths: one segment or more, none of them empty. -/
namespace VectorQuery

/-- One segment or more, none of them empty. -/
def isPath (segments : List MarkedText) : Bool :=
  !segments.isEmpty && segments.all fun s => !s.isEmpty

structure Path where
  segments : List MarkedText
  valid : isPath segments = true

namespace Path

def view (p : Path) : Datum := .tuple (p.segments.map .text)

/-- The segments of a dotted text, each without the blanks around it. -/
def segmentsOf (s : String) : List MarkedText :=
  (Text.splitOn '.' s.toList).map fun part => .plain (String.ofList (Text.trim part))

/-- A dotted text, or a sequence of segments. -/
def check (d : Datum) : Checked Path := do
  let segments ← match d with
    | .text t => .ok (some (segmentsOf t.content))
    | d => (itemsOf d).map (·.mapM Datum.text?)
  match segments with
  | some ts =>
    if h : isPath ts = true then pure ⟨ts, h⟩ else reject (.invalid "property path" d)
  | none => reject (.invalid "property path" d)

end Path

end VectorQuery
