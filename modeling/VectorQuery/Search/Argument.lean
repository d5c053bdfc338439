import VectorQuery.Search.Basic
import VectorQuery.GraphQL.Value
/-! The argument that carries a search clause. Fetches have none; a missing number fails here. -/
namespace VectorQuery
open GraphQL (Value)

/-- A number that the wire needs. -/
def required (toDouble : α → Double) : Option α → Checked Value
  | some a => .ok (.float (toDouble a))
  | none => .error .wrongType

namespace Threshold

def wire : Threshold → List (String × Value)
  | absent => []
  | certainty c => [("certainty", .float c.toDouble)]
  | distance d => [("distance", .float d.toDouble)]

end Threshold

namespace Move

def wire (m : Move) : Checked Value := do
  let force ← required (·.toDouble) m.force
  pure (.object [("concepts", .ofTexts m.concepts.texts), ("force", force)])

end Move

namespace Search

/-- A shift under its name, when there is one. -/
def moveWire (name : String) : Option Move → Checked (List (String × Value))
  | none => .ok []
  | some m => m.wire.map fun v => [(name, v)]

/-- Every component of a vector as a double. -/
def vectorWire : List (Option Quantity) → Checked (List Value)
  | [] => .ok []
  | q :: r => do
    let v ← required Quantity.toDouble q
    let vs ← vectorWire r
    pure (v :: vs)

/-- Properties to search in, when they are restricted. -/
def propertiesWire : Option Phrases → List (String × Value)
  | none => []
  | some ps => [("properties", .ofTexts ps.texts)]

/-- The name and the value of the search argument. -/
def argument : Search → Checked (Option (String × Value))
  | fetchAll => .ok none
  | fetchById _ => .ok none
  | nearText concepts threshold moveTo moveAway => do
    let toward ← moveWire "moveTo" moveTo
    let away ← moveWire "moveAwayFrom" moveAway
    pure (some ("nearText",
      .object (("concepts", .ofTexts concepts.texts) :: threshold.wire ++ toward ++ away)))
  | nearVector first rest threshold => do
    let vs ← vectorWire (first :: rest)
    pure (some ("nearVector", .object (("vector", .list vs) :: threshold.wire)))
  | nearObject id threshold =>
    .ok (some ("nearObject", .object (("id", .ofText id.text) :: threshold.wire)))
  | nearImage data threshold =>
    .ok (some ("nearImage", .object (("image", .ofText data.text) :: threshold.wire)))
  | nearMedia kind data threshold =>
    .ok (some (kind.argument,
      .object ((kind.text.content, .ofText data.text) :: threshold.wire)))
  | bm25 query properties =>
    .ok (some ("bm25", .object (("query", .ofText query.text) :: propertiesWire properties)))
  | hybrid query alpha fusion properties =>
    let alphaWire := match alpha with
      | none => []
      | some a => [("alpha", Value.float a.toDouble)]
    let fusionWire := match fusion with
      | none => []
      | some f => [("fusionType", Value.enum f.text.content)]
    .ok (some ("hybrid", .object (("query", .ofText query.text) :: alphaWire ++ fusionWire ++
      propertiesWire properties)))

end Search

end VectorQuery
