import VectorQuery.Phrase
/-! Search clauses: the one way a query retrieves its objects. -/
namespace VectorQuery

/-- A bound on similarity: by certainty or by distance, never by both. -/
inductive Threshold
  | absent
  | certainty (c : Share)
  | distance (d : Quantity)

/-- A shift of a text search towards or away from concepts. -/
structure Move where
  concepts : Phrases
  force : Option Share

/-- The kind of a medium, as the caller wrote it. -/
structure MediaKind where
  text : MarkedText
  known : (mediaArguments.lookup text.content).isSome = true

/-- A fusion type, as the caller wrote it. -/
structure FusionType where
  text : MarkedText
  known : fusionTypes.contains text.content = true

inductive Search
  | fetchAll
  | fetchById (id : Phrase)
  | nearText (concepts : Phrases) (threshold : Threshold) (moveTo moveAway : Option Move)
  | nearVector (first : Option Quantity) (rest : List (Option Quantity)) (threshold : Threshold)
  | nearObject (id : Phrase) (threshold : Threshold)
  | nearImage (data : Phrase) (threshold : Threshold)
  | nearMedia (kind : MediaKind) (data : Phrase) (threshold : Threshold)
  | bm25 (query : Phrase) (properties : Option Phrases)
  | hybrid (query : Phrase) (alpha : Option Share) (fusion : Option FusionType)
      (properties : Option Phrases)

namespace Threshold

def certaintyView : Threshold → Datum
  | certainty c => c.view
  | _ => .none

def distanceView : Threshold → Datum
  | distance d => d.view
  | _ => .none

/-- Both values, of which at most one may be given. -/
def check (certainty distance : Datum) : Checked Threshold := do
  let c ← optional (Share.check "certainty") certainty
  let d ← optional (Quantity.check "distance") distance
  match c, d with
  | none, none => pure .absent
  | some c, none => pure (.certainty c)
  | none, some d => pure (.distance d)
  | some _, some _ => reject .twoThresholds

end Threshold

namespace Move

def view (m : Move) : Datum :=
  .record "Move" [("concepts", m.concepts.view), ("force", viewOption (·.view) m.force)]

def check (concepts force : Datum) : Checked Move := do
  let cs ← Phrases.check "move" concepts
  let f ← optional (Share.check "force") force
  pure ⟨cs, f⟩

end Move

namespace MediaKind

/-- The search argument of the kind. -/
def argument (k : MediaKind) : String := (mediaArguments.lookup k.text.content).get k.known

def check (d : Datum) : Checked MediaKind :=
  if !d.isKey then .error .wrongType
  else match d with
    | .text t =>
      if h : (mediaArguments.lookup t.content).isSome = true then .ok ⟨t, h⟩
      else reject (.mediaKind d)
    | _ => reject (.mediaKind d)

end MediaKind

namespace FusionType

def check (d : Datum) : Checked FusionType :=
  match d with
  | .text t =>
    if h : fusionTypes.contains t.content = true then .ok ⟨t, h⟩ else reject (.fusionType d)
  | _ => reject (.fusionType d)

end FusionType

namespace Search

/-- The name of the kind of search. -/
def kindName : Search → String
  | fetchAll => "FetchAll"
  | fetchById _ => "FetchById"
  | nearText .. => "NearText"
  | nearVector .. => "NearVector"
  | nearObject .. => "NearObject"
  | nearImage .. => "NearImage"
  | nearMedia .. => "NearMedia"
  | bm25 .. => "Bm25"
  | hybrid .. => "Hybrid"

/-- The fields that a threshold shows. -/
def thresholdFields (t : Threshold) : List (String × Datum) :=
  [("certainty", t.certaintyView), ("distance", t.distanceView)]

def fields : Search → List (String × Datum)
  | fetchAll => []
  | fetchById id => [("id", id.view)]
  | nearText concepts threshold moveTo moveAway =>
    ("concepts", concepts.view) :: thresholdFields threshold ++
      [("move_to", viewOption Move.view moveTo), ("move_away", viewOption Move.view moveAway)]
  | nearVector first rest threshold =>
    ("vector", .tuple ((first :: rest).map (viewOption Quantity.view))) ::
      thresholdFields threshold
  | nearObject id threshold => ("id", id.view) :: thresholdFields threshold
  | nearImage data threshold => ("data", data.view) :: thresholdFields threshold
  | nearMedia kind data threshold =>
    ("kind", .text kind.text) :: ("data", data.view) :: thresholdFields threshold
  | bm25 query properties =>
    [("query", query.view), ("properties", viewOption Phrases.view properties)]
  | hybrid query alpha fusion properties =>
    [("query", query.view), ("alpha", viewOption (·.view) alpha),
      ("fusion_type", viewOption (fun f => .text f.text) fusion),
      ("properties", viewOption Phrases.view properties)]

def view (s : Search) : Datum := .record s.kindName s.fields

/-- Searches that an aggregation can run over. -/
def isAggregable : Search → Bool
  | fetchAll => false
  | fetchById _ => false
  | bm25 .. => false
  | _ => true

def checkFetchById (id : Datum) : Checked Search := (Phrase.check "id" id).map .fetchById

def checkNearVector (vector certainty distance : Datum) : Checked Search := do
  match ← (← itemsOf vector).mapM (optional (Quantity.check "vector component")) with
  | [] => reject .emptyVector
  | q :: qs => return .nearVector q qs (← Threshold.check certainty distance)

def checkNearObject (id certainty distance : Datum) : Checked Search := do
  let p ← Phrase.check "nearObject id" id
  return .nearObject p (← Threshold.check certainty distance)

def checkNearImage (data certainty distance : Datum) : Checked Search := do
  let p ← Phrase.check "nearImage data" data
  return .nearImage p (← Threshold.check certainty distance)

def checkNearMedia (kind data certainty distance : Datum) : Checked Search := do
  let k ← MediaKind.check kind
  let p ← Phrase.check (k.text.content ++ " data") data
  return .nearMedia k p (← Threshold.check certainty distance)

def checkBm25 (query properties : Datum) : Checked Search := do
  let q ← Phrase.check "bm25 query" query
  return .bm25 q (← optional (Phrases.check "bm25 properties") properties)

def checkHybrid (query alpha fusion properties : Datum) : Checked Search := do
  let q ← Phrase.check "hybrid query" query
  let a ← optional (Share.check "alpha") alpha
  let f ← optional FusionType.check fusion
  return .hybrid q a f (← optional (Phrases.check "hybrid properties") properties)

end Search

end VectorQuery
