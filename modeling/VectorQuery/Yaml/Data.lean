import VectorQuery.Datum.Equality
import VectorQuery.Yaml.Document
import VectorQuery.Yaml.Layout
import VectorQuery.Yaml.Merge
import VectorQuery.Yaml.Scalar
/-! The data that a text writes: from the text to its tokens, to the nodes of its one document, and to the data of
these nodes. Nodes are looked at level by level: first the root, then what it
contains, and so on, so that of several faults the one nearest to the root counts. -/
namespace VectorQuery.Yaml

/-- The data of one node; those of the nodes that it contains are known by the numbers of these. -/
inductive Shape
  | datum (d : Datum)
  | list (items : List Nat)
  | pairs (items : List (Nat × Nat))
  | dict (entries : List (Datum × Nat))
  | set (keys : List Datum)

namespace Shape

/-- Data that can be a key; the others contain nodes. -/
def key? : Shape → Option Datum
  | .datum d => some d
  | _ => none

end Shape

/-- Keys that are one key. What is no number is one value here, and equal to itself as a key. -/
def sameKey (a b : Datum) : Bool :=
  match a, b with
  | .float .nan, .float .nan => true
  | a, b => a.same b

/-- Entries with one set: in place when its key is there already, else at the end. -/
def setShapeEntry (key : Datum) (value : Nat) : List (Datum × Nat) → List (Datum × Nat)
  | [] => [(key, value)]
  | (k, v) :: r =>
    if sameKey k key then (k, value) :: r else (k, v) :: setShapeEntry key value r

/-- Nodes and the shapes of those that are looked at. -/
structure Survey where
  nodes : Graph
  shapes : Array (Option Shape)
  /-- the containers to look into next, the last one first -/
  waiting : List Nat

abbrev Surveying := StateT Survey Checked

/-- The text of a node under the tag of a scalar: its own, or that of the value that stands for it. -/
def scalarText (g : Graph) : (fuel n : Nat) → Checked (List Char)
  | 0, _ => .error .tooDeep
  | fuel + 1, n =>
    match g.contentOf n with
    | .scalar text => .ok text
    | .sequence _ => .error .malformedYaml
    | .mapping es =>
      match es.find? fun (k, _) => g.tagOf k = .value with
      | some (_, v) => scalarText g fuel v
      | none => .error .malformedYaml

/-- The data of a node under the tag of a scalar. -/
def datumOf (g : Graph) (n : Nat) : Checked Datum := do
  let tag := g.tagOf n
  if !tag.isScalar then .error .malformedYaml
  else
    let text ← scalarText g (g.size + 1) n
    match tag, g.contentOf n with
    | .timestamp, .mapping _ => .error .wrongType
    | tag, _ => scalarDatum tag text

namespace Surveying

def setShape (n : Nat) (s : Shape) : Surveying Unit :=
  modify fun v => { v with shapes := v.shapes.setIfInBounds n (some s) }

/-- Looks at a node: at the data of a scalar, or that a container is to be looked into. -/
def visit (n : Nat) : Surveying Unit := do
  let v ← get
  match v.shapes[n]? with
  | some (some _) => return
  | _ =>
    let container (s : Shape) : Surveying Unit := do
      setShape n s
      modify fun v => { v with waiting := n :: v.waiting }
    match v.nodes.tagOf n with
    | .seq => container (.list [])
    | .pairs => container (.pairs [])
    | .map => container (.dict [])
    | .set => container (.set [])
    | _ => setShape n (.datum (← datumOf v.nodes n))

/-- Looks at the two nodes of the only entry of a mapping. -/
def visitPair (n : Nat) : Surveying (Nat × Nat) := do
  match (← get).nodes.contentOf n with
  | .mapping [(k, v)] =>
    visit k
    visit v
    return (k, v)
  | _ => throw .malformedYaml

/-- Looks at the key and the value of an entry; gives the key. -/
def visitEntry (e : Nat × Nat) : Surveying (Datum × Nat) := do
  visit e.1
  match (((← get).shapes[e.1]?).join).bind Shape.key? with
  | none => throw .malformedYaml
  | some key =>
    visit e.2
    return (key, e.2)

/-- The entries of a mapping with its merge keys resolved; of entries with one key the last counts. -/
def visitMapping (n : Nat) : Surveying (List (Datum × Nat)) := do
  let v ← get
  match v.nodes.contentOf n with
  | .mapping _ =>
    let g ← v.nodes.merged n
    set { v with nodes := g }
    let es ← (g.entriesOf n).mapM visitEntry
    return es.foldl (fun done (key, value) => setShapeEntry key value done) []
  | _ => throw .malformedYaml

/-- Looks into a container. -/
def visitInside (n : Nat) : Surveying Unit := do
  let g := (← get).nodes
  match g.tagOf n, g.contentOf n with
  | .seq, .sequence items =>
    items.forM visit
    setShape n (.list items)
  | .pairs, .sequence items => do setShape n (.pairs (← items.mapM visitPair))
  | .map, _ => do setShape n (.dict (← visitMapping n))
  | .set, _ => do setShape n (.set ((← visitMapping n).map Prod.fst))
  | _, _ => throw .malformedYaml

/-- Looks into the containers that wait, and then into those inside them. -/
def visitLevels : (fuel : Nat) → Surveying Unit
  | 0 => return
  | fuel + 1 => do
    match (← get).waiting with
    | [] => return
    | waiting =>
      modify fun v => { v with waiting := [] }
      waiting.reverse.forM visitInside
      visitLevels fuel

end Surveying

/-- The data of a node whose shapes are known, nested less deeply than a bound. -/
def datumOfShapes (shapes : Array (Option Shape)) : (bound n : Nat) → Checked Datum
  | 0, _ => .error .tooDeep
  | bound + 1, n =>
    match (shapes[n]?).join with
    | none => .error .malformedYaml
    | some (.datum d) => .ok d
    | some (.list items) => (items.mapM (datumOfShapes shapes bound)).map .list
    | some (.pairs items) => do
      let ds ← items.mapM fun (k, v) => do
        return Datum.tuple [← datumOfShapes shapes bound k, ← datumOfShapes shapes bound v]
      return .list ds
    | some (.dict entries) => do
      let es ← entries.mapM fun (k, v) => do return (k, ← datumOfShapes shapes bound v)
      return .dict es
    | some (.set keys) => .ok (.set keys)

/-- The data of a node. Each node has data, and there is one level of them per node at most; data
inside themselves are refused. -/
def Graph.datum (g : Graph) (root : Nat) : Checked Datum := do
  let survey : Surveying Unit := do
    Surveying.visit root
    Surveying.visitLevels (g.size + 1)
  let ((), v) ← survey.run ⟨g, Array.replicate g.size none, []⟩
  datumOfShapes v.shapes (g.size + 1) root

/-- Characters that a text may hold. -/
def isAllowed (c : Char) : Bool :=
  let n := c.toNat
  n == 9 || n == 10 || n == 13 || (0x20 ≤ n && n ≤ 0x7e) || n == 0x85 ||
    (0xa0 ≤ n && n ≤ 0xd7ff) || (0xe000 ≤ n && n ≤ 0xfffd) || 0x10000 ≤ n

/-- The text with carriage returns, alone or before a line feed, as line feeds. -/
def unixLines : List Char → List Char
  | [] => []
  | '\r' :: '\n' :: r => '\n' :: unixLines r
  | '\r' :: r => '\n' :: unixLines r
  | c :: r => c :: unixLines r

/-- The data of a text; a text without a document has none. -/
def read (text : List Char) : Checked Datum := do
  let s := unixLines text
  if !s.all isAllowed then malformed
  else
    let (root, g) ← nodesOf (tokens s)
    match root with
    | none => pure .none
    | some n => g.datum n

end VectorQuery.Yaml
