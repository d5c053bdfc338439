import VectorQuery.Yaml.Tag
/-! Nodes and how they contain each other. Nodes are known by number, so that one node can be in many
places, and inside itself as well. -/
namespace VectorQuery.Yaml

/-- What a node holds; other nodes by their numbers. -/
inductive Content
  | scalar (text : List Char)
  | sequence (items : List Nat)
  | mapping (entries : List (Nat × Nat))

structure Node where
  tag : Tag
  content : Content

/-- Nodes by number. -/
abbrev Graph := Array Node

namespace Graph

/-- The tag of a node; a number without a node has none that data have. -/
def tagOf (g : Graph) (n : Nat) : Tag := (g[n]?.map Node.tag).getD .unknown

def contentOf (g : Graph) (n : Nat) : Content := (g[n]?.map Node.content).getD (.sequence [])

/-- The entries of a mapping; other nodes have none. -/
def entriesOf (g : Graph) (n : Nat) : List (Nat × Nat) :=
  match g.contentOf n with
  | .mapping es => es
  | _ => []

/-- With the entries of a mapping replaced. -/
def setEntries (g : Graph) (n : Nat) (es : List (Nat × Nat)) : Graph :=
  g.modify n fun node => { node with content := .mapping es }

/-- With the tag of a node replaced. -/
def setTag (g : Graph) (n : Nat) (tag : Tag) : Graph := g.modify n fun node => { node with tag }

end Graph

end VectorQuery.Yaml
