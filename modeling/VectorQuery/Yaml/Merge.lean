import VectorQuery.Fault
import VectorQuery.Yaml.Graph
/-! Entries that a mapping takes over from others: a merge key has a mapping as its value, or a sequence
of mappings, and their entries come before those of the mapping itself. -/
namespace VectorQuery.Yaml

abbrev Merging := StateT Graph Checked

mutual

/-- Resolves the merge keys of a mapping, and gives the mapping all entries that it then has. -/
def resolveMerges : (fuel n : Nat) → Merging Unit
  | 0, _ => throw .tooDeep
  | fuel + 1, n => do
    let merged ← takeMerges fuel n 0
    modify fun g => g.setEntries n (merged ++ g.entriesOf n)

/-- Takes the merge keys from the entries of a mapping, from the one at an index on, and gives the
entries that they bring; of the mappings in a sequence the last one comes first. A key that stands for
its mapping is text from here on. -/
def takeMerges : (fuel n index : Nat) → Merging (List (Nat × Nat))
  | 0, _, _ => throw .tooDeep
  | fuel + 1, n, index => do
    match ((← get).entriesOf n).drop index with
    | [] => return []
    | (k, v) :: _ =>
      match (← get).tagOf k with
      | .merge =>
        modify fun g => g.setEntries n ((g.entriesOf n).eraseIdx index)
        let brought (source : Nat) : Merging (List (Nat × Nat)) := do
          match (← get).contentOf source with
          | .mapping _ =>
            resolveMerges fuel source
            return (← get).entriesOf source
          | _ => throw .malformedYaml
        let sources ← match (← get).contentOf v with
          | .sequence items => items.mapM brought
          | _ => do pure [← brought v]
        return sources.reverse.flatten ++ (← takeMerges fuel n index)
      | .value =>
        modify fun g => g.setTag k .str
        takeMerges fuel n (index + 1)
      | _ => takeMerges fuel n (index + 1)

end

namespace Graph

/-- The number of nodes and entries. -/
def extent (g : Graph) : Nat := (g.toList.map fun node => 1 + match node.content with
    | .mapping es => es.length
    | _ => 0).foldl (· + ·) 0

/-- The graph with the merge keys of a mapping resolved. As a mapping is copied into others its entries
become more, so that the square of the extent is taken as the bound. -/
def merged (g : Graph) (n : Nat) : Checked Graph := do
  let ((), g) ← (resolveMerges ((g.extent + 1) * (g.extent + 1)) n).run g
  return g

end Graph

end VectorQuery.Yaml
