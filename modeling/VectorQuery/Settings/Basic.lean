import VectorQuery.Fault
import VectorQuery.Text.Split
/-! Settings: a tree of data that is read by dotted paths. -/
namespace VectorQuery

/-- A tree of settings. -/
structure Settings where
  data : Datum

namespace Settings

/-- The tree of some data; data that count as false are an empty tree. -/
def ofDatum (d : Datum) : Settings := ⟨d.orElse (.dict [])⟩

/-- The keys that a dotted path names, from the outermost in. -/
def keysOf (path : String) : List String :=
  (Text.splitOn '.' path.toList).map String.ofList

/-- The data below a list of keys. -/
def find? : List String → Datum → Option Datum
  | [], d => some d
  | key :: r, d => (d.get? key).bind (find? r)

/-- The data at a dotted path. -/
def get? (s : Settings) (path : String) : Option Datum := find? (keysOf path) s.data

/-- The data at a dotted path, or a default where the path leads nowhere. -/
def get (s : Settings) (path : String) (default : Datum) : Datum := (s.get? path).getD default

/-- The entries of a section; an absent or empty one has none. -/
def entriesOf (d : Datum) : Checked Datum.Entries :=
  match d.orElse (.dict []) with
  | .dict es => .ok es
  | _ => .error .noAttribute

/-- The entries of the section at a path. -/
def entries (s : Settings) (path : String) : Checked Datum.Entries :=
  entriesOf (s.get path (.dict []))

/-- The value of a setting, or a default where the section does not mention it. -/
def setting (es : Datum.Entries) (key : String) (default : Datum) : Datum :=
  (Datum.lookup key es).getD default

end Settings

end VectorQuery
