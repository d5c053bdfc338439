import VectorQuery.CommandLine.Arguments
import VectorQuery.Query.Builder
import VectorQuery.Term.Filter
/-! The query that a command line describes. -/
namespace VectorQuery.CommandLine

/-- A search text that is given and not empty. -/
def searchText? : Option (Given String) → Option Datum
  | some (.value s) => if s.isEmpty then none else some (.str s)
  | _ => none

namespace Arguments

/-- The call that sets the search, if there is one: the first of the three that has a text. -/
def searchCall? (a : Arguments) : Option QueryCall :=
  match searchText? a.nearText, searchText? a.bm25, searchText? a.hybrid with
  | some concept, _, _ =>
    some (.nearText concept (Given.datum? .float a.certainty) .none .none .none)
  | none, some query, _ => some (.bm25 query .none)
  | none, none, some query => some (.hybrid query (Given.datum? .float a.alpha) .none .none)
  | none, none, none => none

/-- The condition that a property and a value with an equals sign between them stand for. -/
def condition : Given String → Checked Filter
  | .nothing => .error .noAttribute
  | .value item =>
    match cutValue item.toList with
    | (_, none) => .error (.badCondition item)
    | (property, some value) => do
      let v ← FilterValue.checkText (.str value)
      Filter.condition .equal (.str property) (Filter.typed v)

/-- The call that sets the filter, if there are conditions: all of them have to hold. -/
def filterCall? (a : Arguments) : Checked (Option QueryCall) := do
  match ← a.whereEqual.mapM condition with
  | [] => pure none
  | [f] => pure (some (.withFilter (.object (.filter f))))
  | fs =>
    let f ← Filter.allOf (fs.map fun f => .object (.filter f))
    pure (some (.withFilter (.object (.filter f))))

/-- A query after calls in order. -/
def applyAll (q : QueryDescriptor) (calls : List QueryCall) : Checked QueryDescriptor :=
  calls.foldlM QueryDescriptor.apply q

/-- The query that the command line describes. -/
def descriptor (a : Arguments) : Checked QueryDescriptor := do
  let q ← QueryDescriptor.get (.data (a.collection.datum .str))
  let q ← applyAll q (.withFields (a.fields.map Term.str) :: a.searchCall?.toList)
  let filter? ← a.filterCall?
  applyAll q (filter?.toList ++ [.withLimit (.data (Given.datum? .int a.limit)),
    .withOffset (.data (Given.datum? .int a.offset)),
    .withAdditionalFields (a.additional.map Term.str)])

end Arguments

end VectorQuery.CommandLine
