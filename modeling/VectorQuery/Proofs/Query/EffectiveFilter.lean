import VectorQuery.Proofs.Filter.Truth
import VectorQuery.Proofs.Query.ArgumentOrder

/-! What the `where` argument of a query means. For a fetch by id it is the condition on the id together with the
query's own filter, whatever combination that is; for any other query it is the filter. -/
namespace VectorQuery
open GraphQL WhereFormula

/-- The condition on the wire that the id of an object is a text. -/
def idCondition (id : MarkedText) : Value :=
  .object [("path", .list [.string "id"]), ("operator", .enum "Equal"), ("valueText", .ofText id)]

namespace QueryDescriptor

variable {q : QueryDescriptor} {id : Phrase}

lemma holds_idFilter (truth : Value → Bool) :
    (idFilter id).holds (onWire truth) = truth (idCondition id.text) := rfl

lemma effectiveFilter_of_fetchById (h : q.search = some (.fetchById id)) :
    q.effectiveFilter = some (match q.filter with
      | none => idFilter id
      | some f => .all (idFilter id) [f]) := by
  rw [effectiveFilter, h]
  cases q.filter <;> rfl

lemma effectiveFilter_of_not_fetchById (h : ∀ id, q.search ≠ some (.fetchById id)) :
    q.effectiveFilter = q.filter := by
  unfold effectiveFilter
  split
  · rename_i id hs _
    exact absurd hs (h id)
  · rename_i id _ hs _
    exact absurd hs (h id)
  · rfl

lemma holds?_whereValue {f : Filter} (h : q.effectiveFilter = some f) (truth : Value → Bool) :
    q.whereValue.bind (holds? truth) = some (f.holds (onWire truth)) := by
  rw [whereValue, h, Option.map_some, Option.bind_some, holds?_compile]

/-- A fetch by id has no argument but those of a query without a search. -/
lemma exists_arguments_of_fetchById (h : q.search = some (.fetchById id)) (c : RendererConfig) :
    ∃ fs, q.arguments c = .ok fs ∧ (fs.map Prod.fst).Sublist (argumentOrder none) := by
  have hsearch : q.searchArgument = .ok [] := by
    rw [searchArgument, h]
    rfl
  obtain ⟨fs, hfs⟩ : ∃ fs, q.arguments c = .ok fs := ⟨_, by rw [arguments, hsearch]; rfl⟩
  refine ⟨fs, hfs, ?_⟩
  have hnames : (q.clauses c).map Prod.fst = argumentOrder none := by
    simp [clauses, argumentOrder, h, Search.argumentName?]
  rw [names_arguments hfs, ← hnames]
  exact List.filter_sublist.map _

/-- The meaning of the `where` argument under an assignment of truth values to conditions. -/
structure FilterMeaning (q : QueryDescriptor) (truth : Value → Bool) : Prop where
  /-- A fetch by id asks for the id and for what the filter asks, which is nothing where there is none. -/
  fetchById : ∀ id, q.search = some (.fetchById id) →
    q.whereValue.bind (holds? truth) =
      some (truth (idCondition id.text) && q.filter.all (Filter.holds (onWire truth)))
  /-- A fetch by id has no search argument. -/
  noSearch : ∀ id, q.search = some (.fetchById id) → ∀ c, ∃ fs, q.arguments c = .ok fs ∧
    (fs.map Prod.fst).Sublist (argumentOrder none)
  /-- Every other query has a `where` argument exactly when it has a filter, and the argument means the filter. -/
  absent : (∀ id, q.search ≠ some (.fetchById id)) → (q.whereValue = none ↔ q.filter = none)
  filter : (∀ id, q.search ≠ some (.fetchById id)) → ∀ f, q.filter = some f →
    q.whereValue.bind (holds? truth) = some (f.holds (onWire truth))

theorem filterMeaning (q : QueryDescriptor) (truth : Value → Bool) : q.FilterMeaning truth where
  fetchById id h := by
    rw [holds?_whereValue (effectiveFilter_of_fetchById h)]
    cases q.filter with
    | none => rw [holds_idFilter, Option.all_none, Bool.and_true]
    | some f =>
      rw [Filter.holds, Filter.allHold, Filter.allHold, Bool.and_true, holds_idFilter, Option.all_some]
  noSearch id h c := exists_arguments_of_fetchById h c
  absent h := by rw [whereValue, Option.map_eq_none_iff, effectiveFilter_of_not_fetchById h]
  filter h f hf := holds?_whereValue ((effectiveFilter_of_not_fetchById h).trans hf) truth

/-- Conditions on the id are true, and all others are false. -/
def idOnly : Value → Bool
  | .object (("path", .list [.string "id"]) :: _) => true
  | _ => false

/-- A track by its id, if it is short or not live. -/
def track : QueryDescriptor where
  collection := ⟨.plain "Track", by decide⟩
  fields := []
  search := some (.fetchById ⟨.plain "7", by decide⟩)
  filter := some (.any (.leaf ⟨⟨[.plain "seconds"], by decide⟩, .known .lessThan, .integer 60⟩)
    [.negation (.leaf ⟨⟨[.plain "live"], by decide⟩, .known .equal, .boolean true⟩)])
  limit := none
  offset := none
  sort := []
  groupBy := none
  autocut := none
  additionalFields := []
  consistencyLevel := none
  tenant := none
  generate := none

/-- The disjunction stays below the conjunction: without the id, the whole is false. -/
theorem filterMeaning_track : track.search = some (.fetchById ⟨.plain "7", by decide⟩) ∧
    track.whereValue.bind (holds? idOnly) = some true ∧
    track.whereValue.bind (holds? fun v => !idOnly v) = some false := by
  have hsearch : track.search = some (.fetchById ⟨.plain "7", by decide⟩) := rfl
  exact ⟨hsearch, (filterMeaning track idOnly).fetchById _ hsearch,
    (filterMeaning track fun v => !idOnly v).fetchById _ hsearch⟩

end QueryDescriptor

end VectorQuery
