import VectorQuery.Aggregate.Descriptor
import VectorQuery.Proofs.Query.CallerTexts
import VectorQuery.Query.Arguments
import Mathlib.Tactic.Lemma

/-! Queries whose texts have lost their marks. The texts are those that a document holds as literals; names,
operators and words of a vocabulary are left as they are. -/
namespace VectorQuery

/-- The same characters without a mark. -/
def MarkedText.unmarked (t : MarkedText) : MarkedText := .plain t.content

/-! ### Parts of a query -/

namespace Path

lemma isPath_unmarked {ts : List MarkedText} (h : isPath ts = true) :
    isPath (ts.map MarkedText.unmarked) = true := by
  cases ts with
  | nil => cases h
  | cons t ts =>
    rw [isPath, List.all_map]
    exact h

def unmarked (p : Path) : Path := ⟨p.segments.map MarkedText.unmarked, isPath_unmarked p.valid⟩

end Path

def Phrase.unmarked (p : Phrase) : Phrase := ⟨p.text.unmarked, p.valid⟩

namespace Phrases

def unmarked (ps : Phrases) : Phrases := ⟨ps.head.unmarked, ps.tail.map Phrase.unmarked⟩

@[simp] lemma texts_unmarked (ps : Phrases) :
    ps.unmarked.texts = ps.texts.map MarkedText.unmarked := by
  simp [texts, toList, unmarked, Phrase.unmarked]

end Phrases

def Tenant.unmarked (t : Tenant) : Tenant := ⟨t.text.unmarked, t.nonempty⟩

def Move.unmarked (m : Move) : Move := { m with concepts := m.concepts.unmarked }

namespace Search

def unmarked : Search → Search
  | fetchAll => .fetchAll
  | fetchById id => .fetchById id.unmarked
  | nearText concepts threshold moveTo moveAway =>
    .nearText concepts.unmarked threshold (moveTo.map Move.unmarked) (moveAway.map Move.unmarked)
  | nearVector first rest threshold => .nearVector first rest threshold
  | nearObject id threshold => .nearObject id.unmarked threshold
  | nearImage data threshold => .nearImage data.unmarked threshold
  | nearMedia kind data threshold => .nearMedia kind data.unmarked threshold
  | bm25 query properties => .bm25 query.unmarked (properties.map Phrases.unmarked)
  | hybrid query alpha fusion properties =>
    .hybrid query.unmarked alpha fusion (properties.map Phrases.unmarked)

/-- The texts of the search argument, in order. A fetch by id has none: its id is in the filter. -/
def literalTexts : Search → List MarkedText
  | nearText concepts _ moveTo moveAway =>
    concepts.texts ++ (moveTexts moveTo ++ moveTexts moveAway)
  | nearObject id _ => [id.text]
  | nearImage data _ => [data.text]
  | nearMedia _ data _ => [data.text]
  | bm25 query properties => query.text :: propertyTexts properties
  | hybrid query _ _ properties => query.text :: propertyTexts properties
  | _ => []

end Search

namespace FilterValue

def unmarked : FilterValue → FilterValue
  | text t => .text t.unmarked
  | date (.text t) => .date (.text t.unmarked)
  | textList ts => .textList (ts.map MarkedText.unmarked)
  | x => x

end FilterValue

namespace Predicate

def unmarked (p : Predicate) : Predicate :=
  { p with path := p.path.unmarked, value := p.value.unmarked }

/-- The texts of a condition, in order. -/
def literalTexts (p : Predicate) : List MarkedText := p.path.segments ++ p.value.texts

end Predicate

namespace Filter

mutual

def unmarked : Filter → Filter
  | leaf p => .leaf p.unmarked
  | all first rest => .all (unmarked first) (unmarkedAll rest)
  | any first rest => .any (unmarked first) (unmarkedAll rest)
  | negation operand => .negation (unmarked operand)

def unmarkedAll : List Filter → List Filter
  | [] => []
  | f :: r => unmarked f :: unmarkedAll r

end

/-- The texts of an expression, in order. -/
def literalTexts (f : Filter) : List MarkedText := f.predicates.flatMap Predicate.literalTexts

end Filter

def SortSpec.unmarked (s : SortSpec) : SortSpec := { s with path := s.path.unmarked }

def GroupBySpec.unmarked (g : GroupBySpec) : GroupBySpec := { g with path := g.path.unmarked }

namespace GenerateDirective

/-- The prompt is written as a block string whatever its mark is. -/
def unmarked (g : GenerateDirective) : GenerateDirective :=
  { g with params := { g.params with model := g.params.model.map Phrase.unmarked } }

def literalTexts (g : GenerateDirective) : List MarkedText := g.params.model.toList.map Phrase.text

end GenerateDirective

/-! ### Queries and aggregations -/

namespace QueryDescriptor

def unmarked (q : QueryDescriptor) : QueryDescriptor :=
  { q with
    search := q.search.map Search.unmarked
    filter := q.filter.map Filter.unmarked
    sort := q.sort.map SortSpec.unmarked
    groupBy := q.groupBy.map GroupBySpec.unmarked
    tenant := q.tenant.map Tenant.unmarked
    generate := q.generate.map GenerateDirective.unmarked }

/-- The texts in the arguments of the query, in order. -/
def argumentTexts (q : QueryDescriptor) : List MarkedText :=
  q.effectiveFilter.toList.flatMap Filter.literalTexts ++
    (q.search.toList.flatMap Search.literalTexts ++ (q.sort.flatMap (·.path.segments) ++
    (q.groupBy.toList.flatMap (·.path.segments) ++ q.tenant.toList.map Tenant.text)))

/-- The texts that the document of the query holds as literals, in order. -/
def literalTexts (q : QueryDescriptor) : List MarkedText :=
  q.argumentTexts ++ q.generate.toList.flatMap GenerateDirective.literalTexts

lemma effectiveFilter_unmarked (q : QueryDescriptor) :
    q.unmarked.effectiveFilter = q.effectiveFilter.map Filter.unmarked := by
  obtain ⟨collection, fields, search, filter⟩ := q
  rcases search with _ | s
  · rfl
  · cases s <;> cases filter <;> rfl

end QueryDescriptor

namespace AggregateSearch

def unmarked (s : AggregateSearch) : AggregateSearch where
  search := s.search.unmarked
  aggregable := by
    have hkind : s.search.unmarked.isAggregable = s.search.isAggregable := by
      cases s.search <;> rfl
    rw [hkind]
    exact s.aggregable

end AggregateSearch

namespace AggregateDescriptor

def unmarked (a : AggregateDescriptor) : AggregateDescriptor :=
  { a with
    groupByPath := a.groupByPath.map Path.unmarked
    search := a.search.map AggregateSearch.unmarked
    filter := a.filter.map Filter.unmarked
    tenant := a.tenant.map Tenant.unmarked }

/-- The texts that the document of the aggregation holds as literals, in order. -/
def literalTexts (a : AggregateDescriptor) : List MarkedText :=
  a.filter.toList.flatMap Filter.literalTexts ++
    (a.search.toList.flatMap (·.search.literalTexts) ++
    (a.groupByPath.toList.flatMap Path.segments ++ a.tenant.toList.map Tenant.text))

end AggregateDescriptor

end VectorQuery
