import VectorQuery.Query.Descriptor

/-! The texts that a caller puts into a query, each with the mark it was given. -/
namespace VectorQuery

/-- Text without a mark. -/
def MarkedText.isPlain : MarkedText → Bool
  | plain _ => true
  | _ => false

namespace Search

def moveTexts (m : Option Move) : List MarkedText := m.toList.flatMap (·.concepts.texts)

def propertyTexts (ps : Option Phrases) : List MarkedText := ps.toList.flatMap Phrases.texts

def texts : Search → List MarkedText
  | fetchAll => []
  | fetchById id => [id.text]
  | nearText concepts _ moveTo moveAway =>
    concepts.texts ++ (moveTexts moveTo ++ moveTexts moveAway)
  | nearVector .. => []
  | nearObject id _ => [id.text]
  | nearImage data _ => [data.text]
  | nearMedia kind data _ => [kind.text, data.text]
  | bm25 query properties => query.text :: propertyTexts properties
  | hybrid query _ fusion properties =>
    query.text :: ((fusion.toList.map (·.text)) ++ propertyTexts properties)

end Search

namespace FilterValue

def texts : FilterValue → List MarkedText
  | text t => [t]
  | date (.text t) => [t]
  | textList ts => ts
  | _ => []

end FilterValue

/-- The text of an operator outside the table. -/
def OperatorSymbol.texts : OperatorSymbol → List MarkedText
  | known _ => []
  | other t _ => [t]

def Predicate.texts (p : Predicate) : List MarkedText :=
  p.path.segments ++ (p.operator.texts ++ p.value.texts)

namespace Filter

mutual

/-- The conditions of an expression, from left to right. -/
def predicates : Filter → List Predicate
  | leaf p => [p]
  | all first rest => predicates first ++ predicatesAll rest
  | any first rest => predicates first ++ predicatesAll rest
  | negation operand => predicates operand

def predicatesAll : List Filter → List Predicate
  | [] => []
  | f :: r => predicates f ++ predicatesAll r

end

end Filter

def GenerateDirective.texts (g : GenerateDirective) : List MarkedText :=
  g.prompt.text :: g.provider.text ::
    (g.params.model.toList.map Phrase.text ++ g.explicitProperties.map Name.text)

namespace QueryDescriptor

/-- Every text of the caller in a query. -/
def texts (q : QueryDescriptor) : List MarkedText :=
  q.collection.text :: (q.fields.map FieldText.text ++ (q.search.toList.flatMap Search.texts ++
    ((q.filter.toList.flatMap Filter.predicates).flatMap Predicate.texts ++
    (q.sort.flatMap (·.path.segments) ++ (q.groupBy.toList.flatMap (·.path.segments) ++
    (q.additionalFields.map Name.text ++ (q.consistencyLevel.toList.map ConsistencyLevel.text ++
    (q.tenant.toList.map Tenant.text ++ q.generate.toList.flatMap GenerateDirective.texts))))))))

/-- The texts that are checked to be names or to become one. -/
def nameTexts (q : QueryDescriptor) : List MarkedText :=
  q.collection.text :: (q.additionalFields.map Name.text ++
    (q.generate.toList.flatMap (·.explicitProperties.map Name.text) ++
    (q.filter.toList.flatMap Filter.predicates).flatMap (·.operator.texts)))

end QueryDescriptor

end VectorQuery
