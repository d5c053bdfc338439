import VectorQuery.Term.Basic
/-! Filter expressions from callers' values. -/
namespace VectorQuery

namespace Predicate

/-- A condition on a path; the value has to be one of the typed values. -/
def check (path operator : Datum) (value : Term) : Checked Predicate := do
  let p ← Path.check path
  let o ← OperatorSymbol.check operator
  match value with
  | .object (.value v) => pure ⟨p, o, v⟩
  | t => reject (.untypedValue t.view.kindName)

end Predicate

namespace Filter

/-- An operand is a filter expression itself. -/
def checkOperand : Term → Checked Filter
  | .object (.filter f) => .ok f
  | t => reject (.mustBe "Combinator operand" .filter t.view)

/-- A combination of operands. -/
def checkCombinator (kind : Datum) (operands : Term) : Checked Filter := do
  let k ← checkKind kind
  let fs ← (← operands.itemsOf).mapM checkOperand
  combine k fs

/-- A condition as an expression. -/
def checkLeaf (path operator : Datum) (value : Term) : Checked Filter :=
  (Predicate.check path operator value).map leaf

/-- A known operator as a caller's value. -/
def operatorDatum (o : Operator) : Datum := .text (.word (.operator o))

/-- A condition with a known operator. -/
def condition (o : Operator) (path : Datum) (value : Term) : Checked Filter :=
  checkLeaf path (operatorDatum o) value

/-- A value that was just checked, as a caller's value. -/
def typed (v : FilterValue) : Term := .object (.value v)

/-- A condition on the object's own id. -/
def byId (operator id : Datum) : Checked Filter := do
  let v ← FilterValue.checkText id
  checkLeaf (.tuple [.str "id"]) operator (typed v)

/-- A condition on a property of a referenced object. -/
def byRef (reference collection property operator : Datum) (value : Term) : Checked Filter :=
  checkLeaf (.tuple [reference, collection, property]) operator value

/-- A match by wildcards. -/
def like (path pattern : Datum) : Checked Filter := do
  let v ← FilterValue.checkText pattern
  condition .like path (typed v)

/-- Whether a property is missing. -/
def isNull (path null : Datum) : Checked Filter := do
  let v ← FilterValue.checkBoolean null
  condition .isNull path (typed v)

/-- Whether a place lies in a circle. -/
def withinGeoRange (path latitude longitude distance : Datum) : Checked Filter := do
  let v ← FilterValue.checkGeoRange latitude longitude distance
  condition .withinGeoRange path (typed v)

/-- All operands match. -/
def allOf (operands : List Term) : Checked Filter :=
  checkCombinator (.text (.word (.combinator .and))) (.tuple operands)

/-- At least one operand matches. -/
def anyOf (operands : List Term) : Checked Filter :=
  checkCombinator (.text (.word (.combinator .or))) (.tuple operands)

/-- The operand does not match. -/
def notOf (operand : Term) : Checked Filter :=
  checkCombinator (.text (.word (.combinator .not))) (.tuple [operand])

end Filter

end VectorQuery
