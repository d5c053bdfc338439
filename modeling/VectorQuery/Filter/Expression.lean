import VectorQuery.Filter.FilterValue
import VectorQuery.Filter.OperatorSymbol
/-! Filter expressions: conditions, and their combinations by and, or and not. -/
namespace VectorQuery

/-- One condition on a property. -/
structure Predicate where
  path : Path
  operator : OperatorSymbol
  value : FilterValue

namespace Predicate

def view (p : Predicate) : Datum :=
  .record "Predicate" [("path", p.path.view), ("operator", p.operator.view), ("value", p.value.view)]

end Predicate

/-- A filter expression. All and any combine one expression or more, a negation exactly one. -/
inductive Filter
  | leaf (p : Predicate)
  | all (first : Filter) (rest : List Filter)
  | any (first : Filter) (rest : List Filter)
  | negation (operand : Filter)

namespace Filter

/-- The view of a combination. -/
def combinatorView (kind : CombinatorKind) (operands : List Datum) : Datum :=
  .record "Combinator" [("kind", .text (.word (.combinator kind))), ("operands", .tuple operands)]

mutual

def view : Filter → Datum
  | leaf p => p.view
  | all first rest => combinatorView .and (first.view :: views rest)
  | any first rest => combinatorView .or (first.view :: views rest)
  | negation operand => combinatorView .not [operand.view]

def views : List Filter → List Datum
  | [] => []
  | f :: r => f.view :: views r

end

/-- The value as a combinator. -/
def checkKind (d : Datum) : Checked CombinatorKind :=
  match d.text?.bind fun t => CombinatorKind.ofSymbol? t.content with
  | some k => .ok k
  | none => reject (.combinator d)

/-- The combination of operands by a combinator. -/
def combine (kind : CombinatorKind) (operands : List Filter) : Checked Filter :=
  match kind, operands with
  | .not, [f] => .ok (.negation f)
  | .not, fs => reject (.notArity fs.length)
  | .and, f :: fs => .ok (.all f fs)
  | .or, f :: fs => .ok (.any f fs)
  | k, [] => reject (.noOperands k)

end Filter

end VectorQuery
