import VectorQuery.Filter.Expression
/-! The `where` argument of a filter expression, and its text. -/
namespace VectorQuery

namespace Filter
open GraphQL (Value)

/-- The wire form of a condition. -/
def predicateWire (p : Predicate) : Noted Value :=
  let name := p.operator.wireName
  ⟨.object [("path", .ofTexts p.path.segments), ("operator", .enum name.value),
    (p.value.wireField, p.value.wire)], name.notices⟩

/-- The wire form of a combination. -/
def combinatorWire (kind : CombinatorKind) (operands : List Value) : Value :=
  .object [("operator", .enum kind.wireName), ("operands", .list operands)]

mutual

/-- The wire form of an expression; operands keep their order and nesting. -/
def compile : Filter → Noted Value
  | leaf p => predicateWire p
  | all first rest =>
    let x := compile first
    let xs := compileAll rest
    ⟨combinatorWire .and (x.value :: xs.value), x.notices ++ xs.notices⟩
  | any first rest =>
    let x := compile first
    let xs := compileAll rest
    ⟨combinatorWire .or (x.value :: xs.value), x.notices ++ xs.notices⟩
  | negation operand => (compile operand).map fun v => combinatorWire .not [v]

def compileAll : List Filter → Noted (List Value)
  | [] => .quiet []
  | f :: r =>
    let x := compile f
    let xs := compileAll r
    ⟨x.value :: xs.value, x.notices ++ xs.notices⟩

end

/-- The text of the `where` argument. -/
def renderWhere (f : Filter) : String := f.compile.value.render

end Filter

end VectorQuery
