import VectorQuery.Proofs.Filter.WhereTree

/-! The truth of filter expressions. A `where` argument is read as a formula over its conditions; the formula
that an expression is compiled to is true exactly when the expression is, whatever its conditions are. -/
namespace VectorQuery
open GraphQL

namespace Filter

mutual

/-- Whether an expression is true, given the truth of each condition. -/
def holds (truth : Predicate → Bool) : Filter → Bool
  | leaf p => truth p
  | all first rest => holds truth first && allHold truth rest
  | any first rest => holds truth first || anyHolds truth rest
  | negation operand => !holds truth operand

def allHold (truth : Predicate → Bool) : List Filter → Bool
  | [] => true
  | f :: r => holds truth f && allHold truth r

def anyHolds (truth : Predicate → Bool) : List Filter → Bool
  | [] => false
  | f :: r => holds truth f || anyHolds truth r

end

variable (truth : Predicate → Bool)

lemma allHold_eq_all (fs : List Filter) : allHold truth fs = fs.all (holds truth) := by
  induction fs with
  | nil => rfl
  | cons f r ih => rw [allHold, ih, List.all_cons]

lemma anyHolds_eq_any (fs : List Filter) : anyHolds truth fs = fs.any (holds truth) := by
  induction fs with
  | nil => rfl
  | cons f r ih => rw [anyHolds, ih, List.any_cons]

end Filter

/-- Conjunction, disjunction and negation; a negation is one of a single operand. -/
def CombinatorKind.truth? : CombinatorKind → List Bool → Option Bool
  | .and, bs => some (bs.all id)
  | .or, bs => some (bs.any id)
  | .not, [b] => some !b
  | .not, _ => none

namespace WhereFormula

mutual

/-- Whether a `where` argument is true as a formula, given the truth of each condition in it: an operator
with operands is a combination, and a path with an operator and a value is a condition. -/
def holds? (truth : Value → Bool) : Value → Option Bool
  | .object [("operator", .enum name), ("operands", .list vs)] => do
    let kind ← CombinatorKind.ofWireName? name
    let bs ← truths? truth vs
    kind.truth? bs
  | .object [("path", path), ("operator", .enum name), (field, payload)] =>
    some (truth (.object [("path", path), ("operator", .enum name), (field, payload)]))
  | _ => none

def truths? (truth : Value → Bool) : List Value → Option (List Bool)
  | [] => some []
  | v :: r => do
    let b ← holds? truth v
    let bs ← truths? truth r
    pure (b :: bs)

end

variable {truth : Value → Bool}

/-- The truth of a condition is that of its form on the wire. -/
def onWire (truth : Value → Bool) (p : Predicate) : Bool := truth (Filter.predicateWire p).value

lemma holds?_combinatorWire {vs : List Value} {bs : List Bool} (kind : CombinatorKind)
    (h : truths? truth vs = some bs) :
    holds? truth (Filter.combinatorWire kind vs) = kind.truth? bs := by
  simp [Filter.combinatorWire, holds?, h]

lemma truths?_cons {v : Value} {vs : List Value} {b : Bool} {bs : List Bool}
    (hv : holds? truth v = some b) (hvs : truths? truth vs = some bs) :
    truths? truth (v :: vs) = some (b :: bs) := by
  rw [truths?, hv, hvs]
  rfl

mutual

theorem holds?_compile (truth : Value → Bool) :
    ∀ f : Filter, holds? truth f.compile.value = some (f.holds (onWire truth))
  | .leaf _ => rfl
  | .all first rest => by
    have hoperands := truths?_cons (holds?_compile truth first) (truths?_compileAll truth rest)
    refine (holds?_combinatorWire .and hoperands).trans ?_
    rw [Filter.holds, Filter.allHold_eq_all, CombinatorKind.truth?, List.all_cons, List.all_map]
    rfl
  | .any first rest => by
    have hoperands := truths?_cons (holds?_compile truth first) (truths?_compileAll truth rest)
    refine (holds?_combinatorWire .or hoperands).trans ?_
    rw [Filter.holds, Filter.anyHolds_eq_any, CombinatorKind.truth?, List.any_cons, List.any_map]
    rfl
  | .negation operand => by
    have hrest : truths? truth [] = some [] := rfl
    exact holds?_combinatorWire .not (truths?_cons (holds?_compile truth operand) hrest)

theorem truths?_compileAll (truth : Value → Bool) : ∀ fs : List Filter,
    truths? truth (Filter.compileAll fs).value = some (fs.map (Filter.holds (onWire truth)))
  | [] => rfl
  | f :: r => truths?_cons (holds?_compile truth f) (truths?_compileAll truth r)

end

end WhereFormula

end VectorQuery
