import VectorQuery.Filter.Where
import VectorQuery.Proofs.Query.ArgumentValues

/-! The `where` argument read back. The text of an expression gives its tree again: combinations with their
operands, conditions with path, operator and value. Compiling warns of the operators outside the table, once
for each condition and from left to right. -/
namespace VectorQuery
open GraphQL

namespace FilterValue

/-- What kind of value a condition has. -/
inductive Variant
  | text | integer | number | boolean | date
  | textList | integerList | numberList | booleanList | geoRange
  deriving DecidableEq

def variant : FilterValue → Variant
  | text _ => .text
  | integer _ => .integer
  | number _ => .number
  | boolean _ => .boolean
  | date _ => .date
  | textList _ => .textList
  | integerList _ => .integerList
  | numberList _ => .numberList
  | booleanList _ => .booleanList
  | geoRange .. => .geoRange

/-- The variant that a field of the argument stands for. -/
def Variant.ofField? (field : String) : Option Variant :=
  [("valueText", text), ("valueInt", integer), ("valueNumber", number), ("valueBoolean", boolean),
    ("valueDate", date), ("valueTextArray", textList), ("valueIntArray", integerList),
    ("valueNumberArray", numberList), ("valueBooleanArray", booleanList),
    ("valueGeoRange", geoRange)].lookup field

/-- No two variants share a field. -/
lemma ofField?_wireField (x : FilterValue) : Variant.ofField? x.wireField = some x.variant := by
  cases x <;> rfl

end FilterValue

/-! ### Names

What an argument calls its combinations and operators, by tables of their own: a reader of the argument knows these
names without knowing who wrote it. -/

/-- The combination that a name stands for. -/
def CombinatorKind.ofWireName? (s : String) : Option CombinatorKind :=
  [("And", and), ("Or", or), ("Not", not)].lookup s

@[simp] lemma CombinatorKind.ofWireName?_wireName (k : CombinatorKind) :
    ofWireName? k.wireName = some k := by
  cases k <;> rfl

/-- Camel case in one pass: an underscore is left out, and the letter behind it is raised, as the first one is. -/
def camelCase (raise : Bool) : List Char → List Char
  | [] => []
  | c :: r =>
    if c = '_' then camelCase true r
    else if raise then Text.upperChar c ++ camelCase false r
    else c :: camelCase false r

lemma camelCase_of_splitOn {s p : List Char} {ps : List (List Char)} (h : Text.splitOn '_' s = p :: ps) :
    camelCase true s = capitalize p ++ ps.flatMap capitalize ∧
      camelCase false s = p ++ ps.flatMap capitalize := by
  induction s generalizing p ps with
  | nil =>
    obtain ⟨rfl, rfl⟩ : [] = p ∧ [] = ps := by simpa [Text.splitOn] using h
    exact ⟨rfl, rfl⟩
  | cons c r ih =>
    obtain ⟨q, qs, hq⟩ := List.exists_cons_of_ne_nil (Text.splitOn_ne_nil '_' r)
    obtain ⟨hraised, hkept⟩ := ih hq
    rw [Text.splitOn, hq] at h
    by_cases hc : c = '_'
    · obtain ⟨rfl, rfl⟩ : [] = p ∧ q :: qs = ps := by simpa [hc] using h
      simp [camelCase, hc, hraised, capitalize]
    · obtain ⟨rfl, rfl⟩ : c :: q = p ∧ qs = ps := by simpa [hc] using h
      simp [camelCase, hc, hkept, capitalize]

/-- The parts between underscores, each capitalized and joined, are camel case. -/
lemma camelize_eq_camelCase (s : List Char) : camelize s = camelCase true s := by
  obtain ⟨p, ps, h⟩ := List.exists_cons_of_ne_nil (Text.splitOn_ne_nil '_' s)
  rw [camelize, h, List.flatMap_cons, (camelCase_of_splitOn h).1]

/-- The name of an operator; one outside the table is called by its symbol in camel case. -/
def OperatorSymbol.calledName : OperatorSymbol → String
  | known .equal => "Equal"
  | known .notEqual => "NotEqual"
  | known .lessThan => "LessThan"
  | known .lessOrEqual => "LessThanEqual"
  | known .greaterThan => "GreaterThan"
  | known .greaterOrEqual => "GreaterThanEqual"
  | known .like => "Like"
  | known .containsAny => "ContainsAny"
  | known .containsAll => "ContainsAll"
  | known .containsNone => "ContainsNone"
  | known .isNull => "IsNull"
  | known .withinGeoRange => "WithinGeoRange"
  | other t _ => String.ofList (camelCase true t.content.toList)

/-- Operators are written by their names. -/
lemma OperatorSymbol.wireName_eq_calledName {o : OperatorSymbol} (h : ArePlain o.texts) :
    o.wireName.value = o.calledName := by
  cases o with
  | known o => cases o <;> rfl
  | other t valid =>
    have ht : t.isPlain = true := h t (by simp [texts])
    rw [wireName, calledName, camelText, MarkedText.shown_of_isPlain ht, camelize_eq_camelCase]

/-- What a `where` argument says. -/
inductive WhereTree
  | condition (path : List String) (operator : String) (variant : FilterValue.Variant)
      (payload : Value)
  | combination (kind : CombinatorKind) (operands : List WhereTree)

namespace WhereTree

def string? : Value → Option String
  | .string s => some s
  | _ => none

mutual

/-- The tree of an argument: an operator with operands is a combination, and anything else a condition with
a path, an operator and one field for its value. -/
def ofValue? : Value → Option WhereTree
  | .object [("operator", .enum k), ("operands", .list vs)] => do
    let kind ← CombinatorKind.ofWireName? k
    let operands ← ofValues? vs
    pure (.combination kind operands)
  | .object [("path", .list segments), ("operator", .enum operator), (field, payload)] => do
    let path ← segments.mapM string?
    let variant ← FilterValue.Variant.ofField? field
    pure (.condition path operator variant payload)
  | _ => none

def ofValues? : List Value → Option (List WhereTree)
  | [] => some []
  | v :: r => do
    let x ← ofValue? v
    let xs ← ofValues? r
    pure (x :: xs)

end

/-- The tree that a text writes as one value, with nothing after it. -/
def read? (s : List Char) : Option WhereTree :=
  match readValue s with
  | some (v, []) => ofValue? v
  | _ => none

end WhereTree

namespace Filter

mutual

/-- What an expression says: its combinations and conditions, each text by its characters, each operator by
its name. -/
def tree : Filter → WhereTree
  | leaf p => .condition (p.path.segments.map MarkedText.content) p.operator.calledName
      p.value.variant p.value.wire
  | all first rest => .combination .and (tree first :: trees rest)
  | any first rest => .combination .or (tree first :: trees rest)
  | negation operand => .combination .not [tree operand]

def trees : List Filter → List WhereTree
  | [] => []
  | f :: r => tree f :: trees r

end

end Filter

namespace WhereTree

/-! ### Reading back what was compiled -/

lemma mapM_string?_ofText {ts : List MarkedText} (h : ArePlain ts) :
    (ts.map Value.ofText).mapM string? = some (ts.map MarkedText.content) := by
  induction ts with
  | nil => rfl
  | cons t ts ih =>
    obtain ⟨ht, hts⟩ := arePlain_cons.1 h
    rw [MarkedText.eq_plain ht]
    simp [Value.ofText, string?, ih hts]

lemma ofValue?_predicateWire {p : Predicate} (h : ArePlain p.texts) :
    ofValue? (Filter.predicateWire p).value = some (Filter.leaf p).tree := by
  simp only [Predicate.texts, arePlain_append] at h
  obtain ⟨hpath, hoperator, -⟩ := h
  simp [Filter.predicateWire, Value.ofTexts, ofValue?, Filter.tree, mapM_string?_ofText hpath,
    FilterValue.ofField?_wireField, OperatorSymbol.wireName_eq_calledName hoperator]

lemma ofValue?_combinatorWire {kind : CombinatorKind} {vs : List Value} {xs : List WhereTree}
    (h : ofValues? vs = some xs) :
    ofValue? (Filter.combinatorWire kind vs) = some (.combination kind xs) := by
  simp [Filter.combinatorWire, ofValue?, h]

lemma ofValues?_cons {v : Value} {vs : List Value} {x : WhereTree} {xs : List WhereTree}
    (hv : ofValue? v = some x) (hvs : ofValues? vs = some xs) :
    ofValues? (v :: vs) = some (x :: xs) := by
  rw [ofValues?, hv, hvs]
  rfl

mutual

theorem ofValue?_compile : ∀ f : Filter, (∀ p ∈ f.predicates, ArePlain p.texts) →
    ofValue? f.compile.value = some f.tree
  | .leaf p, h => ofValue?_predicateWire (h p (by simp [Filter.predicates]))
  | .all first rest, h => by
    rw [Filter.predicates, List.forall_mem_append] at h
    exact ofValue?_combinatorWire
      (ofValues?_cons (ofValue?_compile first h.1) (ofValues?_compileAll rest h.2))
  | .any first rest, h => by
    rw [Filter.predicates, List.forall_mem_append] at h
    exact ofValue?_combinatorWire
      (ofValues?_cons (ofValue?_compile first h.1) (ofValues?_compileAll rest h.2))
  | .negation operand, h => by
    rw [Filter.predicates] at h
    exact ofValue?_combinatorWire (ofValues?_cons (ofValue?_compile operand h) rfl)

theorem ofValues?_compileAll : ∀ fs : List Filter,
    (∀ p ∈ Filter.predicatesAll fs, ArePlain p.texts) →
      ofValues? (Filter.compileAll fs).value = some (Filter.trees fs)
  | [], _ => rfl
  | f :: r, h => by
    rw [Filter.predicatesAll, List.forall_mem_append] at h
    exact ofValues?_cons (ofValue?_compile f h.1) (ofValues?_compileAll r h.2)

end

end WhereTree

/-! ### Warnings -/

/-- The warning about an operator: there is one for each that stands in no table. -/
def OperatorSymbol.warning? : OperatorSymbol → Option Notice
  | known _ => none
  | other t _ => some (.unknownOperator (.text t) (camelText t.shown))

/-- The warnings about conditions, in their order. -/
def Predicate.warnings (ps : List Predicate) : List Notice :=
  ps.filterMap (·.operator.warning?)

lemma Predicate.warnings_append (ps qs : List Predicate) :
    warnings (ps ++ qs) = warnings ps ++ warnings qs := List.filterMap_append

namespace Filter

lemma notices_predicateWire (p : Predicate) :
    (predicateWire p).notices = Predicate.warnings [p] := by
  cases h : p.operator <;>
    simp [predicateWire, h, OperatorSymbol.wireName, Predicate.warnings, OperatorSymbol.warning?]

mutual

theorem notices_compile : ∀ f : Filter, f.compile.notices = Predicate.warnings f.predicates
  | .leaf p => notices_predicateWire p
  | .all first rest => by
    rw [predicates, Predicate.warnings_append, ← notices_compile first, ← notices_compileAll rest]
    rfl
  | .any first rest => by
    rw [predicates, Predicate.warnings_append, ← notices_compile first, ← notices_compileAll rest]
    rfl
  | .negation operand => by
    rw [predicates, ← notices_compile operand]
    rfl

theorem notices_compileAll : ∀ fs : List Filter,
    (compileAll fs).notices = Predicate.warnings (predicatesAll fs)
  | [] => rfl
  | f :: r => by
    rw [predicatesAll, Predicate.warnings_append, ← notices_compile f, ← notices_compileAll r]
    rfl

end

/-- The text of the argument is read back as the tree of the expression, and compiling warns exactly of the
conditions whose operator is in no table, in their order. -/
theorem read?_renderWhere (f : Filter) (h : ∀ p ∈ f.predicates, p.IsClean) :
    WhereTree.read? f.renderWhere.toList = some f.tree ∧
      f.compile.notices = Predicate.warnings f.predicates := by
  have hfaithful := isFaithful_compile f h
  have htext := yields_chars f.compile.value (r := []) hfaithful.legible nofun
  have hread := readValue_of_yields f.compile.value hfaithful.legible htext
  rw [hfaithful.same, List.append_nil] at hread
  refine ⟨?_, notices_compile f⟩
  rw [renderWhere, Value.render, String.toList_ofList, WhereTree.read?, hread]
  exact WhereTree.ofValue?_compile f fun p hp => (h p hp).plain

/-- Known operators and one outside the table, below combinations of all kinds. -/
def nested : Filter :=
  .any (.leaf ⟨⟨[.plain "title"], by decide⟩, .other (.plain "starts_with") (by decide),
    .text (.plain "\"\x7d")⟩)
    [.negation (.leaf ⟨⟨[.plain "a", .plain "n"], by decide⟩, .known .lessOrEqual, .integer (-1)⟩),
      .all (.leaf ⟨⟨[.plain "read"], by decide⟩, .known .isNull, .boolean false⟩)
        [.leaf ⟨⟨[.plain "tag"], by decide⟩, .known .containsAny, .textList [.plain "x", .plain "y"]⟩,
          .leaf ⟨⟨[.plain "tag"], by decide⟩, .known .notEqual, .text (.plain "z")⟩]]

theorem read?_renderWhere_nested : WhereTree.read? nested.renderWhere.toList =
      some (.combination .or [.condition ["title"] "StartsWith" .text (.string "\"\x7d"),
        .combination .not [.condition ["a", "n"] "LessThanEqual" .integer (.int (-1))],
        .combination .and [.condition ["read"] "IsNull" .boolean (.bool false),
          .condition ["tag"] "ContainsAny" .textList (.list [.string "x", .string "y"]),
          .condition ["tag"] "NotEqual" .text (.string "z")]]) ∧
    nested.compile.notices = [.unknownOperator (.str "starts_with") "StartsWith"] := by
  have hclean : ∀ p ∈ nested.predicates, p.IsClean := by
    have hplain : ∀ p ∈ nested.predicates, p.texts.all (·.isPlain) = true := by
      simp only [nested, predicates, predicatesAll, List.forall_mem_append, List.forall_mem_singleton]
      decide
    have hfeed : ∀ p ∈ nested.predicates, p.operator.texts.all (!·.content.toList.contains '\n') = true := by
      simp only [nested, predicates, predicatesAll, List.forall_mem_append, List.forall_mem_singleton]
      decide
    exact fun p hp => ⟨List.all_eq_true.1 (hplain p hp), by simpa using hfeed p hp⟩
  exact read?_renderWhere nested hclean

end Filter

end VectorQuery
