import VectorQuery.Filter.Where
import VectorQuery.Proofs.Query.SelectedProperties
import VectorQuery.Term.Filter
import VectorQuery.Term.Query

/-! Names that are checked and names that are sent. A word of a vocabulary is checked by its symbol, and it is
sent by its qualified name, which has a point in it. Any other text is sent as it was checked. -/
namespace VectorQuery
open GraphQL

/-- Whether a text is a word of a vocabulary. -/
def MarkedText.isWord : MarkedText → Bool
  | word _ => true
  | _ => false

/-- No qualified name is a name, is one in camel case, or is a field. -/
lemma Word.isName_qualified (w : Word) : isName w.qualified.toList = false ∧
    isName (camelText w.qualified).toList = false ∧ isSelection w.qualified.toList = false := by
  rcases w with x | x | x | x | x <;> cases x <;> decide +kernel

namespace MarkedText

variable {t : MarkedText}

lemma shown_of_not_isWord (h : t.isWord = false) : t.shown = t.content := by
  cases t with
  | word w => cases h
  | _ => rfl

lemma exists_eq_word (h : t.isWord = true) : ∃ w, t = .word w := by
  cases t with
  | word w => exact ⟨w, rfl⟩
  | _ => cases h

/-- A text that is checked to be a name is sent as one, unless it is a word. -/
lemma isName_shown_iff (h : isName t.content.toList = true) :
    isName t.shown.toList = true ↔ t.isWord = false := by
  cases hw : t.isWord with
  | false => simpa [shown_of_not_isWord hw] using h
  | true =>
    obtain ⟨w, rfl⟩ := exists_eq_word hw
    simp [shown, w.isName_qualified]

lemma isName_camelText_shown_iff (h : t.isOperatorSymbol = true) :
    isName (camelText t.shown).toList = true ↔ t.isWord = false := by
  cases hw : t.isWord with
  | false =>
    rw [shown_of_not_isWord hw, camelText, String.toList_ofList]
    exact iff_of_true h rfl
  | true =>
    obtain ⟨w, rfl⟩ := exists_eq_word hw
    simp [shown, w.isName_qualified]

end MarkedText

/-! ### Operators -/

namespace GraphQL.Value

def enumName? : Value → Option String
  | .enum s => some s
  | _ => none

mutual

/-- The names that stand as operators in a value, at any depth. -/
def operatorNames : Value → List String
  | .object fs => operatorNamesIn fs
  | .list vs => operatorNamesAll vs
  | _ => []

def operatorNamesIn : List (String × Value) → List String
  | [] => []
  | (n, v) :: r =>
    (if n = "operator" then v.enumName?.toList else operatorNames v) ++ operatorNamesIn r

def operatorNamesAll : List Value → List String
  | [] => []
  | v :: r => operatorNames v ++ operatorNamesAll r

end

lemma operatorNamesAll_eq_nil {vs : List Value} (h : ∀ v ∈ vs, v.operatorNames = []) :
    operatorNamesAll vs = [] := by
  induction vs with
  | nil => rfl
  | cons v r ih =>
    obtain ⟨hv, hr⟩ := List.forall_mem_cons.1 h
    rw [operatorNamesAll, hv, ih hr]
    rfl

lemma operatorNames_ofText (t : MarkedText) : (ofText t).operatorNames = [] := by
  cases t <;> rfl

lemma operatorNames_ofTexts (ts : List MarkedText) : (ofTexts ts).operatorNames = [] :=
  operatorNamesAll_eq_nil (List.forall_mem_map.2 fun t _ => operatorNames_ofText t)

end GraphQL.Value

namespace Filter
open Value

lemma operatorNames_wire (x : FilterValue) : x.wire.operatorNames = [] := by
  cases x with
  | text t => exact operatorNames_ofText t
  | date d =>
    cases d with
    | moment m => rfl
    | text t => exact operatorNames_ofText t
  | textList ts => exact operatorNames_ofTexts ts
  | integerList is => exact operatorNamesAll_eq_nil (List.forall_mem_map.2 fun _ _ => rfl)
  | numberList qs => exact operatorNamesAll_eq_nil (List.forall_mem_map.2 fun _ _ => rfl)
  | booleanList bs => exact operatorNamesAll_eq_nil (List.forall_mem_map.2 fun _ _ => rfl)
  | integer i => rfl
  | number q => rfl
  | boolean b => rfl
  | geoRange lat lon dist => rfl

lemma operatorNames_predicateWire (p : Predicate) :
    (predicateWire p).value.operatorNames = [p.operator.wireName.value] := by
  have hfield : p.value.wireField ≠ "operator" := by
    unfold FilterValue.wireField
    split <;> decide
  simp [predicateWire, operatorNames, operatorNamesIn, operatorNames_ofTexts, operatorNames_wire,
    enumName?, hfield]

lemma operatorNames_combinatorWire (kind : CombinatorKind) (vs : List Value) :
    (combinatorWire kind vs).operatorNames = kind.wireName :: operatorNamesAll vs := by
  simp [combinatorWire, operatorNames, operatorNamesIn, enumName?]

lemma isName_wireName (kind : CombinatorKind) : isName kind.wireName.toList = true := by
  cases kind <;> decide

mutual

/-- What an expression sends are names exactly when its conditions send names. -/
theorem isName_operatorNames_compile : ∀ f : Filter,
    (∀ n ∈ f.compile.value.operatorNames, isName n.toList = true) ↔
      ∀ p ∈ f.predicates, isName p.operator.wireName.value.toList = true
  | .leaf p => by simp [compile, predicates, operatorNames_predicateWire]
  | .all first rest => by
    rw [predicates, List.forall_mem_append, ← isName_operatorNames_compile first,
      ← isName_operatorNames_compileAll rest]
    simp [compile, operatorNames_combinatorWire, operatorNamesAll, isName_wireName, or_imp,
      forall_and]
  | .any first rest => by
    rw [predicates, List.forall_mem_append, ← isName_operatorNames_compile first,
      ← isName_operatorNames_compileAll rest]
    simp [compile, operatorNames_combinatorWire, operatorNamesAll, isName_wireName, or_imp,
      forall_and]
  | .negation operand => by
    rw [predicates, ← isName_operatorNames_compile operand]
    simp [compile, Noted.map, operatorNames_combinatorWire, operatorNamesAll, isName_wireName]

theorem isName_operatorNames_compileAll : ∀ fs : List Filter,
    (∀ n ∈ operatorNamesAll (compileAll fs).value, isName n.toList = true) ↔
      ∀ p ∈ predicatesAll fs, isName p.operator.wireName.value.toList = true
  | [] => by simp [compileAll, predicatesAll, Noted.quiet, operatorNamesAll]
  | f :: r => by
    rw [predicatesAll, List.forall_mem_append, ← isName_operatorNames_compile f,
      ← isName_operatorNames_compileAll r]
    simp [compileAll, operatorNamesAll, or_imp, forall_and]

end

end Filter

lemma OperatorSymbol.isName_wireName_iff (o : OperatorSymbol) :
    isName o.wireName.value.toList = true ↔ ∀ t ∈ o.texts, t.isWord = false := by
  cases o with
  | known o =>
    have hname : isName o.wireName.toList = true := by cases o <;> decide
    simpa [wireName, texts] using hname
  | other t ht => simpa [wireName, texts] using MarkedText.isName_camelText_shown_iff ht

/-! ### Properties -/

namespace GenerateDirective

variable {g : GenerateDirective} {p : String}

/-- A property is an explicit one as it is sent, or a name. -/
lemma mem_properties (hp : p ∈ g.properties) :
    (∃ n ∈ g.explicitProperties, n.text.shown = p) ∨ isName p.toList = true := by
  rcases ((Generate.areProperties_promptProperties _ _).mem_iff p).1 hp with h | h
  · exact .inl (List.mem_map.1 h)
  · exact .inr (isName_of_isStrictName h.1)

/-- The properties of a prompt are names exactly when the explicit ones are no words. -/
lemma isName_properties_iff (g : GenerateDirective) :
    (∀ p ∈ g.properties, isName p.toList = true) ↔
      ∀ n ∈ g.explicitProperties, n.text.isWord = false := by
  constructor
  · intro h n hn
    have hsent : n.text.shown ∈ g.properties :=
      ((Generate.areProperties_promptProperties _ _).mem_iff _).2
        (.inl (List.mem_map.2 ⟨n, hn, rfl⟩))
    exact (MarkedText.isName_shown_iff n.valid).1 (h _ hsent)
  · intro h p hp
    rcases mem_properties hp with ⟨n, hn, rfl⟩ | hname
    · exact (MarkedText.isName_shown_iff n.valid).2 (h n hn)
    · exact hname

/-- A property that is a field of a query is a name: no qualified name is a field. -/
lemma isName_of_isSelection (hp : p ∈ g.properties) (hs : isSelection p.toList = true) :
    isName p.toList = true := by
  rcases mem_properties hp with ⟨n, -, rfl⟩ | hname
  · refine (MarkedText.isName_shown_iff n.valid).2 ?_
    rw [Bool.eq_false_iff]
    intro hword
    obtain ⟨w, hw⟩ := MarkedText.exists_eq_word hword
    rw [hw, MarkedText.shown, w.isName_qualified.2.2] at hs
    cases hs
  · exact hname

end GenerateDirective

/-- The properties that are added to the fields of a query. -/
lemma QueryDescriptor.isName_promptFields_iff (q : QueryDescriptor) :
    (∀ t ∈ q.promptFields, isName t.content.toList = true) ↔
      ∀ g, q.generate = some g → ∀ n ∈ g.explicitProperties, n.text.isWord = false := by
  cases hg : q.generate with
  | none => simp [promptFields, hg]
  | some g =>
    simp only [Option.some.injEq, forall_eq', promptFields_of_generate hg, List.forall_mem_map,
      MarkedText.content_plain]
    rw [← g.isName_properties_iff]
    refine ⟨fun h p hp => ?_, fun h p hp => h p (List.mem_filter.1 hp).1⟩
    by_cases hf : p ∈ q.fields.map FieldText.content
    · obtain ⟨f, -, rfl⟩ := List.mem_map.1 hf
      exact GenerateDirective.isName_of_isSelection hp f.valid
    · exact h p (List.mem_filter.2 ⟨hp, decide_eq_true hf⟩)

/-- What is sent in the place of a name is a name exactly when the caller gives no word there: as an operator of
a condition, as an explicit property of a prompt, and as such a property of a query. -/
theorem isName_sent_iff (f : Filter) (g : GenerateDirective) (q : QueryDescriptor) :
    ((∀ n ∈ f.compile.value.operatorNames, isName n.toList = true) ↔
      ∀ p ∈ f.predicates, ∀ t ∈ p.operator.texts, t.isWord = false) ∧
    ((∀ p ∈ g.properties, isName p.toList = true) ↔
      ∀ n ∈ g.explicitProperties, n.text.isWord = false) ∧
    ((∀ t ∈ q.promptFields, isName t.content.toList = true) ↔
      ∀ d, q.generate = some d → ∀ n ∈ d.explicitProperties, n.text.isWord = false) := by
  refine ⟨?_, g.isName_properties_iff, q.isName_promptFields_iff⟩
  rw [f.isName_operatorNames_compile]
  exact forall₂_congr fun p _ => p.operator.isName_wireName_iff

/-- A metric is accepted as an operator and as a property, and its qualified name is sent, which is no name. -/
theorem sends_qualified_metric : isName "Metric.SUM".toList = false ∧
    (∃ f, Filter.checkLeaf (.tuple [.str "p"]) (.text (.word (.metric .sum)))
        (Filter.typed (.text (.plain "x"))) = .ok f ∧
      f.compile.value.operatorNames = ["Metric.SUM"]) ∧
    ∃ g q, GenerateDirective.check (.str "single") (.str "Go") (.str "cohere") (.ok .unset)
        (.text (.word (.metric .sum))) = .ok g ∧ g.properties = ["Metric.SUM"] ∧
      QuerySlots.check { collection := .str "Doc", generate := .object (.directive g) } = .ok q ∧
      q.promptFields = [.plain "Metric.SUM"] := by
  refine ⟨by decide, ⟨_, rfl, by decide⟩, _, _, rfl, by decide, rfl, by decide⟩

end VectorQuery
