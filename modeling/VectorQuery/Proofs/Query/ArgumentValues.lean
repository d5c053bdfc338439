import VectorQuery.Proofs.Checked
import VectorQuery.Proofs.Filter.OperatorName
import VectorQuery.Proofs.GraphQL.Faithful
import VectorQuery.Proofs.Query.CallerTexts
import VectorQuery.Query.Arguments

/-! The arguments of a query come back as they were, names and values in order. Texts end up in strings, and
bare words are names: fixed ones, or an operator in camel case. -/
namespace VectorQuery
open GraphQL

variable {t : MarkedText} {ts us : List MarkedText} {name : String} {v : Value}

/-- Texts without marks. -/
def ArePlain (ts : List MarkedText) : Prop := ∀ t ∈ ts, t.isPlain = true

@[simp] lemma arePlain_cons : ArePlain (t :: ts) ↔ t.isPlain = true ∧ ArePlain ts :=
  List.forall_mem_cons

@[simp] lemma arePlain_append : ArePlain (ts ++ us) ↔ ArePlain ts ∧ ArePlain us :=
  List.forall_mem_append

lemma MarkedText.eq_plain (h : t.isPlain = true) : t = .plain t.content := by
  cases t with
  | plain s => rfl
  | _ => cases h

lemma MarkedText.shown_of_isPlain (h : t.isPlain = true) : t.shown = t.content := by
  rw [eq_plain h]
  rfl

lemma ofText_eq_string (h : t.isPlain = true) : Value.ofText t = .string t.content := by
  rw [MarkedText.eq_plain h]
  rfl

lemma isFaithful_ofText (h : t.isPlain = true) : (Value.ofText t).IsFaithful := by
  rw [ofText_eq_string h]
  exact ⟨rfl, rfl⟩

lemma ofTexts_eq_list (h : ArePlain ts) :
    Value.ofTexts ts = .list (ts.map fun t => .string t.content) :=
  congrArg Value.list (List.map_congr_left fun t ht => ofText_eq_string (h t ht))

lemma isFaithful_ofTexts (h : ArePlain ts) : (Value.ofTexts ts).IsFaithful := by
  refine Value.isFaithful_list fun v hv => ?_
  obtain ⟨t, ht, rfl⟩ := List.mem_map.1 hv
  exact isFaithful_ofText (h t ht)

lemma mem_of_lookup {table : List (String × String)} {key : String}
    (h : (table.lookup key).isSome = true) : (key, (table.lookup key).get h) ∈ table := by
  generalize hvalue : (table.lookup key).get h = value
  have hsome : table.lookup key = some value := by rw [← hvalue, Option.some_get]
  obtain ⟨l, r, rfl, -⟩ := List.lookup_eq_some_iff.1 hsome
  exact List.mem_append_right l List.mem_cons_self

/-! ### Conditions -/

namespace FilterValue

theorem isFaithful_wire (x : FilterValue) (h : ArePlain x.texts) : x.wire.IsFaithful := by
  cases x with
  | text t => exact isFaithful_ofText (h t (by simp [texts]))
  | integer i => exact Value.isFaithful_int i
  | number q => exact Value.isFaithful_quantity q
  | boolean b => exact Value.isFaithful_bool b
  | date d =>
    cases d with
    | moment m => exact ⟨rfl, rfl⟩
    | text t => exact isFaithful_ofText (h t (by simp [texts]))
  | textList ts => exact isFaithful_ofTexts h
  | integerList is =>
    refine Value.isFaithful_list fun v hv => ?_
    obtain ⟨i, -, rfl⟩ := List.mem_map.1 hv
    exact Value.isFaithful_int i
  | numberList qs =>
    refine Value.isFaithful_list fun v hv => ?_
    obtain ⟨q, -, rfl⟩ := List.mem_map.1 hv
    exact Value.isFaithful_quantity q
  | booleanList bs =>
    refine Value.isFaithful_list fun v hv => ?_
    obtain ⟨b, -, rfl⟩ := List.mem_map.1 hv
    exact Value.isFaithful_bool b
  | geoRange lat lon dist =>
    have hcoordinates : (Value.object [("latitude", .float lat.toDouble),
        ("longitude", .float lon.toDouble)]).IsFaithful := Value.isFaithful_object
      (List.forall_mem_cons.2 ⟨isFaithfulField (by decide) (Value.isFaithful_quantity lat),
        List.forall_mem_singleton.2 (isFaithfulField (by decide) (Value.isFaithful_quantity lon))⟩)
    have hdistance : (Value.object [("max", .float dist.toDouble)]).IsFaithful :=
      Value.isFaithful_object (List.forall_mem_singleton.2
        (isFaithfulField (by decide) (Value.isFaithful_quantity dist)))
    exact Value.isFaithful_object (List.forall_mem_cons.2 ⟨isFaithfulField (by decide) hcoordinates,
      List.forall_mem_singleton.2 (isFaithfulField (by decide) hdistance)⟩)

lemma isStrictName_wireField (x : FilterValue) : isStrictName x.wireField.toList = true := by
  unfold wireField
  split <;> decide

end FilterValue

/-- A condition whose texts have no mark, and whose operator has no line feed. -/
structure Predicate.IsClean (p : Predicate) : Prop where
  plain : ArePlain p.texts
  operator : ∀ t ∈ p.operator.texts, '\n' ∉ t.content.toList

namespace Filter

lemma isFaithful_operator {o : OperatorSymbol} (hp : ArePlain o.texts)
    (hn : ∀ t ∈ o.texts, '\n' ∉ t.content.toList) : (Value.enum o.wireName.value).IsFaithful := by
  cases o with
  | known o =>
    have hknown : isStrictName o.wireName.toList = true ∧ isLiteralName o.wireName.toList = false := by
      cases o <;> decide
    exact Value.isFaithful_enum hknown.1 hknown.2
  | other t ht =>
    have hmem : t ∈ (OperatorSymbol.other t ht).texts := List.mem_singleton.2 rfl
    obtain ⟨hstrict, hliteral⟩ := isStrictName_camelText ht (hn t hmem)
    rw [← MarkedText.shown_of_isPlain (hp t hmem)] at hstrict hliteral
    exact Value.isFaithful_enum hstrict hliteral

lemma isClean_of_texts {f : Filter} (hp : ArePlain (f.predicates.flatMap Predicate.texts))
    (hn : ∀ t ∈ f.predicates.flatMap (·.operator.texts), '\n' ∉ t.content.toList) :
    ∀ p ∈ f.predicates, p.IsClean := fun p hmem =>
  ⟨fun t ht => hp t (List.mem_flatMap.2 ⟨p, hmem, ht⟩),
    fun t ht => hn t (List.mem_flatMap.2 ⟨p, hmem, ht⟩)⟩

theorem isFaithful_predicateWire {p : Predicate} (h : p.IsClean) :
    (predicateWire p).value.IsFaithful := by
  have hplain := h.plain
  simp only [Predicate.texts, arePlain_append] at hplain
  obtain ⟨hpath, hoperator, hvalue⟩ := hplain
  refine Value.isFaithful_object ?_
  simp only [List.forall_mem_cons]
  exact ⟨isFaithfulField (by decide) (isFaithful_ofTexts hpath),
    isFaithfulField (by decide) (isFaithful_operator hoperator h.operator),
    isFaithfulField p.value.isStrictName_wireField (p.value.isFaithful_wire hvalue), by simp⟩

lemma isFaithful_combinatorWire (kind : CombinatorKind) {vs : List Value}
    (h : ∀ v ∈ vs, v.IsFaithful) : (combinatorWire kind vs).IsFaithful := by
  have hkind : isStrictName kind.wireName.toList = true ∧
      isLiteralName kind.wireName.toList = false := by cases kind <;> decide
  refine Value.isFaithful_object ?_
  simp only [List.forall_mem_cons]
  exact ⟨isFaithfulField (by decide) (Value.isFaithful_enum hkind.1 hkind.2),
    isFaithfulField (by decide) (Value.isFaithful_list h), by simp⟩

mutual

theorem isFaithful_compile : ∀ f : Filter, (∀ p ∈ f.predicates, p.IsClean) →
    f.compile.value.IsFaithful
  | .leaf p, h => isFaithful_predicateWire (h p (by simp [predicates]))
  | .all first rest, h => by
    rw [predicates, List.forall_mem_append] at h
    exact isFaithful_combinatorWire .and (List.forall_mem_cons.2
      ⟨isFaithful_compile first h.1, isFaithful_compileAll rest h.2⟩)
  | .any first rest, h => by
    rw [predicates, List.forall_mem_append] at h
    exact isFaithful_combinatorWire .or (List.forall_mem_cons.2
      ⟨isFaithful_compile first h.1, isFaithful_compileAll rest h.2⟩)
  | .negation operand, h => by
    rw [predicates] at h
    exact isFaithful_combinatorWire .not
      (List.forall_mem_singleton.2 (isFaithful_compile operand h))

theorem isFaithful_compileAll : ∀ fs : List Filter, (∀ p ∈ predicatesAll fs, p.IsClean) →
    ∀ v ∈ (compileAll fs).value, v.IsFaithful
  | [], _ => by simp [compileAll, Noted.quiet]
  | f :: r, h => by
    rw [predicatesAll, List.forall_mem_append] at h
    exact List.forall_mem_cons.2 ⟨isFaithful_compile f h.1, isFaithful_compileAll r h.2⟩

end

end Filter

/-! ### Search clauses -/

namespace Search

lemma isFaithful_required {α : Type} {toDouble : α → Double} {o : Option α}
    (hfinite : ∀ a, (toDouble a).isFinite = true) (h : required toDouble o = .ok v) :
    v.IsFaithful := by
  cases o with
  | none => cases h
  | some a =>
    obtain rfl : Value.float (toDouble a) = v := Except.ok.inj h
    exact ⟨hfinite a, rfl⟩

lemma isFaithful_threshold (x : Threshold) : ∀ f ∈ x.wire, IsFaithfulField f := by
  cases x with
  | absent => simp [Threshold.wire]
  | certainty c =>
    exact List.forall_mem_singleton.2
      (isFaithfulField (by decide) (Value.isFaithful_quantity c.toQuantity))
  | distance d =>
    exact List.forall_mem_singleton.2 (isFaithfulField (by decide) (Value.isFaithful_quantity d))

lemma isFaithful_move {m : Move} (hp : ArePlain m.concepts.texts) (h : m.wire = .ok v) :
    v.IsFaithful := by
  obtain ⟨force, hforce, h⟩ := Checked.bind_ok h
  obtain rfl := Checked.pure_ok h
  have hnumber : force.IsFaithful :=
    isFaithful_required (fun s => s.toQuantity.isFinite_toDouble) hforce
  exact Value.isFaithful_object (List.forall_mem_cons.2
    ⟨isFaithfulField (by decide) (isFaithful_ofTexts hp),
      List.forall_mem_singleton.2 (isFaithfulField (by decide) hnumber)⟩)

lemma isFaithful_moveWire {m : Option Move} {fs : List (String × Value)}
    (hn : isStrictName name.toList = true) (hp : ArePlain (moveTexts m))
    (h : moveWire name m = .ok fs) : ∀ f ∈ fs, IsFaithfulField f := by
  cases m with
  | none =>
    obtain rfl : [] = fs := Except.ok.inj h
    simp
  | some m =>
    obtain ⟨v, hv, rfl⟩ := Checked.map_ok h
    have hconcepts : ArePlain m.concepts.texts := by simpa [moveTexts] using hp
    exact List.forall_mem_singleton.2 (isFaithfulField hn (isFaithful_move hconcepts hv))

lemma isFaithful_vectorWire {qs : List (Option Quantity)} {vs : List Value}
    (h : vectorWire qs = .ok vs) : ∀ v ∈ vs, v.IsFaithful := by
  induction qs generalizing vs with
  | nil =>
    obtain rfl : [] = vs := Except.ok.inj h
    simp
  | cons q qs ih =>
    obtain ⟨v, hv, h⟩ := Checked.bind_ok h
    obtain ⟨ws, hws, h⟩ := Checked.bind_ok h
    obtain rfl := Checked.pure_ok h
    exact List.forall_mem_cons.2 ⟨isFaithful_required Quantity.isFinite_toDouble hv, ih hws⟩

lemma isFaithful_propertiesWire {ps : Option Phrases} (hp : ArePlain (propertyTexts ps)) :
    ∀ f ∈ propertiesWire ps, IsFaithfulField f := by
  cases ps with
  | none => simp [propertiesWire]
  | some ps =>
    have htexts : ArePlain ps.texts := by simpa [propertyTexts] using hp
    exact List.forall_mem_singleton.2 (isFaithfulField (by decide) (isFaithful_ofTexts htexts))

/-- A media kind and the argument it goes to are names. -/
lemma isStrictName_mediaKind (k : MediaKind) : isStrictName k.text.content.toList = true ∧
    isStrictName k.argument.toList = true := by
  have hall : ∀ e ∈ mediaArguments,
      isStrictName e.1.toList = true ∧ isStrictName e.2.toList = true := by decide
  exact hall _ (mem_of_lookup k.known)

lemma isFaithful_fusion (f : FusionType) : (Value.enum f.text.content).IsFaithful := by
  have hall : ∀ s ∈ fusionTypes, isStrictName s.toList = true ∧ isLiteralName s.toList = false := by
    decide
  obtain ⟨hstrict, hliteral⟩ := hall _ (by simpa using f.known)
  exact Value.isFaithful_enum hstrict hliteral

/-- A text of the clause, and what bounds the search. -/
lemma isFaithful_near {field : String} {x : Threshold} (hn : isStrictName name.toList = true)
    (hf : isStrictName field.toList = true) (hv : v.IsFaithful) :
    IsFaithfulField (name, .object ((field, v) :: x.wire)) :=
  isFaithfulField hn (Value.isFaithful_object
    (List.forall_mem_cons.2 ⟨isFaithfulField hf hv, isFaithful_threshold x⟩))

theorem isFaithful_argument {s : Search} {f : String × Value} (hp : ArePlain s.texts)
    (h : s.argument = .ok (some f)) : IsFaithfulField f := by
  cases s with
  | fetchAll => cases h
  | fetchById id => cases h
  | nearText concepts threshold moveTo moveAway =>
    simp only [texts, arePlain_append] at hp
    obtain ⟨toward, htoward, h⟩ := Checked.bind_ok h
    obtain ⟨away, haway, h⟩ := Checked.bind_ok h
    obtain rfl := Option.some.inj (Checked.pure_ok h)
    refine isFaithfulField (by decide) (Value.isFaithful_object (List.forall_mem_append.2
      ⟨List.forall_mem_append.2 ⟨List.forall_mem_cons.2
        ⟨isFaithfulField (by decide) (isFaithful_ofTexts hp.1), isFaithful_threshold threshold⟩,
        ?_⟩, ?_⟩))
    · exact isFaithful_moveWire (by decide) hp.2.1 htoward
    · exact isFaithful_moveWire (by decide) hp.2.2 haway
  | nearVector first rest threshold =>
    obtain ⟨vs, hvs, h⟩ := Checked.bind_ok h
    obtain rfl := Option.some.inj (Checked.pure_ok h)
    exact isFaithful_near (by decide) (by decide)
      (Value.isFaithful_list (isFaithful_vectorWire hvs))
  | nearObject id threshold =>
    obtain rfl := Option.some.inj (Except.ok.inj h)
    exact isFaithful_near (by decide) (by decide) (isFaithful_ofText (hp _ (by simp [texts])))
  | nearImage data threshold =>
    obtain rfl := Option.some.inj (Except.ok.inj h)
    exact isFaithful_near (by decide) (by decide) (isFaithful_ofText (hp _ (by simp [texts])))
  | nearMedia kind data threshold =>
    obtain rfl := Option.some.inj (Except.ok.inj h)
    obtain ⟨hkind, hargument⟩ := isStrictName_mediaKind kind
    exact isFaithful_near hargument hkind (isFaithful_ofText (hp _ (by simp [texts])))
  | bm25 query properties =>
    obtain rfl := Option.some.inj (Except.ok.inj h)
    simp only [texts, arePlain_cons] at hp
    exact isFaithfulField (by decide) (Value.isFaithful_object (List.forall_mem_cons.2
      ⟨isFaithfulField (by decide) (isFaithful_ofText hp.1), isFaithful_propertiesWire hp.2⟩))
  | hybrid query alpha fusion properties =>
    obtain rfl := Option.some.inj (Except.ok.inj h)
    simp only [texts, arePlain_cons, arePlain_append] at hp
    refine isFaithfulField (by decide) (Value.isFaithful_object (List.forall_mem_append.2
      ⟨List.forall_mem_append.2 ⟨List.forall_mem_cons.2
        ⟨isFaithfulField (by decide) (isFaithful_ofText hp.1), ?_⟩, ?_⟩,
        isFaithful_propertiesWire hp.2.2⟩))
    · cases alpha with
      | none => simp
      | some a =>
        exact List.forall_mem_singleton.2
          (isFaithfulField (by decide) (Value.isFaithful_quantity a.toQuantity))
    · cases fusion with
      | none => simp
      | some f =>
        exact List.forall_mem_singleton.2 (isFaithfulField (by decide) (isFaithful_fusion f))

end Search

/-! ### All arguments of a query -/

lemma argument_eq_toList {α : Type} (name : String) (wire : α → Value) (o : Option α) :
    argument name wire o = (o.map fun x => (name, wire x)).toList := by
  cases o <;> rfl

lemma isFaithful_ofOption {α : Type} {wire : α → Value} {o : Option α}
    (hn : isStrictName name.toList = true) (h : ∀ a, o = some a → (wire a).IsFaithful) :
    ∀ f ∈ argument name wire o, IsFaithfulField f := by
  cases o with
  | none => simp [argument]
  | some a => exact List.forall_mem_singleton.2 (isFaithfulField hn (h a rfl))

lemma isFaithful_sortSpec {s : SortSpec} (h : ArePlain s.path.segments) : s.wire.IsFaithful := by
  have hdirection : isStrictName s.direction.symbol.toList = true ∧
      isLiteralName s.direction.symbol.toList = false := by cases s.direction <;> decide
  exact Value.isFaithful_object (List.forall_mem_cons.2
    ⟨isFaithfulField (by decide) (isFaithful_ofTexts h), List.forall_mem_singleton.2
      (isFaithfulField (by decide) (Value.isFaithful_enum hdirection.1 hdirection.2))⟩)

lemma isFaithful_countWire (k : Option Count) : (countWire k).IsFaithful := by
  cases k with
  | none => exact Value.isFaithful_null
  | some k => exact Value.isFaithful_int k.value

lemma isFaithful_groupBy {g : GroupBySpec} (h : ArePlain g.path.segments) :
    g.wire.IsFaithful := by
  refine Value.isFaithful_object ?_
  simp only [List.forall_mem_cons]
  exact ⟨isFaithfulField (by decide) (isFaithful_ofTexts h),
    isFaithfulField (by decide) (isFaithful_countWire g.groups),
    isFaithfulField (by decide) (isFaithful_countWire g.objectsPerGroup), by simp⟩

lemma isFaithful_level (l : ConsistencyLevel) : (Value.enum l.text.content).IsFaithful := by
  have hall : ∀ s ∈ consistencyLevels,
      isStrictName s.toList = true ∧ isLiteralName s.toList = false := by decide
  obtain ⟨hstrict, hliteral⟩ := hall _ (by simpa using l.known)
  exact Value.isFaithful_enum hstrict hliteral

namespace QueryDescriptor

variable {q : QueryDescriptor} {c : RendererConfig}

lemma isClean_idFilter {id : Phrase} (h : id.text.isPlain = true) :
    ∀ p ∈ (idFilter id).predicates, p.IsClean := by
  refine List.forall_mem_singleton.2 ⟨?_, by simp [OperatorSymbol.texts]⟩
  exact List.forall_mem_cons.2 ⟨rfl, List.forall_mem_singleton.2 h⟩

lemma isClean_filter (hp : ArePlain q.texts) (hn : ∀ t ∈ q.nameTexts, '\n' ∉ t.content.toList)
    {f : Filter} (hf : q.filter = some f) : ∀ p ∈ f.predicates, p.IsClean := by
  refine Filter.isClean_of_texts (fun t ht => hp t ?_) fun t ht => hn t ?_
  · simp only [texts, List.mem_cons, List.mem_append, hf, Option.toList_some,
      List.flatMap_singleton, ht, true_or, or_true]
  · simp only [nameTexts, List.mem_cons, List.mem_append, hf, Option.toList_some,
      List.flatMap_singleton, ht, or_true]

lemma isClean_effectiveFilter (hp : ArePlain q.texts)
    (hn : ∀ t ∈ q.nameTexts, '\n' ∉ t.content.toList) {f : Filter}
    (hf : q.effectiveFilter = some f) : ∀ p ∈ f.predicates, p.IsClean := by
  have hid {id : Phrase} (hs : q.search = some (.fetchById id)) : id.text.isPlain = true :=
    hp id.text (by simp [texts, hs, Search.texts])
  unfold effectiveFilter at hf
  split at hf
  · rename_i id hs hnone
    obtain rfl := Option.some.inj hf
    exact isClean_idFilter (hid hs)
  · rename_i id g hs hg
    obtain rfl := Option.some.inj hf
    have hrest := isClean_filter hp hn hg
    simp only [Filter.predicates, Filter.predicatesAll, List.append_nil]
    exact List.forall_mem_append.2 ⟨isClean_idFilter (hid hs), hrest⟩
  · exact isClean_filter hp hn hf

/-- Every argument of a query of plain texts is read back as it is. -/
theorem isFaithful_arguments (hp : ArePlain q.texts)
    (hn : ∀ t ∈ q.nameTexts, '\n' ∉ t.content.toList) {fs : Arguments}
    (h : q.arguments c = .ok fs) : ∀ f ∈ fs, IsFaithfulField f := by
  obtain ⟨search, hsearch, h⟩ := Checked.bind_ok h
  obtain rfl := Checked.pure_ok h
  have hclean := fun f hf => isClean_effectiveFilter hp hn (f := f) hf
  simp only [texts, arePlain_cons, arePlain_append] at hp
  obtain ⟨-, -, hquery, -, hsort, hgroup, -, -, htenant, -⟩ := hp
  simp only [List.forall_mem_append]
  refine ⟨⟨⟨⟨⟨⟨⟨⟨?limit, ?offset⟩, ?condition⟩, ?search⟩, ?sort⟩, ?group⟩, ?autocut⟩,
    ?level⟩, ?tenant⟩
  case limit => exact isFaithful_ofOption (by decide) fun n _ => Value.isFaithful_int n.value
  case offset => exact isFaithful_ofOption (by decide) fun n _ => Value.isFaithful_int n
  case condition =>
    refine isFaithful_ofOption (by decide) fun v hv => ?_
    obtain ⟨f, hf, rfl⟩ := Option.map_eq_some_iff.1 hv
    exact Filter.isFaithful_compile f (hclean f hf)
  case search =>
    unfold searchArgument at hsearch
    split at hsearch
    · obtain rfl := Except.ok.inj hsearch
      simp
    · rename_i s hs
      obtain ⟨o, ho, rfl⟩ := Checked.map_ok hsearch
      cases o with
      | none => simp
      | some f =>
        have hs : ArePlain s.texts := by simpa [hs] using hquery
        exact List.forall_mem_singleton.2 (Search.isFaithful_argument hs ho)
  case sort =>
    unfold sortArgument
    split
    · simp
    · refine List.forall_mem_singleton.2 (isFaithfulField (by decide)
        (Value.isFaithful_list fun v hv => ?_))
      obtain ⟨s, hs, rfl⟩ := List.mem_map.1 hv
      exact isFaithful_sortSpec fun t ht => hsort t (List.mem_flatMap.2 ⟨s, hs, ht⟩)
  case group =>
    refine isFaithful_ofOption (by decide) fun g hg => isFaithful_groupBy ?_
    simpa [hg] using hgroup
  case autocut => exact isFaithful_ofOption (by decide) fun n _ => Value.isFaithful_int n.value
  case level => exact isFaithful_ofOption (by decide) fun l _ => isFaithful_level l
  case tenant =>
    refine isFaithful_ofOption (by decide) fun t ht => isFaithful_ofText (htenant _ ?_)
    simp [ht]

end QueryDescriptor

end VectorQuery
