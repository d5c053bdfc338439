import VectorQuery.Aggregate.Render
import VectorQuery.Proofs.Checked
import VectorQuery.Proofs.GraphQL.TextLiteral
import VectorQuery.Proofs.Query.Unmarked

/-! The literals of texts in arguments. The arguments of a query and those of the same query without marks are
written the same but for these literals, and every literal stands in its place. -/
namespace VectorQuery
open GraphQL Text

/-- Two sources that are the same but for the literals of some texts, in order. In the first each text is
written by its mark, in the second it is quoted; what comes after it does not go on with the literal. -/
inductive Requoted : List Char → List Char → List MarkedText → Prop
  | nil : Requoted [] [] []
  | char (c : Char) {s s' : List Char} {ts : List MarkedText} :
    Requoted s s' ts → Requoted (c :: s) (c :: s') ts
  | text (t : MarkedText) {r r' : List Char} {ts : List MarkedText} : Delimited r → Requoted r r' ts →
    Requoted ((Value.ofText t).chars ++ r) (quotedLiteral t.content.toList ++ r') (t :: ts)

/-- Two sources that are the same but for the literals of some texts, whatever the delimited rest is. -/
def Requotes (s s' : List Char) (ts : List MarkedText) : Prop :=
  ∀ ⦃r r' us⦄, Delimited r → Requoted r r' us → Requoted (s ++ r) (s' ++ r') (ts ++ us)

/-- Parts that are pairwise the same but for the literals of texts. -/
inductive PartsRequote : List (List Char) → List (List Char) → List MarkedText → Prop
  | nil : PartsRequote [] [] []
  | cons {s s' : List Char} {ss ss' : List (List Char)} {ts us : List MarkedText} :
    Requotes s s' ts → PartsRequote ss ss' us → PartsRequote (s :: ss) (s' :: ss') (ts ++ us)

variable {s s' r r' : List Char} {ss ss' ps ps' : List (List Char)} {t : MarkedText}
  {ts us : List MarkedText}

lemma Requoted.append_left (s : List Char) (h : Requoted r r' ts) : Requoted (s ++ r) (s ++ r') ts := by
  induction s with
  | nil => exact h
  | cons c s ih => exact .char c ih

lemma Requoted.refl (s : List Char) : Requoted s s [] := by
  have h := Requoted.nil.append_left s
  rwa [List.append_nil] at h

lemma Requotes.refl (s : List Char) : Requotes s s [] := fun _ _ _ _ h => h.append_left s

lemma requotes_ofText (t : MarkedText) :
    Requotes (Value.ofText t).chars (Value.ofText t.unmarked).chars [t] :=
  fun _ _ _ hr h => .text t hr h

/-! ### Items and fields -/

lemma PartsRequote.append (h : PartsRequote ss ss' ts)
    (hp : PartsRequote ps ps' us) : PartsRequote (ss ++ ps) (ss' ++ ps') (ts ++ us) := by
  induction h with
  | nil => exact hp
  | cons hs _ ih =>
    rw [List.append_assoc]
    exact .cons hs ih

lemma PartsRequote.refl (ss : List (List Char)) : PartsRequote ss ss [] := by
  induction ss with
  | nil => exact .nil
  | cons s ss ih => exact .cons (.refl s) ih

lemma PartsRequote.singleton (h : Requotes s s' ts) : PartsRequote [s] [s'] ts := by
  have hparts := PartsRequote.cons h .nil
  rwa [List.append_nil] at hparts

lemma requotes_join (h : PartsRequote ss ss' ts) :
    Requotes (join separator ss) (join separator ss') ts := by
  induction h with
  | nil => exact .refl []
  | cons hs hrest ih =>
    intro r r' us hr hrequoted
    cases hrest with
    | nil =>
      rw [List.append_nil]
      exact hs hr hrequoted
    | cons hs' hrest' =>
      rw [join, join, List.append_assoc, List.append_assoc, List.append_assoc, List.append_assoc,
        List.append_assoc]
      exact hs (delimited_cons (by decide) _) ((ih hr hrequoted).append_left separator)

/-- The text of a field of an object, or of an argument. -/
def fieldChars (f : String × Value) : List Char := f.1.toList ++ ':' :: ' ' :: f.2.chars

lemma itemsChars_eq_join (vs : List Value) :
    Value.itemsChars vs = join separator (vs.map Value.chars) := by
  induction vs with
  | nil => rfl
  | cons v vs ih =>
    cases vs with
    | nil => rfl
    | cons w vs =>
      rw [Value.itemsChars, ih]
      rfl

lemma fieldsChars_eq_join (fs : Arguments) :
    Value.fieldsChars fs = join separator (fs.map fieldChars) := by
  induction fs with
  | nil => rfl
  | cons f fs ih =>
    cases fs with
    | nil => rfl
    | cons g fs =>
      rw [Value.fieldsChars, ih]
      simp [join, fieldChars]

/-- Fields with the same names, and values that are the same but for the literals of texts. -/
def FieldsRequote (fs fs' : Arguments) (ts : List MarkedText) : Prop :=
  PartsRequote (fs.map fieldChars) (fs'.map fieldChars) ts

lemma requotes_list {vs vs' : List Value}
    (h : PartsRequote (vs.map Value.chars) (vs'.map Value.chars) ts) :
    Requotes (Value.list vs).chars (Value.list vs').chars ts := by
  intro r r' us _ hr
  have hitems := requotes_join h (delimited_cons (c := ']') (by decide) r) (.char ']' hr)
  simp only [Value.chars, itemsChars_eq_join, List.cons_append, List.append_assoc, List.nil_append]
  exact .char '[' hitems

lemma requotes_object {fs fs' : Arguments} (h : FieldsRequote fs fs' ts) :
    Requotes (Value.object fs).chars (Value.object fs').chars ts := by
  intro r r' us _ hr
  have hfields := requotes_join h (delimited_cons (c := '}') (by decide) r) (.char '}' hr)
  simp only [Value.chars, fieldsChars_eq_join, List.cons_append, List.append_assoc, List.nil_append]
  exact .char '{' hfields

/-- The items of a list, one by one. -/
lemma requotes_map {α : Type} {wire : α → Value} {unmark : α → α} {texts : α → List MarkedText}
    (xs : List α) (h : ∀ x, Requotes (wire x).chars (wire (unmark x)).chars (texts x)) :
    Requotes (Value.list (xs.map wire)).chars (Value.list ((xs.map unmark).map wire)).chars
      (xs.flatMap texts) := by
  refine requotes_list ?_
  induction xs with
  | nil => exact .nil
  | cons x xs ih => exact .cons (h x) ih

lemma requotes_ofTexts (ts : List MarkedText) :
    Requotes (Value.ofTexts ts).chars (Value.ofTexts (ts.map MarkedText.unmarked)).chars ts := by
  have h := requotes_map ts requotes_ofText
  rwa [List.flatMap_singleton'] at h

lemma FieldsRequote.cons {v v' : Value} {fs fs' : Arguments} (name : String)
    (hv : Requotes v.chars v'.chars ts) (h : FieldsRequote fs fs' us) :
    FieldsRequote ((name, v) :: fs) ((name, v') :: fs') (ts ++ us) := by
  refine PartsRequote.cons (fun r r' us hr hrest => ?_) h
  simp only [fieldChars, List.append_assoc, List.cons_append]
  exact .append_left name.toList (.char ':' (.char ' ' (hv hr hrest)))

lemma FieldsRequote.append {fs fs' gs gs' : Arguments} (h : FieldsRequote fs fs' ts)
    (hg : FieldsRequote gs gs' us) : FieldsRequote (fs ++ gs) (fs' ++ gs') (ts ++ us) := by
  have hparts := PartsRequote.append h hg
  rwa [← List.map_append, ← List.map_append] at hparts

lemma FieldsRequote.refl (fs : Arguments) : FieldsRequote fs fs [] := PartsRequote.refl _

lemma FieldsRequote.singleton {v v' : Value} (name : String) (hv : Requotes v.chars v'.chars ts) :
    FieldsRequote [(name, v)] [(name, v')] ts := by
  have h := FieldsRequote.cons name hv (.refl [])
  rwa [List.append_nil] at h

/-- An object with texts in front, and fields without any. -/
lemma requotes_textsObject (field : String) (ts : List MarkedText) (fs : Arguments) :
    Requotes (Value.object ((field, .ofTexts ts) :: fs)).chars
      (Value.object ((field, .ofTexts (ts.map MarkedText.unmarked)) :: fs)).chars ts := by
  have h := FieldsRequote.cons field (requotes_ofTexts ts) (.refl fs)
  rw [List.append_nil] at h
  exact requotes_object h

/-- An argument that is there in both, or in neither. -/
lemma fieldsRequote_argument {α : Type} {wire : α → Value} {texts : α → List MarkedText}
    (name : String) (unmark : α → α) (o : Option α)
    (h : ∀ a, Requotes (wire a).chars (wire (unmark a)).chars (texts a)) :
    FieldsRequote (argument name wire o) (argument name wire (o.map unmark))
      (o.toList.flatMap texts) := by
  cases o with
  | none => exact .refl []
  | some a =>
    rw [Option.toList_some, List.flatMap_singleton]
    exact .singleton name (h a)

/-! ### Conditions -/

namespace FilterValue

lemma wireField_unmarked (x : FilterValue) : x.unmarked.wireField = x.wireField := by
  cases x with
  | date d => cases d <;> rfl
  | _ => rfl

theorem requotes_wire (x : FilterValue) : Requotes x.wire.chars x.unmarked.wire.chars x.texts := by
  cases x with
  | text t => exact requotes_ofText t
  | textList ts => exact requotes_ofTexts ts
  | date d =>
    cases d with
    | moment m => exact .refl _
    | text t => exact requotes_ofText t
  | _ => exact .refl _

end FilterValue

namespace Filter

theorem requotes_predicateWire (p : Predicate) : Requotes (predicateWire p).value.chars
    (predicateWire p.unmarked).value.chars p.literalTexts := by
  have hvalue : FieldsRequote [(p.value.wireField, p.value.wire)]
      [(p.unmarked.value.wireField, p.unmarked.value.wire)] p.value.texts := by
    rw [Predicate.unmarked, p.value.wireField_unmarked]
    exact .singleton _ p.value.requotes_wire
  exact requotes_object (.cons "path" (requotes_ofTexts p.path.segments)
    (.cons "operator" (.refl _) hvalue))

lemma requotes_combinatorWire (kind : CombinatorKind) {vs vs' : List Value}
    (h : PartsRequote (vs.map Value.chars) (vs'.map Value.chars) ts) :
    Requotes (combinatorWire kind vs).chars (combinatorWire kind vs').chars ts :=
  requotes_object (.cons "operator" (.refl _) (.singleton "operands" (requotes_list h)))

mutual

theorem requotes_compile : ∀ f : Filter,
    Requotes f.compile.value.chars f.unmarked.compile.value.chars f.literalTexts
  | .leaf p => by
    rw [literalTexts, predicates, List.flatMap_singleton]
    exact requotes_predicateWire p
  | .all first rest => by
    rw [literalTexts, predicates, List.flatMap_append]
    exact requotes_combinatorWire .and (.cons (requotes_compile first) (requotes_compileAll rest))
  | .any first rest => by
    rw [literalTexts, predicates, List.flatMap_append]
    exact requotes_combinatorWire .or (.cons (requotes_compile first) (requotes_compileAll rest))
  | .negation operand => by
    rw [literalTexts, predicates]
    exact requotes_combinatorWire .not (.singleton (requotes_compile operand))

theorem requotes_compileAll : ∀ fs : List Filter,
    PartsRequote ((compileAll fs).value.map Value.chars)
      ((compileAll (unmarkedAll fs)).value.map Value.chars)
      ((predicatesAll fs).flatMap Predicate.literalTexts)
  | [] => .nil
  | f :: r => by
    rw [predicatesAll, List.flatMap_append]
    exact .cons (requotes_compile f) (requotes_compileAll r)

end

end Filter

/-! ### Search clauses -/

namespace Search

lemma requotes_move {m : Move} {v : Value} (h : m.wire = .ok v) :
    ∃ v', m.unmarked.wire = .ok v' ∧ Requotes v.chars v'.chars m.concepts.texts := by
  obtain ⟨force, hforce, h⟩ := Checked.bind_ok h
  obtain rfl := Checked.pure_ok h
  refine ⟨_, by rw [Move.unmarked, Move.wire, hforce]; rfl, ?_⟩
  rw [Phrases.texts_unmarked]
  exact requotes_textsObject "concepts" m.concepts.texts _

lemma fieldsRequote_moveWire {m : Option Move} {name : String} {fs : Arguments}
    (h : moveWire name m = .ok fs) : ∃ fs', moveWire name (m.map Move.unmarked) = .ok fs' ∧
      FieldsRequote fs fs' (moveTexts m) := by
  cases m with
  | none =>
    obtain rfl : [] = fs := Except.ok.inj h
    exact ⟨[], rfl, .refl []⟩
  | some m =>
    obtain ⟨v, hv, rfl⟩ := Checked.map_ok h
    obtain ⟨v', hv', hrequotes⟩ := requotes_move hv
    refine ⟨[(name, v')], by rw [Option.map_some, moveWire, hv']; rfl, ?_⟩
    rw [moveTexts, Option.toList_some, List.flatMap_singleton]
    exact .singleton name hrequotes

lemma fieldsRequote_properties (ps : Option Phrases) :
    FieldsRequote (propertiesWire ps) (propertiesWire (ps.map Phrases.unmarked)) (propertyTexts ps) := by
  cases ps with
  | none => exact .refl []
  | some ps =>
    rw [propertyTexts, Option.toList_some, List.flatMap_singleton, Option.map_some, propertiesWire,
      propertiesWire, Phrases.texts_unmarked]
    exact .singleton "properties" (requotes_ofTexts ps.texts)

/-- One text, and parts of the clause without texts. -/
lemma fieldsRequote_near (name field : String) (t : MarkedText) (fs : Arguments) :
    FieldsRequote [(name, .object ((field, .ofText t) :: fs))]
      [(name, .object ((field, .ofText t.unmarked) :: fs))] [t] :=
  .singleton name (requotes_object (.cons field (requotes_ofText t) (.refl fs)))

theorem fieldsRequote_argument {s : Search} {o : Option (String × Value)} (h : s.argument = .ok o) :
    ∃ o', s.unmarked.argument = .ok o' ∧ FieldsRequote o.toList o'.toList s.literalTexts := by
  cases s with
  | fetchAll =>
    obtain rfl := Except.ok.inj h
    exact ⟨none, rfl, .refl []⟩
  | fetchById id =>
    obtain rfl := Except.ok.inj h
    exact ⟨none, rfl, .refl []⟩
  | nearText concepts threshold moveTo moveAway =>
    obtain ⟨toward, htoward, h⟩ := Checked.bind_ok h
    obtain ⟨away, haway, h⟩ := Checked.bind_ok h
    obtain rfl := Checked.pure_ok h
    obtain ⟨toward', htoward', hto⟩ := fieldsRequote_moveWire htoward
    obtain ⟨away', haway', hfrom⟩ := fieldsRequote_moveWire haway
    refine ⟨_, by rw [unmarked, argument, htoward', haway']; rfl, ?_⟩
    refine .singleton "nearText" (requotes_object ?_)
    rw [Phrases.texts_unmarked, List.append_assoc, List.append_assoc]
    exact .cons "concepts" (requotes_ofTexts _) ((FieldsRequote.refl threshold.wire).append
      (hto.append hfrom))
  | nearVector first rest threshold => exact ⟨o, h, .refl _⟩
  | nearObject id threshold =>
    obtain rfl := Except.ok.inj h
    exact ⟨_, rfl, fieldsRequote_near "nearObject" "id" id.text _⟩
  | nearImage data threshold =>
    obtain rfl := Except.ok.inj h
    exact ⟨_, rfl, fieldsRequote_near "nearImage" "image" data.text _⟩
  | nearMedia kind data threshold =>
    obtain rfl := Except.ok.inj h
    exact ⟨_, rfl, fieldsRequote_near kind.argument kind.text.content data.text _⟩
  | bm25 query properties =>
    obtain rfl := Except.ok.inj h
    exact ⟨_, rfl, .singleton "bm25" (requotes_object
      (.cons "query" (requotes_ofText query.text) (fieldsRequote_properties properties)))⟩
  | hybrid query alpha fusion properties =>
    obtain rfl := Except.ok.inj h
    refine ⟨_, rfl, .singleton "hybrid" (requotes_object ?_)⟩
    exact (FieldsRequote.cons "query" (requotes_ofText query.text) (.refl _)).append
      (fieldsRequote_properties properties)

end Search

/-! ### All arguments -/

lemma requotes_sortSpec (s : SortSpec) :
    Requotes s.wire.chars s.unmarked.wire.chars s.path.segments :=
  requotes_textsObject "path" s.path.segments _

lemma requotes_groupBy (g : GroupBySpec) :
    Requotes g.wire.chars g.unmarked.wire.chars g.path.segments :=
  requotes_textsObject "path" g.path.segments _

lemma requotes_path (p : Path) : Requotes (Value.ofTexts p.segments).chars
    (Value.ofTexts p.unmarked.segments).chars p.segments :=
  requotes_ofTexts p.segments

lemma requotes_tenant (t : Tenant) :
    Requotes (Value.ofText t.text).chars (Value.ofText t.unmarked.text).chars [t.text] :=
  requotes_ofText t.text

namespace QueryDescriptor

variable {q : QueryDescriptor} {c : RendererConfig} {fs : Arguments}

lemma fieldsRequote_searchArgument (h : q.searchArgument = .ok fs) :
    ∃ fs', q.unmarked.searchArgument = .ok fs' ∧
      FieldsRequote fs fs' (q.search.toList.flatMap Search.literalTexts) := by
  unfold searchArgument at h ⊢
  cases hs : q.search with
  | none =>
    rw [hs] at h
    obtain rfl := Except.ok.inj h
    exact ⟨[], by simp only [unmarked, hs, Option.map_none], .refl []⟩
  | some s =>
    rw [hs] at h
    obtain ⟨o, ho, rfl⟩ := Checked.map_ok h
    obtain ⟨o', ho', hrequote⟩ := Search.fieldsRequote_argument ho
    refine ⟨o'.toList, by simp only [unmarked, hs, Option.map_some, ho']; rfl, ?_⟩
    rwa [Option.toList_some, List.flatMap_singleton]

lemma fieldsRequote_sortArgument (q : QueryDescriptor) :
    FieldsRequote q.sortArgument q.unmarked.sortArgument (q.sort.flatMap (·.path.segments)) := by
  cases hs : q.sort with
  | nil =>
    simp only [sortArgument, unmarked, hs]
    exact .refl []
  | cons s ss =>
    simp only [sortArgument, unmarked, hs]
    exact .singleton "sort" (requotes_map (s :: ss) requotes_sortSpec)

lemma fieldsRequote_whereArgument (q : QueryDescriptor) :
    FieldsRequote (argument "where" id q.whereValue) (argument "where" id q.unmarked.whereValue)
      (q.effectiveFilter.toList.flatMap Filter.literalTexts) := by
  rw [whereValue, whereValue, effectiveFilter_unmarked]
  cases q.effectiveFilter with
  | none => exact .refl []
  | some f =>
    rw [Option.toList_some, List.flatMap_singleton]
    exact .singleton "where" f.requotes_compile

theorem fieldsRequote_arguments (h : q.arguments c = .ok fs) :
    ∃ fs', q.unmarked.arguments c = .ok fs' ∧ FieldsRequote fs fs' q.argumentTexts := by
  obtain ⟨search, hsearch, h⟩ := Checked.bind_ok h
  obtain rfl := Checked.pure_ok h
  obtain ⟨search', hsearch', hrequote⟩ := fieldsRequote_searchArgument hsearch
  refine ⟨_, by rw [arguments, hsearch']; rfl, ?_⟩
  have hgroup := fieldsRequote_argument "groupBy" GroupBySpec.unmarked q.groupBy requotes_groupBy
  have htenant := fieldsRequote_argument "tenant" Tenant.unmarked q.tenant requotes_tenant
  have hcounts := FieldsRequote.refl (argument "limit" (fun n : Count => .int n.value) q.limit ++
    argument "offset" (fun n : Nat => .int n) q.offset)
  have hwords := FieldsRequote.refl (argument "autocut" (fun n : Count => .int n.value) q.autocut ++
    argument "consistencyLevel" (fun l : ConsistencyLevel => .enum l.text.content) (q.effectiveLevel c))
  have h := hcounts.append (q.fieldsRequote_whereArgument.append (hrequote.append
    (q.fieldsRequote_sortArgument.append (hgroup.append (hwords.append htenant)))))
  simp only [List.nil_append, List.append_assoc, ← List.map_eq_flatMap] at h ⊢
  exact h

end QueryDescriptor

namespace AggregateDescriptor

variable {a : AggregateDescriptor} {fs : Arguments}

theorem fieldsRequote_arguments (h : a.arguments = .ok fs) :
    ∃ fs', a.unmarked.arguments = .ok fs' ∧ FieldsRequote fs fs' a.literalTexts := by
  have hfilter := fieldsRequote_argument "where" Filter.unmarked a.filter Filter.requotes_compile
  have hgroup := fieldsRequote_argument "groupBy" Path.unmarked a.groupByPath requotes_path
  have htenant := fieldsRequote_argument "tenant" Tenant.unmarked a.tenant requotes_tenant
  have hcounts := FieldsRequote.refl (
    argument "objectLimit" (fun n : Count => .int n.value) a.objectLimit ++
    argument "limit" (fun n : Count => .int n.value) a.limit)
  have hall {search search' : Arguments} {us : List MarkedText} (h : FieldsRequote search search' us) :=
    hfilter.append (h.append (hcounts.append (hgroup.append htenant)))
  simp only [List.nil_append, List.append_assoc, ← List.map_eq_flatMap] at hall
  unfold arguments at h ⊢
  unfold literalTexts
  cases hs : a.search with
  | none =>
    rw [hs] at h
    obtain rfl := Except.ok.inj h
    refine ⟨_, by simp only [unmarked, hs, Option.map_none]; rfl, ?_⟩
    simp only [List.append_assoc]
    exact hall (.refl [])
  | some s =>
    rw [hs] at h
    obtain ⟨search, hsearch, h⟩ := Checked.bind_ok h
    obtain rfl := Checked.pure_ok h
    obtain ⟨o, ho, rfl⟩ := Checked.map_ok hsearch
    obtain ⟨o', ho', hrequote⟩ := Search.fieldsRequote_argument ho
    have hargument : s.unmarked.search.argument = .ok o' := ho'
    refine ⟨_, by simp only [unmarked, hs, Option.map_some, hargument]; rfl, ?_⟩
    rw [Option.toList_some, List.flatMap_singleton]
    simp only [List.append_assoc]
    exact hall hrequote

end AggregateDescriptor

/-! ### In parentheses -/

lemma requoted_argumentsChars {fs fs' : Arguments} (h : FieldsRequote fs fs' ts)
    (hr : Requoted r r' us) :
    Requoted (argumentsChars fs ++ r) (argumentsChars fs' ++ r') (ts ++ us) := by
  have hclosed := requotes_join h (delimited_cons (c := ')') (by decide) r) (.char ')' hr)
  rw [← fieldsChars_eq_join, ← fieldsChars_eq_join] at hclosed
  cases fs with
  | nil =>
    cases fs' with
    | nil =>
      cases h
      exact hr
    | cons f' fs' => cases h
  | cons f fs =>
    cases fs' with
    | nil => cases h
    | cons f' fs' =>
      simp only [argumentsChars, List.isEmpty_cons, Bool.false_eq_true, if_false, List.cons_append,
        List.append_assoc, List.nil_append]
      exact .char '(' hclosed

end VectorQuery
