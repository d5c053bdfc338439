import VectorQuery.Aggregate.Render
import VectorQuery.Proofs.Distinct
import VectorQuery.Proofs.Filter.WhereTree
import VectorQuery.Proofs.GraphQL.FieldReader
import Mathlib.Data.List.Forall2

/-! The document of an aggregation read back. It has one field below the operation, with the arguments and the
fields that the aggregation asks for, in order, and nothing else. -/
namespace VectorQuery
open GraphQL

/-! ### Entries and fields -/

namespace Entry

/-- An entry that writes a field: its lines have the tokens of the field, which is read back as itself. -/
structure Writes (e : Entry) (f : Field) : Prop where
  tokens : e.selection.tokens? = some f.tokens
  faithful : f.IsFaithful

variable {es : List Entry} {fs : List Field}

lemma tokensAll?_of_writes (h : List.Forall₂ Writes es fs) :
    Selection.tokensAll? (es.map selection) = some (Field.tokensAll fs) := by
  induction h with
  | nil => rfl
  | cons hf _ ih =>
    rw [List.map_cons, Selection.tokensAll?, hf.tokens, ih]
    rfl

lemma isFaithful_of_writes (h : List.Forall₂ Writes es fs) : ∀ f ∈ fs, f.IsFaithful := by
  induction h with
  | nil => simp
  | cons hf _ ih => exact List.forall_mem_cons.2 ⟨hf.faithful, ih⟩

lemma writes_name {t : MarkedText} (h : isStrictName t.content.toList = true) :
    (field t).Writes (.leaf t.content) :=
  ⟨by rw [selection, Selection.tokens?, tokens?_strictName h]; rfl, Field.isFaithful_leaf h⟩

/-- Fields in braces, under a name. -/
lemma writes_block {name : MarkedText} {ts : List MarkedText}
    (hn : isStrictName name.content.toList = true) (hne : fs ≠ [])
    (h : List.Forall₂ Writes (ts.map field) fs) :
    (block name ts).Writes (.node name.content [] fs) := by
  have hlines : Selection.tokensAll? (ts.map fun t => .line t.content.toList) =
      some (Field.tokensAll fs) := by
    rw [← tokensAll?_of_writes h, List.map_map]
    rfl
  refine ⟨?_, Field.isFaithful_node hn (by simp) (isFaithful_of_writes h)⟩
  rw [selection, Selection.tokens?, tokens?_opening hn, hlines, Field.tokens_node hne]
  simp [argumentsTokens]

/-- Entries and fields that are made of the same parts. -/
lemma forall₂_writes {α : Type} {entry : α → Entry} {field : α → Field} {xs : List α}
    (h : ∀ x ∈ xs, (entry x).Writes (field x)) :
    List.Forall₂ Writes (xs.map entry) (xs.map field) :=
  List.forall₂_map_left_iff.2 (List.forall₂_map_right_iff.2 (List.forall₂_same.2 h))

/-- A document of such entries is read as one field below the operation. -/
theorem readDocument?_of_writes {operation collection : String} {arguments : Arguments}
    (ho : isStrictName operation.toList = true) (hc : isStrictName collection.toList = true)
    (ha : ∀ a ∈ arguments, IsFaithfulField a) (h : List.Forall₂ Writes es fs) (hne : fs ≠ [])
    (n : Nat) :
    readDocument? (Document.chars ⟨operation.toList, collection.toList, argumentsChars arguments,
      es.map selection⟩ (List.replicate n ' ')) =
        some [.node operation [] [.node collection arguments fs]] := by
  have hroot : (Field.node operation [] [.node collection arguments fs]).IsFaithful :=
    Field.isFaithful_node ho (by simp) <| List.forall_mem_singleton.2 <|
      Field.isFaithful_node hc ha (isFaithful_of_writes h)
  obtain ⟨hlegible, hsame⟩ := Field.all_faithful (List.forall_mem_singleton.2 hroot)
  have htokens := tokens?_document ho hc (Value.fieldsLegible_of_faithful ha).1
    (tokensAll?_of_writes h) n
  have hdocument : documentTokens operation.toList collection.toList (argumentsTokens arguments)
      (Field.tokensAll fs) = .mark '{' ::
        (Field.tokensAll [.node operation [] [.node collection arguments fs]] ++ [.mark '}']) := by
    simp [documentTokens, openingTokens, Field.tokensAll, Field.tokens_node, hne, argumentsTokens]
  rw [hdocument] at htokens
  rw [readDocument?_of_tokens? (List.cons_ne_nil _ _) hlegible htokens, hsame]

end Entry

/-! ### Metrics -/

namespace Metric

/-- What a document calls a metric, by a table of its own. -/
def calledName : Metric → String
  | count => "count"
  | type => "type"
  | sum => "sum"
  | mean => "mean"
  | median => "median"
  | mode => "mode"
  | maximum => "maximum"
  | minimum => "minimum"
  | topOccurrences => "topOccurrences"
  | percentageTrue => "percentageTrue"
  | percentageFalse => "percentageFalse"
  | totalTrue => "totalTrue"
  | totalFalse => "totalFalse"

/-- A metric as a field; the most frequent values have a limit, and fields of their own. -/
def field (m : Metric) (limit : Count) : Field :=
  match m with
  | topOccurrences =>
    .node "topOccurrences" [("limit", .int limit.value)] [.leaf "value", .leaf "occurs"]
  | m => .leaf m.calledName

lemma symbol_eq_calledName (m : Metric) : m.symbol = m.calledName := by
  cases m <;> rfl

lemma isStrictName_symbol (m : Metric) : isStrictName m.symbol.toList = true := by
  cases m <;> decide

lemma writes_symbol (m : Metric) : (Entry.field (.plain m.symbol)).Writes (.leaf m.calledName) := by
  rw [← symbol_eq_calledName]
  exact Entry.writes_name m.isStrictName_symbol

lemma toList_topOccurrences (limit : Count) : (topOccurrences.rendered limit.value).toList =
    inlineChars "topOccurrences" [("limit", .int limit.value)] ["value", "occurs"] := by
  have hnumber : (toString (limit.value : Int)).toList = intChars limit.value := by
    have hrepr : toString (limit.value : Int) = limit.value.repr := rfl
    rw [hrepr, Nat.toList_repr, intChars, if_neg (Int.natCast_nonneg _).not_gt, Int.natAbs_natCast]
  have htext : topOccurrences.rendered limit.value = "topOccurrences(limit: " ++
      toString (limit.value : Int) ++ ") \x7b value occurs \x7d" := rfl
  have harguments : argumentsChars [("limit", .int limit.value)] =
      "(limit: ".toList ++ intChars limit.value ++ [')'] := rfl
  have hfront : "topOccurrences(limit: ".toList = "topOccurrences".toList ++ "(limit: ".toList := by
    decide
  have hbody : ") \x7b value occurs \x7d".toList =
      ')' :: ' ' :: '{' :: (["value", "occurs"].flatMap (fun w => ' ' :: w.toList) ++ [' ', '}']) := by
    decide
  rw [htext, String.toList_append, String.toList_append, hnumber, inlineChars, harguments, hfront, hbody]
  simp only [List.append_assoc, List.singleton_append]

lemma writes_rendered (m : Metric) (limit : Count) :
    (Entry.field (.plain (m.rendered limit.value))).Writes (m.field limit) := by
  by_cases hm : m = topOccurrences
  case pos =>
    subst hm
    have hlimit : ∀ a ∈ [("limit", Value.int limit.value)], IsFaithfulField a :=
      List.forall_mem_singleton.2 (isFaithfulField (by decide) (Value.isFaithful_int _))
    have hleaves : ∀ w ∈ ["value", "occurs"], isStrictName w.toList = true := by decide
    refine ⟨?_, Field.isFaithful_node (by decide) hlimit (List.forall_mem_map.2 fun w hw =>
      Field.isFaithful_leaf (hleaves w hw))⟩
    rw [Entry.selection, Selection.tokens?, MarkedText.content_plain, toList_topOccurrences]
    exact Field.tokens?_inlineChars (by decide) (Value.fieldsLegible_of_faithful hlimit).1 hleaves
      (List.cons_ne_nil _ _)
  case neg =>
    have hrendered : m.rendered limit.value = m.symbol := by cases m <;> trivial
    have hfield : m.field limit = .leaf m.calledName := by cases m <;> trivial
    rw [hrendered, hfield]
    exact m.writes_symbol

end Metric

/-! ### What an aggregation asks for -/

/-- The limit of the most frequent values: that of the entry, or the configured one. -/
def PropertyMetrics.limit (p : PropertyMetrics) (c : RendererConfig) : Count :=
  p.topOccurrencesLimit.getD c.topOccurrencesLimit

/-- The block of a property: each of its metrics once. -/
def PropertyMetrics.field (p : PropertyMetrics) (c : RendererConfig) : Field :=
  .node p.property.content [] (p.metrics.eraseDups.map fun m => m.field (p.limit c))

namespace AggregateDescriptor

variable {a : AggregateDescriptor} {c : RendererConfig}

/-- Every text of the caller in an aggregation. -/
def texts (a : AggregateDescriptor) : List MarkedText :=
  a.collection.text :: (a.propertyMetrics.map (·.property.text) ++
    ((a.filter.toList.flatMap Filter.predicates).flatMap Predicate.texts ++
    (a.search.toList.flatMap (·.search.texts) ++ (a.groupByPath.toList.flatMap Path.segments ++
    a.tenant.toList.map Tenant.text))))

/-- The texts that are checked to be names or to become one. -/
def nameTexts (a : AggregateDescriptor) : List MarkedText :=
  a.collection.text :: (a.propertyMetrics.map (·.property.text) ++
    (a.filter.toList.flatMap Filter.predicates).flatMap (·.operator.texts))

/-- The arguments that are set, in their order; `search` is that of the search clause. -/
def requestedArguments (a : AggregateDescriptor) (search : Option (String × Value)) : Arguments :=
  (a.filter.map fun f => ("where", f.compile.value)).toList ++ search.toList ++
    (a.objectLimit.map fun n => ("objectLimit", .int n.value)).toList ++
    (a.limit.map fun n => ("limit", .int n.value)).toList ++
    (a.groupByPath.map fun p => ("groupBy", .list (p.segments.map fun t => .string t.content))).toList ++
    (a.tenant.map fun t => ("tenant", .string t.text.content)).toList

/-- The metrics of the whole: each once, or a count where no metric is asked for at all. -/
def requestedMeta (a : AggregateDescriptor) : List Field :=
  match a.metaMetrics, a.propertyMetrics with
  | [], [] => [.node "meta" [] [.leaf "count"]]
  | [], _ :: _ => []
  | ms, _ => [.node "meta" [] (ms.eraseDups.map fun m => .leaf m.calledName)]

/-- The fields that are asked for, in their order. -/
def requestedFields (a : AggregateDescriptor) (c : RendererConfig) : List Field :=
  (if a.groupByPath.isSome then [.node "groupedBy" [] [.leaf "path", .leaf "value"]] else []) ++
    a.requestedMeta ++ a.propertyMetrics.map fun p => p.field c

/-! ### Arguments -/

/-- What the search clause of the aggregation gives: an argument if there is a clause, and else nothing. -/
structure HasSearchArgument (a : AggregateDescriptor) (search : Option (String × Value)) : Prop where
  isSome_eq : search.isSome = a.search.isSome
  eq_argument : ∀ s, a.search = some s → s.search.argument = .ok search

/-- A search clause that an aggregation can run over has an argument. -/
lemma isSome_of_isAggregable {s : Search} {o : Option (String × Value)}
    (hs : s.isAggregable = true) (h : s.argument = .ok o) : o.isSome = true := by
  cases s with
  | fetchAll => cases hs
  | fetchById id => cases hs
  | bm25 query properties => cases hs
  | nearText concepts threshold moveTo moveAway =>
    obtain ⟨toward, -, h⟩ := Checked.bind_ok h
    obtain ⟨away, -, h⟩ := Checked.bind_ok h
    obtain rfl := Checked.pure_ok h
    rfl
  | nearVector first rest threshold =>
    obtain ⟨vs, -, h⟩ := Checked.bind_ok h
    obtain rfl := Checked.pure_ok h
    rfl
  | nearObject id threshold =>
    obtain rfl := Except.ok.inj h
    rfl
  | nearImage data threshold =>
    obtain rfl := Except.ok.inj h
    rfl
  | nearMedia kind data threshold =>
    obtain rfl := Except.ok.inj h
    rfl
  | hybrid query alpha fusion properties =>
    obtain rfl := Except.ok.inj h
    rfl

lemma exists_search_of_arguments {fs : Arguments} (h : a.arguments = .ok fs) :
    ∃ search, a.HasSearchArgument search ∧
      fs = argument "where" (fun f => f.compile.value) a.filter ++ search.toList ++
        argument "objectLimit" (fun n => .int n.value) a.objectLimit ++
        argument "limit" (fun n => .int n.value) a.limit ++
        argument "groupBy" (fun p => .ofTexts p.segments) a.groupByPath ++
        argument "tenant" (fun t => .ofText t.text) a.tenant := by
  unfold arguments at h
  cases hs : a.search with
  | none =>
    rw [hs] at h
    obtain rfl := Except.ok.inj h
    exact ⟨none, ⟨by rw [hs]; rfl, by simp [hs]⟩, rfl⟩
  | some s =>
    rw [hs] at h
    obtain ⟨found, hfound, h⟩ := Checked.bind_ok h
    obtain rfl := Checked.pure_ok h
    obtain ⟨search, hsearch, rfl⟩ := Checked.map_ok hfound
    refine ⟨search, ⟨by rw [isSome_of_isAggregable s.aggregable hsearch, hs]; rfl, fun u hu => ?_⟩, rfl⟩
    obtain rfl := Option.some.inj (hs.symm.trans hu)
    exact hsearch

lemma HasSearchArgument.isFaithful {search : Option (String × Value)}
    (hp : ArePlain (a.search.toList.flatMap (·.search.texts))) (h : a.HasSearchArgument search) :
    ∀ f ∈ search.toList, IsFaithfulField f := by
  intro f hf
  obtain rfl := Option.mem_toList.1 hf
  obtain ⟨s, hs⟩ := Option.isSome_iff_exists.1 h.isSome_eq.symm
  exact Search.isFaithful_argument (by simpa [hs] using hp) (h.eq_argument s hs)

/-- The arguments of an aggregation of plain texts: those that are set, all of them read back as they are. -/
theorem exists_requestedArguments (hp : ArePlain a.texts)
    (hn : ∀ t ∈ a.nameTexts, '\n' ∉ t.content.toList) {fs : Arguments} (h : a.arguments = .ok fs) :
    ∃ search, a.HasSearchArgument search ∧ fs = a.requestedArguments search ∧
      ∀ f ∈ fs, IsFaithfulField f := by
  obtain ⟨search, hsearch, rfl⟩ := exists_search_of_arguments h
  simp only [texts, arePlain_cons, arePlain_append] at hp
  simp only [nameTexts, List.forall_mem_cons, List.forall_mem_append] at hn
  obtain ⟨-, -, hfilter, hquery, hgroup, htenant⟩ := hp
  have hpath {p : Path} (h : a.groupByPath = some p) : ArePlain p.segments := by
    simpa [h] using hgroup
  have htext {t : Tenant} (h : a.tenant = some t) : t.text.isPlain = true :=
    htenant _ (by simp [h])
  refine ⟨search, hsearch, ?requested, ?faithful⟩
  case requested =>
    have hgroups : (a.groupByPath.map fun p => ("groupBy", Value.ofTexts p.segments)) =
        a.groupByPath.map fun p => ("groupBy", .list (p.segments.map fun t => .string t.content)) :=
      Option.map_congr fun p h => by rw [ofTexts_eq_list (hpath h)]
    have htenants : (a.tenant.map fun t => ("tenant", Value.ofText t.text)) =
        a.tenant.map fun t => ("tenant", .string t.text.content) :=
      Option.map_congr fun t h => by rw [ofText_eq_string (htext h)]
    simp only [requestedArguments, argument_eq_toList, hgroups, htenants]
  case faithful =>
    simp only [List.forall_mem_append]
    refine ⟨⟨⟨⟨⟨?condition, hsearch.isFaithful hquery⟩, ?objects⟩, ?limit⟩, ?group⟩, ?tenant⟩
    case condition =>
      refine isFaithful_ofOption (by decide) fun f hf => Filter.isFaithful_compile f ?_
      exact Filter.isClean_of_texts (by simpa [hf] using hfilter) (by simpa [hf] using hn.2.2)
    case objects => exact isFaithful_ofOption (by decide) fun n _ => Value.isFaithful_int n.value
    case limit => exact isFaithful_ofOption (by decide) fun n _ => Value.isFaithful_int n.value
    case group => exact isFaithful_ofOption (by decide) fun p h => isFaithful_ofTexts (hpath h)
    case tenant => exact isFaithful_ofOption (by decide) fun t h => isFaithful_ofText (htext h)

/-! ### Selection -/

lemma writes_meta (a : AggregateDescriptor) : List.Forall₂ Entry.Writes
    (if a.metaFields.isEmpty then []
      else [.block (.plain "meta") (a.metaFields.map fun m => .plain m.symbol)]) a.requestedMeta := by
  have hblock {ms : List Metric} (hne : ms ≠ []) : (Entry.block (.plain "meta")
      (ms.map fun m => .plain m.symbol)).Writes
        (.node "meta" [] (ms.map fun m => .leaf m.calledName)) := by
    refine Entry.writes_block (by decide) (by simpa using hne) ?_
    rw [List.map_map]
    exact Entry.forall₂_writes fun m _ => m.writes_symbol
  unfold metaFields requestedMeta
  rw [distinct_eq_eraseDups]
  rcases a.metaMetrics with _ | ⟨m, ms⟩
  · rcases a.propertyMetrics with _ | ⟨p, ps⟩
    · exact .cons (hblock (List.cons_ne_nil Metric.count [])) .nil
    · exact .nil
  · have hne : (m :: ms).eraseDups ≠ [] := by simp [List.eraseDups_cons]
    simp only [hne, List.isEmpty_iff, Bool.and_eq_true, false_and, if_false]
    exact .cons (hblock hne) .nil

theorem writes_selection (hn : ∀ t ∈ a.nameTexts, '\n' ∉ t.content.toList) :
    List.Forall₂ Entry.Writes (a.selection c) (a.requestedFields c) := by
  refine List.rel_append (List.rel_append ?group a.writes_meta)
    (Entry.forall₂_writes fun p hp => ?property)
  case group =>
    split
    · exact .cons (Entry.writes_block (by decide) (by simp) (.cons (Entry.writes_name (by decide))
        (.cons (Entry.writes_name (by decide)) .nil))) .nil
    · exact .nil
  case property =>
    have hname : isStrictName p.property.content.toList = true :=
      isStrictName_of_isName p.property.valid (hn p.property.text (by
        simp only [nameTexts, List.mem_cons, List.mem_append, List.mem_map_of_mem hp, true_or, or_true]))
    unfold propertyBlock
    rw [distinct_eq_eraseDups]
    refine Entry.writes_block hname (by simp [PropertyMetrics.metrics, List.eraseDups_cons]) ?_
    rw [List.map_map]
    exact Entry.forall₂_writes fun m _ => m.writes_rendered (p.limit c)

lemma requestedFields_ne_nil (a : AggregateDescriptor) (c : RendererConfig) :
    a.requestedFields c ≠ [] := by
  unfold requestedFields requestedMeta
  rcases a.metaMetrics with _ | ⟨m, ms⟩
  · rcases a.propertyMetrics with _ | ⟨p, ps⟩ <;> simp
  · simp

/-- Every field that is asked for has fields of its own. -/
lemma fields_ne_nil (a : AggregateDescriptor) (c : RendererConfig) :
    ∀ f ∈ a.requestedFields c, f.fields ≠ [] := by
  simp only [requestedFields, List.forall_mem_append]
  refine ⟨⟨?group, ?whole⟩, List.forall_mem_map.2 fun p _ => ?property⟩
  case group => split <;> simp [Field.fields]
  case whole =>
    unfold requestedMeta
    rcases a.metaMetrics with _ | ⟨m, ms⟩
    · rcases a.propertyMetrics with _ | ⟨p, ps⟩
      · exact List.forall_mem_singleton.2 (List.cons_ne_nil _ _)
      · simp
    · exact List.forall_mem_singleton.2 (by simp [Field.fields, List.eraseDups_cons])
  case property =>
    simp [PropertyMetrics.field, PropertyMetrics.metrics, Field.fields, List.eraseDups_cons]

/-- The document is one field below the operation. Its arguments are those that are set, its fields those
that are asked for, and there are no braces with nothing between them. -/
theorem readDocument?_render (a : AggregateDescriptor) (c : RendererConfig) {text : String}
    (hplain : ∀ t ∈ a.texts, t.isPlain = true)
    (hnames : ∀ t ∈ a.nameTexts, '\n' ∉ t.content.toList) (h : a.render c = .ok text) :
    ∃ search : Option (String × Value),
      readDocument? text.toList = some [.node "Aggregate" []
        [.node a.collection.content (a.requestedArguments search) (a.requestedFields c)]] ∧
      a.HasSearchArgument search ∧
      (∀ f, a.filter = some f → WhereTree.ofValue? f.compile.value = some f.tree) ∧
      (a.requestedFields c ≠ [] ∧ ∀ f ∈ a.requestedFields c, f.fields ≠ []) ∧
      ∀ p ∈ a.propertyMetrics, 1 ≤ (p.limit c).value := by
  obtain ⟨fs, hfs, h⟩ := Checked.bind_ok h
  obtain rfl := Checked.pure_ok h
  obtain ⟨search, hsearch, rfl, hfaithful⟩ := exists_requestedArguments hplain hnames hfs
  have hoperation : isStrictName "Aggregate".toList = true := by decide
  have hcollection : isStrictName a.collection.content.toList = true :=
    isStrictName_of_isName a.collection.valid (hnames a.collection.text (by simp [nameTexts]))
  have hread := Entry.readDocument?_of_writes hoperation hcollection hfaithful
    (writes_selection hnames) (a.requestedFields_ne_nil c) c.indent
  refine ⟨search, ?document, hsearch, fun f hf => ?condition,
    ⟨a.requestedFields_ne_nil c, a.fields_ne_nil c⟩, fun p _ => (p.limit c).positive⟩
  case document =>
    rw [Document.render, String.toList_ofList]
    exact hread
  case condition =>
    refine WhereTree.ofValue?_compile f fun p hp t ht => hplain t ?_
    have htexts : t ∈ f.predicates.flatMap Predicate.texts := List.mem_flatMap.2 ⟨p, hp, ht⟩
    simp only [texts, List.mem_cons, List.mem_append, hf, Option.toList_some, List.flatMap_singleton,
      htexts, true_or, or_true]

/-- Groups of papers near another one, with metrics asked for twice and a limit for one property. -/
def paperGroups : AggregateDescriptor where
  collection := ⟨.plain "Paper", by decide⟩
  metaMetrics := [.count, .type, .count]
  propertyMetrics := [⟨⟨.plain "topic", by decide⟩, .topOccurrences, [.count, .topOccurrences],
    some ⟨3, Nat.succ_pos 2⟩⟩, ⟨⟨.plain "pages", by decide⟩, .mean, [.maximum, .mean, .minimum], none⟩,
    ⟨⟨.plain "open", by decide⟩, .percentageTrue, [.topOccurrences], none⟩]
  groupByPath := some ⟨[.plain "author"], by decide⟩
  search := some ⟨.nearObject ⟨.plain "a\"b", by decide⟩ .absent, rfl⟩
  filter := some (.any (.leaf ⟨⟨[.plain "pages"], by decide⟩, .known .greaterOrEqual, .integer 3⟩)
    [.leaf ⟨⟨[.plain "venue"], by decide⟩, .known .like, .text (.plain "\x7d) \x7b")⟩])
  objectLimit := none
  limit := some ⟨9, Nat.succ_pos 8⟩
  tenant := none

theorem readDocument?_render_paperGroups : ∃ text, paperGroups.render .standard = .ok text ∧
    readDocument? text.toList = some [.node "Aggregate" [] [.node "Paper"
      [("where", .object [("operator", .enum "Or"), ("operands", .list [
        .object [("path", .list [.string "pages"]), ("operator", .enum "GreaterThanEqual"),
          ("valueInt", .int 3)],
        .object [("path", .list [.string "venue"]), ("operator", .enum "Like"),
          ("valueText", .string "\x7d) \x7b")]])]),
        ("nearObject", .object [("id", .string "a\"b")]), ("limit", .int 9),
        ("groupBy", .list [.string "author"])]
      [.node "groupedBy" [] [.leaf "path", .leaf "value"],
        .node "meta" [] [.leaf "count", .leaf "type"],
        .node "topic" [] [.node "topOccurrences" [("limit", .int 3)] [.leaf "value", .leaf "occurs"],
          .leaf "count"],
        .node "pages" [] [.leaf "mean", .leaf "maximum", .leaf "minimum"],
        .node "open" [] [.leaf "percentageTrue",
          .node "topOccurrences" [("limit", .int 5)] [.leaf "value", .leaf "occurs"]]]]] := by
  obtain ⟨text, htext⟩ : ∃ text, paperGroups.render .standard = .ok text := ⟨_, rfl⟩
  obtain ⟨search, hread, hsearch, -⟩ := readDocument?_render paperGroups .standard (by decide)
    (by decide) htext
  obtain rfl := Except.ok.inj (hsearch.eq_argument _ rfl)
  exact ⟨text, htext, hread⟩

end AggregateDescriptor

end VectorQuery
