import VectorQuery.Proofs.CommandLine.Conditions
import VectorQuery.Proofs.CommandLine.ExclusiveSearch
import VectorQuery.Proofs.Query.LastWrite

/-! The query that a command line describes, slot by slot. A flag that is given a value sets its slot or is refused;
a search that is given an empty text is taken for one that is not given. -/
namespace VectorQuery
open Checked

/-! ### Slots -/

namespace QueryDescriptor

/-- Queries that agree in everything they hold are the same. -/
lemma ext_read {p q : QueryDescriptor} (hcollection : p.collection = q.collection) (h : ∀ s, p.read s = q.read s) :
    p = q := by
  have hslots : p.read = q.read := funext h
  calc p = ofSlots p.collection p.read := rfl
    _ = ofSlots q.collection q.read := by rw [hcollection, hslots]
    _ = q := rfl

lemma write_read (q : QueryDescriptor) (s : QuerySlot) : q.write s (q.read s) = q := by
  unfold write
  rw [Function.update_eq_self]
  rfl

/-- Slots that are written with given values, and the others as they were. -/
lemma read_foldl_write (value : (s : QuerySlot) → s.Value) (ss : List QuerySlot) (q : QueryDescriptor) (s : QuerySlot) :
    (ss.foldl (fun q s => q.write s (value s)) q).read s = if s ∈ ss then value s else q.read s := by
  induction ss generalizing q with
  | nil => rfl
  | cons t ss ih =>
    rw [List.foldl_cons, ih, read_write]
    by_cases hmem : s ∈ ss
    · simp [hmem]
    · by_cases hst : s = t
      · subst hst
        simp
      · simp [hmem, hst]

lemma collection_foldl_write (value : (s : QuerySlot) → s.Value) (ss : List QuerySlot) (q : QueryDescriptor) :
    (ss.foldl (fun q s => q.write s (value s)) q).collection = q.collection := by
  induction ss generalizing q with
  | nil => rfl
  | cons t ss ih => exact ih (q.write t (value t))

lemma gives_get (collection : Datum) :
    Gives Reported (get (.data collection)) fun q =>
      ∃ n : Name, n.view = collection ∧ ofSlots n QuerySlot.default = q := by
  have hget : get (.data collection) =
      (Name.check "collection name" collection).map fun n => ofSlots n QuerySlot.default :=
    QuerySlots.check_given fun _ => none
  rw [hget]
  exact (Name.gives_check _ _).map _

lemma gives_apply {P : Fault → Prop} {call : QueryCall} {R : call.slot.Value → Prop} (h : Gives P call.value R)
    (q : QueryDescriptor) : Gives P (q.apply call) fun q' => ∃ v, R v ∧ q.write call.slot v = q' := by
  rw [apply_eq_write]
  exact h.map _

end QueryDescriptor

namespace CommandLine
open QueryDescriptor (gives_apply)

/-- The search clause of a flag with a text, with the number that goes with the flag where it is given. -/
inductive Clause (a : Arguments) (text : String) : Flag → Search → Prop
  | nearText {concepts : Phrases} {threshold : Threshold} (hconcepts : concepts.view = .tuple [.str text])
      (hcertainty : threshold.certaintyView = Given.datum? .float a.certainty)
      (hdistance : threshold.distanceView = .none) : Clause a text .nearText (.nearText concepts threshold none none)
  | bm25 {query : Phrase} (hquery : query.view = .str text) : Clause a text .bm25 (.bm25 query none)
  | hybrid {query : Phrase} {alpha : Option Share} (hquery : query.view = .str text)
      (halpha : viewOption (·.view) alpha = Given.datum? .float a.alpha) :
    Clause a text .hybrid (.hybrid query alpha none none)

namespace Arguments

variable {a : Arguments} {f : Flag} {text : String}

/-- The search of a query: the clause of a flag whose text is not empty, and none without such a flag. -/
inductive Retrieves (a : Arguments) : Option Search → Prop
  | clause {f : Flag} {text : String} {s : Search} (hgiven : a.search f = some (.value text)) (htext : text ≠ "")
      (hs : Clause a text f s) : Retrieves a (some s)
  | none (h : ∀ f text, a.search f = some (.value text) → text = "") : Retrieves a none

/-- The slots of a query that a command line can set. -/
def slots : List QuerySlot := [.fields, .search, .filter, .limit, .offset, .additionalFields]

/-- The query has what the command line gives in each slot, and nothing in the others. -/
structure Describes (a : Arguments) (q : QueryDescriptor) : Prop where
  collection : q.collection.view = a.collection.datum .str
  fields : q.fields.map FieldText.view = a.fields.map .str
  search : a.Retrieves q.search
  filter : ∃ fs, List.Forall₂ Equates a.whereEqual fs ∧ q.filter = conjunction fs
  limit : viewOption Count.view q.limit = Given.datum? .int a.limit
  offset : viewOption (fun n : Nat => .int n) q.offset = Given.datum? .int a.offset
  additional : q.additionalFields.map Name.view = a.additional.map .str
  unset : ∀ s ∉ slots, q.read s = s.default

/-! ### Searches -/

/-- A certainty that may be given, and no distance. -/
lemma gives_threshold (given : Option (Given Double)) :
    Gives Reported (Threshold.check (Given.datum? .float given) .none)
      fun t => t.certaintyView = Given.datum? .float given ∧ t.distanceView = .none := by
  have hcheck : Threshold.check (Given.datum? .float given) .none =
      (optional (Share.check "certainty") (Given.datum? .float given)).map fun c => c.elim .absent .certainty := by
    unfold Threshold.check
    cases optional (Share.check "certainty") (Given.datum? .float given) with
    | error e => rfl
    | ok c => cases c <;> rfl
  rw [hcheck]
  apply ((Share.gives_optional "certainty" given).map _).congr
  intro t
  constructor
  · rintro ⟨c, hc, rfl⟩
    cases c <;> exact ⟨hc, rfl⟩
  · rintro ⟨hcertainty, hdistance⟩
    cases t with
    | absent => exact ⟨none, hcertainty, rfl⟩
    | certainty c => exact ⟨some c, hcertainty, rfl⟩
    | distance d => exact absurd hdistance d.view_ne_none

lemma gives_phrases (name : String) (text : String) :
    Gives Reported (Phrases.check name (.str text)) (·.view = .tuple [.str text]) := by
  have hcheck : Phrases.check name (.str text) =
      (Phrase.check (name ++ " concept") (.str text)).map fun p => ⟨p, []⟩ := by
    change ([.str text].mapM (Phrase.check (name ++ " concept")) >>= _) = _
    rw [List.mapM_cons]
    cases Phrase.check (name ++ " concept") (.str text) <;> rfl
  rw [hcheck]
  apply ((Phrase.gives_check _ _).map _).congr
  intro ps
  obtain ⟨p, ps⟩ := ps
  cases ps <;> simp [Phrases.view, Phrases.toList]

/-- A clause is made of a flag with its text and its number, or what is wrong with them is reported. -/
lemma gives_clause (a : Arguments) (text : String) :
    Gives Reported (Search.checkNearText (.str text) (Given.datum? .float a.certainty) .none .none .none)
      (Clause a text .nearText) ∧
    Gives Reported (Search.checkBm25 (.str text) .none) (Clause a text .bm25) ∧
    Gives Reported (Search.checkHybrid (.str text) (Given.datum? .float a.alpha) .none .none)
      (Clause a text .hybrid) := by
  refine ⟨?nearText, ?bm25, ?hybrid⟩
  case nearText =>
    apply ((gives_phrases "nearText" text).bind fun concepts _ =>
      (gives_threshold a.certainty).bind fun threshold _ =>
        gives_ok (Search.nearText concepts threshold none none)).congr
    intro s
    constructor
    · rintro ⟨concepts, hconcepts, threshold, ⟨hcertainty, hdistance⟩, rfl⟩
      exact .nearText hconcepts hcertainty hdistance
    · intro h
      cases h with
      | nearText hconcepts hcertainty hdistance => exact ⟨_, hconcepts, _, ⟨hcertainty, hdistance⟩, rfl⟩
  case bm25 =>
    apply ((Phrase.gives_check "bm25 query" (.str text)).bind fun query _ => gives_ok (Search.bm25 query none)).congr
    intro s
    constructor
    · rintro ⟨query, hquery, rfl⟩
      exact .bm25 hquery
    · intro h
      cases h with
      | bm25 hquery => exact ⟨_, hquery, rfl⟩
  case hybrid =>
    apply ((Phrase.gives_check "hybrid query" (.str text)).bind fun query _ =>
      (Share.gives_optional "alpha" a.alpha).bind fun alpha _ => gives_ok (Search.hybrid query alpha none none)).congr
    intro s
    constructor
    · rintro ⟨query, hquery, alpha, halpha, rfl⟩
      exact .hybrid hquery halpha
    · intro h
      cases h with
      | hybrid hquery halpha => exact ⟨_, hquery, _, halpha, rfl⟩

/-- A text that is given and not empty. -/
lemma searchText?_eq_some_iff {given : Option (Given String)} {d : Datum} :
    searchText? given = some d ↔ ∃ text, given = some (.value text) ∧ text ≠ "" ∧ d = .str text := by
  constructor
  · intro h
    unfold searchText? at h
    split at h
    · split at h
      · cases h
      · rename_i text htext
        exact ⟨text, rfl, by simpa using htext, (Option.some.inj h).symm⟩
    · cases h
  · rintro ⟨text, rfl, htext, rfl⟩
    exact if_neg (by simpa using htext)

/-- The first search with a text makes the call, if there is any. -/
lemma searchCall?_cases (a : Arguments) :
    (∃ f text call search, a.search f = some (.value text) ∧ text ≠ "" ∧ a.searchCall? = some call ∧
      call.shortcut? = some search ∧ Gives Reported search (Clause a text f)) ∨
    (∀ f text, a.search f = some (.value text) → text = "") ∧ a.searchCall? = none := by
  unfold searchCall?
  split
  · rename_i h
    obtain ⟨text, hgiven, htext, rfl⟩ := searchText?_eq_some_iff.1 h
    exact .inl ⟨.nearText, text, _, _, hgiven, htext, rfl, rfl, (gives_clause a text).1⟩
  · rename_i h
    obtain ⟨text, hgiven, htext, rfl⟩ := searchText?_eq_some_iff.1 h
    exact .inl ⟨.bm25, text, _, _, hgiven, htext, rfl, rfl, (gives_clause a text).2.1⟩
  · rename_i h
    obtain ⟨text, hgiven, htext, rfl⟩ := searchText?_eq_some_iff.1 h
    exact .inl ⟨.hybrid, text, _, _, hgiven, htext, rfl, rfl, (gives_clause a text).2.2⟩
  · rename_i hnear hbm25 hhybrid
    refine .inr ⟨?_, rfl⟩
    have hempty {given : Option (Given String)} {text : String} (h : searchText? given = none)
        (hgiven : given = some (.value text)) : text = "" := by
      by_contra htext
      rw [searchText?_eq_some_iff.2 ⟨text, hgiven, htext, rfl⟩] at h
      cases h
    intro f text hgiven
    cases f with
    | nearText => exact hempty hnear hgiven
    | bm25 => exact hempty hbm25 hgiven
    | hybrid => exact hempty hhybrid hgiven
    | _ => cases hgiven

/-- Where one search at most is given, its flag and its text decide on the clause. -/
lemma retrieves_iff (hone : a.OneSearch) (hgiven : a.search f = some (.value text)) (htext : text ≠ "")
    {search : Option Search} : a.Retrieves search ↔ ∃ s, Clause a text f s ∧ some s = search := by
  constructor
  · rintro (⟨hgiven', -, hs⟩ | ⟨h⟩)
    · rename_i f' text' s
      obtain rfl := hone f f' (by simp [hgiven]) (by simp [hgiven'])
      obtain rfl := Given.value.inj (Option.some.inj (hgiven.symm.trans hgiven'))
      exact ⟨s, hs, rfl⟩
    · exact absurd (h f text hgiven) htext
  · rintro ⟨s, hs, rfl⟩
    exact .clause hgiven htext hs

/-! ### The calls in their order -/

/-- A query without a search gets the one of the command line. -/
lemma gives_applySearch (hone : a.OneSearch) {q : QueryDescriptor} (hq : q.search = none) :
    Gives Reported (applyAll q a.searchCall?.toList) fun q' =>
      ∃ search, a.Retrieves search ∧ q.write .search search = q' := by
  obtain ⟨f, text, call, search, hgiven, htext, hcall, hshortcut, hsearch⟩ | ⟨hempty, hcall⟩ := a.searchCall?_cases
  · have happly : applyAll q a.searchCall?.toList = search.map fun s => q.write .search (some s) := by
      rw [hcall]
      change (q.apply call >>= pure) = _
      rw [bind_pure]
      exact q.apply_shortcut hshortcut
    rw [happly]
    apply (hsearch.map _).congr
    simp [retrieves_iff hone hgiven htext]
  · rw [hcall]
    apply (gives_ok q).congr
    intro q'
    have hwrite : q.write .search none = q := by
      have hread : q.read .search = none := hq
      rw [← hread, q.write_read]
    constructor
    · rintro rfl
      exact ⟨none, .none hempty, hwrite⟩
    · rintro ⟨search, hsearch, rfl⟩
      cases hsearch with
      | clause hgiven htext => exact absurd (hempty _ _ hgiven) htext
      | none => exact hwrite.symm

/-- A query without a filter gets the conditions of the command line. -/
lemma gives_applyFilter {q : QueryDescriptor} (hq : q.filter = none) :
    Gives (Faulty a.whereEqual) (a.filterCall? >>= fun call? => applyAll q call?.toList) fun q' =>
      ∃ fs, List.Forall₂ Equates a.whereEqual fs ∧ q.write .filter (conjunction fs) = q' := by
  have happly (filter : Option Filter) :
      applyAll q (filter.map settingFilter).toList = .ok (q.write .filter filter) := by
    cases filter with
    | none =>
      have hread : q.read .filter = none := hq
      change Except.ok q = _
      rw [← hread, q.write_read]
    | some f =>
      change (q.apply (settingFilter f) >>= pure) = _
      rw [bind_pure, QueryDescriptor.apply_eq_write]
      rfl
  have hwrite : (a.filterCall? >>= fun call? => applyAll q call?.toList) =
      (a.whereEqual.mapM Arguments.condition).map fun fs => q.write .filter (conjunction fs) := by
    rw [filterCall?_eq]
    cases a.whereEqual.mapM Arguments.condition with
    | error e => rfl
    | ok fs => exact happly (conjunction fs)
  rw [hwrite]
  exact (gives_conditions a.whereEqual).map _

/-! ### The other slots -/

lemma views_str (texts : List String) : Term.views (texts.map .str) = texts.map .str := by
  induction texts with
  | nil => rfl
  | cons text texts ih =>
    rw [List.map_cons, Term.views, ih]
    rfl

lemma gives_fields (texts : List String) :
    Gives Reported (QueryCall.withFields (texts.map .str)).value
      fun fs : List FieldText => fs.map FieldText.view = texts.map .str := by
  have hvalue : (QueryCall.withFields (texts.map .str)).value =
      (texts.map .str).mapM (FieldText.check "field") := by
    rw [← views_str]
    rfl
  rw [hvalue]
  exact gives_items (FieldText.gives_check "field") _

lemma gives_additional (texts : List String) :
    Gives Reported (QueryCall.withAdditionalFields (texts.map .str)).value
      fun ns : List Name => ns.map Name.view = texts.map .str := by
  have hvalue : (QueryCall.withAdditionalFields (texts.map .str)).value =
      (texts.map .str).mapM (Name.check "additional field") := by
    rw [← views_str]
    rfl
  rw [hvalue]
  exact gives_items (Name.gives_check "additional field") _

lemma gives_limit (given : Option (Given Int)) :
    Gives Reported (QueryCall.withLimit (.data (Given.datum? .int given))).value
      fun n : Option Count => viewOption Count.view n = Given.datum? .int given := by
  apply Checked.gives_optional
  · exact fun _ h => nomatch h
  · exact fun _ h => nomatch h
  · exact fun g => Count.gives_check "limit" _

lemma gives_offset (given : Option (Given Int)) :
    Gives Reported (QueryCall.withOffset (.data (Given.datum? .int given))).value
      fun n : Option Nat => viewOption (fun n : Nat => .int n) n = Given.datum? .int given := by
  apply Checked.gives_optional
  · exact fun _ h => nomatch h
  · exact fun _ h => nomatch h
  · exact fun g => gives_checkNatural "offset" _

/-- The calls in front of the filter. -/
lemma gives_head (hone : a.OneSearch) {q : QueryDescriptor} (hq : q.search = none) :
    Gives Reported (applyAll q (.withFields (a.fields.map .str) :: a.searchCall?.toList)) fun q' =>
      ∃ (fs : List FieldText) (search : Option Search), fs.map FieldText.view = a.fields.map .str ∧
        a.Retrieves search ∧ (q.write .fields fs).write .search search = q' := by
  have hsearch : ∀ q₁, (∃ fs : List FieldText, fs.map FieldText.view = a.fields.map .str ∧ q.write .fields fs = q₁) →
      Gives Reported (applyAll q₁ a.searchCall?.toList) fun q' =>
        ∃ search, a.Retrieves search ∧ q₁.write .search search = q' := by
    rintro q₁ ⟨fs, -, rfl⟩
    exact gives_applySearch hone hq
  apply ((gives_apply (gives_fields a.fields) q).bind hsearch).congr
  intro q'
  constructor
  · rintro ⟨_, ⟨fs, hfs, rfl⟩, search, hsearch, rfl⟩
    exact ⟨fs, search, hfs, hsearch, rfl⟩
  · rintro ⟨fs, search, hfs, hsearch, rfl⟩
    exact ⟨_, ⟨fs, hfs, rfl⟩, search, hsearch, rfl⟩

/-- A new query with what the calls in front of the filter write. -/
def Begun (a : Arguments) (q : QueryDescriptor) : Prop :=
  ∃ (n : Name) (fields : List FieldText) (search : Option Search), n.view = a.collection.datum .str ∧
    fields.map FieldText.view = a.fields.map .str ∧ a.Retrieves search ∧
    ((QueryDescriptor.ofSlots n QuerySlot.default).write .fields fields).write .search search = q

lemma Begun.filter_eq_none {q : QueryDescriptor} (h : a.Begun q) : q.filter = none := by
  obtain ⟨n, fields, search, -, -, -, rfl⟩ := h
  rfl

lemma gives_begun (hone : a.OneSearch) :
    Gives Reported (QueryDescriptor.get (.data (a.collection.datum .str)) >>= fun q =>
      applyAll q (.withFields (a.fields.map .str) :: a.searchCall?.toList)) a.Begun := by
  have hnew {q : QueryDescriptor} (hq : ∃ n : Name, n.view = a.collection.datum .str ∧
      QueryDescriptor.ofSlots n QuerySlot.default = q) : q.search = none := by
    obtain ⟨n, -, rfl⟩ := hq
    rfl
  apply ((QueryDescriptor.gives_get (a.collection.datum .str)).bind fun q hq => gives_head hone (hnew hq)).congr
  intro q
  constructor
  · rintro ⟨_, ⟨n, hn, rfl⟩, fields, search, hfields, hsearch, rfl⟩
    exact ⟨n, fields, search, hn, hfields, hsearch, rfl⟩
  · rintro ⟨n, fields, search, hn, hfields, hsearch, rfl⟩
    exact ⟨_, ⟨n, hn, rfl⟩, fields, search, hfields, hsearch, rfl⟩

/-- The calls behind the filter. -/
lemma gives_tail (a : Arguments) (q : QueryDescriptor) :
    Gives Reported (applyAll q [.withLimit (.data (Given.datum? .int a.limit)),
      .withOffset (.data (Given.datum? .int a.offset)), .withAdditionalFields (a.additional.map .str)]) fun q' =>
      ∃ (limit : Option Count) (offset : Option Nat) (names : List Name),
        viewOption Count.view limit = Given.datum? .int a.limit ∧
        viewOption (fun n : Nat => .int n) offset = Given.datum? .int a.offset ∧
        names.map Name.view = a.additional.map .str ∧
        ((q.write .limit limit).write .offset offset).write .additionalFields names = q' := by
  apply ((gives_apply (gives_limit a.limit) q).bind fun q₁ _ =>
    (gives_apply (gives_offset a.offset) q₁).bind fun q₂ _ =>
      (gives_apply (gives_additional a.additional) q₂).bind fun q₃ _ => gives_ok q₃).congr
  intro q'
  constructor
  · rintro ⟨_, ⟨limit, hlimit, rfl⟩, _, ⟨offset, hoffset, rfl⟩, _, ⟨names, hnames, rfl⟩, rfl⟩
    exact ⟨limit, offset, names, hlimit, hoffset, hnames, rfl⟩
  · rintro ⟨limit, offset, names, hlimit, hoffset, hnames, rfl⟩
    exact ⟨_, ⟨limit, hlimit, rfl⟩, _, ⟨offset, hoffset, rfl⟩, _, ⟨names, hnames, rfl⟩, rfl⟩

/-- The calls in their order: those in front of the filter, the filter, and those behind it. -/
lemma descriptor_eq (a : Arguments) : a.descriptor =
    ((QueryDescriptor.get (.data (a.collection.datum .str)) >>= fun q =>
      applyAll q (.withFields (a.fields.map .str) :: a.searchCall?.toList)) >>= fun q =>
        (a.filterCall? >>= fun call? => applyAll q call?.toList) >>= fun q =>
          applyAll q [.withLimit (.data (Given.datum? .int a.limit)),
            .withOffset (.data (Given.datum? .int a.offset)), .withAdditionalFields (a.additional.map .str)]) := by
  unfold descriptor
  simp only [applyAll, List.foldlM_append, bind_assoc]

/-- A query that has nothing in the other slots is a new one with these slots written. -/
lemma write_slots {q : QueryDescriptor} (h : ∀ s ∉ slots, q.read s = s.default) :
    ((((((QueryDescriptor.ofSlots q.collection QuerySlot.default).write .fields q.fields).write .search
      q.search).write .filter q.filter).write .limit q.limit).write .offset q.offset).write .additionalFields
      q.additionalFields = q := by
  change slots.foldl (fun p s => p.write s (q.read s)) (.ofSlots q.collection QuerySlot.default) = q
  apply QueryDescriptor.ext_read
  · exact QueryDescriptor.collection_foldl_write _ _ _
  · intro s
    rw [QueryDescriptor.read_foldl_write]
    split
    next => rfl
    next hs => exact (h s hs).symm

/-- **The query of a command line** is the one that has what the command line gives in each slot. -/
theorem gives_descriptor (hone : a.OneSearch) : Gives (Faulty a.whereEqual) a.descriptor a.Describes := by
  have hreported {α : Type} {x : Checked α} {R : α → Prop} (h : Gives Reported x R) : Gives (Faulty a.whereEqual) x R :=
    h.mono fun _ => .inl
  rw [descriptor_eq]
  apply ((hreported (gives_begun hone)).bind fun q hq =>
    (gives_applyFilter hq.filter_eq_none).bind fun q' _ => hreported (gives_tail a q')).congr
  intro q
  constructor
  · rintro ⟨_, ⟨n, fields, search, hn, hfields, hsearch, rfl⟩, _, ⟨conditions, hconditions, rfl⟩,
      limit, offset, names, hlimit, hoffset, hnames, rfl⟩
    refine ⟨hn, hfields, hsearch, ⟨conditions, hconditions, rfl⟩, hlimit, hoffset, hnames, ?_⟩
    intro s hs
    cases s <;> first | rfl | simp [slots] at hs
  · intro h
    obtain ⟨conditions, hconditions, hfilter⟩ := h.filter
    refine ⟨_, ⟨q.collection, q.fields, q.search, h.collection, h.fields, h.search, rfl⟩, _,
      ⟨conditions, hconditions, rfl⟩, q.limit, q.offset, q.additionalFields, h.limit, h.offset, h.additional, ?_⟩
    rw [← hfilter]
    exact write_slots h.unset

end Arguments

end CommandLine

end VectorQuery
