import VectorQuery.Aggregate.Builder
import VectorQuery.Proofs.Term.LastWrite
import VectorQuery.Proofs.Term.Normalized

/-! Aggregate queries that are built call by call. A call writes one slot, or the entry of one property: the entry
of that property goes wherever it stands, and the new one is the last. -/
namespace VectorQuery

/-- The parts of an aggregation that a builder call writes as a whole: all but the entries of properties. -/
inductive AggregateSlot
  | metaMetrics | groupByPath | search | filter | objectLimit | limit | tenant
  deriving DecidableEq

namespace AggregateSlot

/-- What a slot holds. -/
def Value : AggregateSlot → Type
  | metaMetrics => List Metric
  | groupByPath => Option Path
  | search => Option AggregateSearch
  | filter => Option Filter
  | objectLimit => Option Count
  | limit => Option Count
  | tenant => Option Tenant

/-- The value of a slot as a caller gives it. -/
def term : (s : AggregateSlot) → s.Value → Term
  | metaMetrics, ms => .data (.tuple (ms.map Metric.view))
  | groupByPath, p => .data (viewOption Path.view p)
  | search, x => .ofOption (fun s => .search s.search) x
  | filter, x => .ofOption .filter x
  | objectLimit, n => .data (viewOption Count.view n)
  | limit, n => .data (viewOption Count.view n)
  | tenant, t => .data (viewOption Tenant.view t)

/-- The check of a single slot. -/
def check : (s : AggregateSlot) → Term → Checked s.Value
  | metaMetrics, t => Metric.checkAll t.view
  | groupByPath, t => optional Path.check t.view
  | search, t => AggregateSlots.checkSearch t
  | filter, t => checkFilter t
  | objectLimit, t => optional (Count.check "object_limit") t.view
  | limit, t => optional (Count.check "limit") t.view
  | tenant, t => optional Tenant.check t.view

/-- A value that passed the check of its slot passes it again, and stays what it is. -/
lemma check_term (s : AggregateSlot) (v : s.Value) : s.check (s.term v) = .ok v := by
  cases s with
  | metaMetrics => exact mapM_view Metric.check_view v
  | groupByPath => exact optional_viewOption Path.check_view (fun _ => nofun) v
  | search => exact AggregateSlots.checkSearch_ofOption v
  | filter => exact checkFilter_ofOption v
  | objectLimit => exact optional_viewOption (Count.check_view "object_limit") (fun _ => nofun) v
  | limit => exact optional_viewOption (Count.check_view "limit") (fun _ => nofun) v
  | tenant => exact optional_viewOption Tenant.check_view (fun _ => nofun) v

end AggregateSlot

/-! ### Aggregations by their slots -/

namespace AggregateDescriptor

variable (a : AggregateDescriptor)

/-- The aggregation with these entries, and these values in its slots. -/
def ofSlots (collection : Name) (propertyMetrics : List PropertyMetrics)
    (value : (s : AggregateSlot) → s.Value) : AggregateDescriptor where
  collection
  metaMetrics := value .metaMetrics
  propertyMetrics
  groupByPath := value .groupByPath
  search := value .search
  filter := value .filter
  objectLimit := value .objectLimit
  limit := value .limit
  tenant := value .tenant

/-- What a slot of the aggregation holds. -/
def read : (s : AggregateSlot) → s.Value
  | .metaMetrics => a.metaMetrics
  | .groupByPath => a.groupByPath
  | .search => a.search
  | .filter => a.filter
  | .objectLimit => a.objectLimit
  | .limit => a.limit
  | .tenant => a.tenant

/-- The aggregation with one slot written. -/
def write (s : AggregateSlot) (v : s.Value) : AggregateDescriptor :=
  ofSlots a.collection a.propertyMetrics (Function.update a.read s v)

lemma read_write (s : AggregateSlot) (v : s.Value) : (a.write s v).read = Function.update a.read s v := by
  funext t
  cases t <;> rfl

end AggregateDescriptor

/-! ### The check of the whole -/

namespace AggregateSlots

/-- The slots of an aggregation over a collection with these entries, the others as `term` has them. -/
def ofTerms (collection : Term) (entries : List PropertyMetrics) (term : AggregateSlot → Term) :
    AggregateSlots where
  collection
  metaMetrics := term .metaMetrics
  propertyMetrics := .tuple (entries.map fun p => .object (.metrics p))
  groupByPath := term .groupByPath
  search := term .search
  filter := term .filter
  objectLimit := term .objectLimit
  limit := term .limit
  tenant := term .tenant

variable {n : Name} {entries : List PropertyMetrics} {term : AggregateSlot → Term}
  {value : (s : AggregateSlot) → s.Value}

/-- The check of an aggregation runs the checks of its slots. The name of its collection and its entries were
checked before. -/
lemma check_ofTerms : (ofTerms (.data n.view) entries term).check = (do
    let metaMetrics ← AggregateSlot.metaMetrics.check (term .metaMetrics)
    let groupByPath ← AggregateSlot.groupByPath.check (term .groupByPath)
    let search ← AggregateSlot.search.check (term .search)
    let filter ← AggregateSlot.filter.check (term .filter)
    let objectLimit ← AggregateSlot.objectLimit.check (term .objectLimit)
    let limit ← AggregateSlot.limit.check (term .limit)
    let tenant ← AggregateSlot.tenant.check (term .tenant)
    pure ⟨n, metaMetrics, entries, groupByPath, search, filter, objectLimit, limit, tenant⟩) := by
  have hn : Name.check "collection name" (ofTerms (.data n.view) entries term).collection.view = .ok n :=
    Name.check_view _ n
  have hentries : ((ofTerms (.data n.view) entries term).propertyMetrics.itemsOf >>= fun ts =>
      ts.mapM checkEntry) = .ok entries := mapM_view checkEntry_metrics entries
  unfold check
  simp only [← bind_assoc, hn, hentries]
  rfl

lemma check_of_ok (h : ∀ s : AggregateSlot, s.check (term s) = .ok (value s)) :
    (ofTerms (.data n.view) entries term).check = .ok (.ofSlots n entries value) := by
  rw [check_ofTerms]
  simp only [h]
  rfl

/-- One slot that is refused, among slots that are not. -/
lemma check_of_error {s : AggregateSlot} {e : Fault} (he : s.check (term s) = .error e)
    (h : ∀ t ≠ s, t.check (term t) = .ok (value t)) :
    (ofTerms (.data n.view) entries term).check = .error e := by
  rw [check_ofTerms]
  cases s <;> simp [he, h] <;> rfl

/-- One slot given anew, where the others hold what was accepted before. -/
lemma check_update (a : AggregateDescriptor) (s : AggregateSlot) (t : Term) :
    (ofTerms (.data a.collection.view) a.propertyMetrics
      (Function.update (fun u => u.term (a.read u)) s t)).check = (s.check t).map (a.write s) := by
  cases ht : s.check t with
  | error e =>
    have hself : s.check (Function.update (fun u => u.term (a.read u)) s t s) = .error e := by
      rw [Function.update_self, ht]
    exact check_of_error hself fun u hu => check_update_of_ne AggregateSlot.check_term a.read hu
  | ok v => exact check_of_ok (check_update_of_ok AggregateSlot.check_term a.read ht)

end AggregateSlots

/-! ### Builder calls -/

/-- What a builder call does that is not refused: it writes a slot, or the entry of a property. -/
inductive AggregateUpdate
  | slot (s : AggregateSlot) (v : s.Value)
  | entry (e : PropertyMetrics)

namespace AggregateUpdate

def slot? : AggregateUpdate → Option (Sigma AggregateSlot.Value)
  | slot s v => some ⟨s, v⟩
  | entry _ => none

def entry? : AggregateUpdate → Option PropertyMetrics
  | slot .. => none
  | entry e => some e

end AggregateUpdate

namespace AggregateCall

/-- What the call does. Its own arguments alone decide on it. -/
def update : AggregateCall → Checked AggregateUpdate
  | withMetaMetrics metrics => (AggregateSlot.metaMetrics.check (.tuple metrics)).map (.slot .metaMetrics)
  | withPropertyMetrics property metrics limit =>
    (PropertyMetrics.check property (.tuple (Term.views metrics)) limit).map .entry
  | withGroupBy path => (AggregateSlot.groupByPath.check path).map (.slot .groupByPath)
  | withSearch search => (AggregateSlot.search.check search).map (.slot .search)
  | withFilter filter => (AggregateSlot.filter.check filter).map (.slot .filter)
  | withObjectLimit limit => (AggregateSlot.objectLimit.check limit).map (.slot .objectLimit)
  | withLimit limit => (AggregateSlot.limit.check limit).map (.slot .limit)
  | withTenant tenant => (AggregateSlot.tenant.check tenant).map (.slot .tenant)

/-- The slot and the value that the call writes, if it writes a slot and is not refused. -/
def written (call : AggregateCall) : Option (Sigma AggregateSlot.Value) :=
  call.update.toOption.bind AggregateUpdate.slot?

/-- The entry that the call writes, if it writes one and is not refused. -/
def entry (call : AggregateCall) : Option PropertyMetrics := call.update.toOption.bind AggregateUpdate.entry?

end AggregateCall

namespace AggregateDescriptor

/-- The aggregation after an update. -/
def put (a : AggregateDescriptor) : AggregateUpdate → AggregateDescriptor
  | .slot s v => a.write s v
  | .entry e => { a with propertyMetrics := replaceMetrics a.propertyMetrics e }

/-- **A builder call makes one update**, which does not depend on the aggregation. -/
theorem apply_eq_put (a : AggregateDescriptor) (call : AggregateCall) : a.apply call = call.update.map a.put := by
  have hwrite (s : AggregateSlot) (t : Term) :
      (AggregateSlots.ofTerms (.data a.collection.view) a.propertyMetrics
        (Function.update (fun u => u.term (a.read u)) s t)).check =
      ((s.check t).map (AggregateUpdate.slot s)).map a.put := by
    rw [AggregateSlots.check_update, Checked.map_map]
    rfl
  cases call with
  | withMetaMetrics metrics => exact hwrite .metaMetrics (.tuple metrics)
  | withGroupBy path => exact hwrite .groupByPath path
  | withSearch search => exact hwrite .search search
  | withFilter filter => exact hwrite .filter filter
  | withObjectLimit limit => exact hwrite .objectLimit limit
  | withLimit limit => exact hwrite .limit limit
  | withTenant tenant => exact hwrite .tenant tenant
  | withPropertyMetrics property metrics limit =>
    unfold apply AggregateCall.write AggregateCall.update
    dsimp only
    cases PropertyMetrics.check property (.tuple (Term.views metrics)) limit with
    | error e => rfl
    | ok e =>
      have hread : ∀ s : AggregateSlot, s.check (s.term (a.read s)) = .ok (a.read s) :=
        fun s => s.check_term (a.read s)
      change (AggregateSlots.ofTerms (.data a.collection.view) (replaceMetrics a.propertyMetrics e)
        fun s => s.term (a.read s)).check = _
      rw [AggregateSlots.check_of_ok hread]
      rfl

/-- The aggregation after a call that may be refused; the aggregation before it is kept then. -/
def after (a : AggregateDescriptor) (call : AggregateCall) : AggregateDescriptor := (a.apply call).orKeep a

/-- The aggregation after several calls. -/
def build (a : AggregateDescriptor) (calls : List AggregateCall) : AggregateDescriptor := calls.foldl after a

lemma read_after (a : AggregateDescriptor) (call : AggregateCall) (s : AggregateSlot) :
    (a.after call).read s = (call.written.toList.dlookup s).getD (a.read s) := by
  unfold after AggregateCall.written
  rw [apply_eq_put]
  cases call.update with
  | error e => rfl
  | ok u =>
    cases u with
    | slot t v =>
      change (a.write t v).read s = _
      rw [read_write]
      exact update_eq_dlookup a.read ⟨t, v⟩ s
    | entry e => cases s <;> rfl

lemma collection_after (a : AggregateDescriptor) (call : AggregateCall) :
    (a.after call).collection = a.collection := by
  unfold after
  rw [apply_eq_put]
  cases call.update with
  | error e => rfl
  | ok u => cases u <;> rfl

lemma propertyMetrics_after (a : AggregateDescriptor) (call : AggregateCall) :
    (a.after call).propertyMetrics = call.entry.toList.foldl replaceMetrics a.propertyMetrics := by
  unfold after AggregateCall.entry
  rw [apply_eq_put]
  cases call.update with
  | error e => rfl
  | ok u => cases u <;> rfl

lemma collection_build (a : AggregateDescriptor) (calls : List AggregateCall) :
    (a.build calls).collection = a.collection := by
  induction calls generalizing a with
  | nil => rfl
  | cons call calls ih => exact (ih (a.after call)).trans (collection_after a call)

lemma propertyMetrics_build (a : AggregateDescriptor) (calls : List AggregateCall) :
    (a.build calls).propertyMetrics =
      (calls.filterMap AggregateCall.entry).foldl replaceMetrics a.propertyMetrics := by
  induction calls generalizing a with
  | nil => rfl
  | cons call calls ih =>
    change ((a.after call).build calls).propertyMetrics = _
    rw [ih, propertyMetrics_after]
    cases h : call.entry with
    | none => rw [List.filterMap_cons_none h]; rfl
    | some e => rw [List.filterMap_cons_some h]; rfl

end AggregateDescriptor

/-! ### The entries -/

namespace PropertyMetrics

/-- Whether the entry is for the property of that name. -/
def isFor (name : String) (e : PropertyMetrics) : Bool := e.property.content == name

lemma isFor_comm (d e : PropertyMetrics) : isFor d.property.content e = isFor e.property.content d := BEq.comm

/-- The last entry for each property, in order: an entry stays unless a later one is for the same property. -/
def lastOfEach : List PropertyMetrics → List PropertyMetrics
  | [] => []
  | e :: es => if es.any (isFor e.property.content) then lastOfEach es else e :: lastOfEach es

/-- For each property there is one entry, the last one for it, or none at all. -/
lemma filter_lastOfEach (name : String) (es : List PropertyMetrics) :
    (lastOfEach es).filter (isFor name) = (es.reverse.find? (isFor name)).toList := by
  induction es with
  | nil => rfl
  | cons e es ih =>
    rw [List.reverse_cons, List.find?_append]
    unfold lastOfEach
    by_cases he : isFor name e = true
    -- an entry for the name stays exactly where the later ones hold no other
    · obtain rfl : e.property.content = name := beq_iff_eq.1 he
      cases hany : es.any (isFor e.property.content) with
      | true =>
        obtain ⟨f, hf⟩ : ∃ f, es.reverse.find? (isFor e.property.content) = some f := by
          apply Option.isSome_iff_exists.1
          rw [List.find?_isSome]
          simpa using List.any_eq_true.1 hany
        rw [if_pos rfl, ih, hf]
        rfl
      | false =>
        have hnone : es.reverse.find? (isFor e.property.content) = none := by
          rw [List.find?_eq_none]
          simpa using List.any_eq_false.1 hany
        rw [if_neg Bool.false_ne_true, List.filter_cons_of_pos he, ih, hnone]
        simp [he]
    · have hsingle : [e].find? (isFor name) = none := List.find?_cons_of_neg he
      rw [hsingle, Option.or_none]
      split
      · exact ih
      · rw [List.filter_cons_of_neg he, ih]

end PropertyMetrics

namespace AggregateDescriptor

open PropertyMetrics

/-- Replacing entries one by one leaves the old ones for other properties, and the last of each of the new. -/
lemma foldl_replaceMetrics (es old : List PropertyMetrics) :
    es.foldl replaceMetrics old =
      (old.filter fun e => !es.any (isFor e.property.content)) ++ lastOfEach es := by
  induction es generalizing old with
  | nil => simp [lastOfEach]
  | cons e es ih =>
    -- for the entries that follow, the new one is an old one like the others
    rw [List.foldl_cons, ih]
    unfold replaceMetrics
    rw [List.filter_append, List.filter_filter, List.append_assoc]
    congr 1
    · apply List.filter_congr
      intro d _
      rw [List.any_cons, Bool.not_or, Bool.and_comm, isFor_comm]
      rfl
    · cases hany : es.any (isFor e.property.content) <;> simp [lastOfEach, hany]

/-- What is kept when an entry for another property is replaced. -/
lemma filter_replaceMetrics {name : String} {e : PropertyMetrics} (he : isFor name e = false)
    (es : List PropertyMetrics) : (replaceMetrics es e).filter (isFor name) = es.filter (isFor name) := by
  have hnew : [e].filter (isFor name) = [] := List.filter_cons_of_neg (by simp [he])
  unfold replaceMetrics
  rw [List.filter_append, List.filter_filter, hnew, List.append_nil]
  apply List.filter_congr
  intro d _
  cases hd : isFor name d with
  | false => rfl
  | true =>
    obtain rfl : d.property.content = name := beq_iff_eq.1 hd
    change (true && !isFor e.property.content d) = true
    rw [← isFor_comm, he]
    rfl

lemma propertyMetrics_overAll {collection : Term} {metrics : List Term} {a : AggregateDescriptor}
    (ha : overAll collection metrics = .ok a) : a.propertyMetrics = [] := by
  obtain ⟨n, -, ha⟩ := Checked.bind_ok ha
  obtain ⟨ms, -, ha⟩ := Checked.bind_ok ha
  obtain rfl := Except.ok.inj ha
  rfl

/-- **One entry for each property, the last one.** An aggregation is built call by call from a whole collection, and
a call that is refused leaves it as it is. Its entries are those of the calls that were not refused, without
those that a later one for the same property replaced, so for each property that was named there is exactly one, the
last. Every other slot holds what was written there last, or else what it held at first. What a call does
depends on its own arguments alone, and it never changes the entries for another property. -/
theorem build_last_entries {collection : Term} {metrics : List Term} {a : AggregateDescriptor}
    (ha : overAll collection metrics = .ok a) (calls : List AggregateCall) :
    (a.build calls).propertyMetrics = lastOfEach (calls.filterMap AggregateCall.entry) ∧
    (∀ name : String, (a.build calls).propertyMetrics.filter (isFor name) =
      ((calls.filterMap AggregateCall.entry).reverse.find? (isFor name)).toList) ∧
    (a.build calls).collection = a.collection ∧
    (∀ s, (a.build calls).read s = (lastWritten AggregateCall.written calls s).getD (a.read s)) ∧
    (∀ (b : AggregateDescriptor) (call : AggregateCall), b.apply call = call.update.map b.put) ∧
    ∀ (b : AggregateDescriptor) (call : AggregateCall) (name : String),
      (∀ e, call.entry = some e → isFor name e = false) →
      (b.after call).propertyMetrics.filter (isFor name) = b.propertyMetrics.filter (isFor name) := by
  have hentries : (a.build calls).propertyMetrics = lastOfEach (calls.filterMap AggregateCall.entry) := by
    rw [propertyMetrics_build, propertyMetrics_overAll ha, foldl_replaceMetrics]
    rfl
  refine ⟨hentries, ?_, collection_build a calls, read_foldl read_after calls a, apply_eq_put, ?_⟩
  · intro name
    rw [hentries]
    exact filter_lastOfEach name _
  · intro b call name hother
    rw [propertyMetrics_after]
    cases h : call.entry with
    | none => rfl
    | some e => exact filter_replaceMetrics (hother e h) b.propertyMetrics

/-- The second entry for the price takes the place of the first, after the one for the title, which a refused call
leaves as it is. -/
theorem build_last_entries_two_prices :
    let product : Name := ⟨.plain "Product", by decide⟩
    let a : AggregateDescriptor := ⟨product, [.count], [], none, none, none, none, none, none⟩
    let calls : List AggregateCall := [.withPropertyMetrics (.str "price") [.str "sum"] .none,
      .withPropertyMetrics (.str "title") [.str "count"] .none, .withLimit (.data (.int 9)),
      .withPropertyMetrics (.str "price") [.str "mean", .str "median"] (.int 3), .withLimit (.data (.int 0)),
      .withPropertyMetrics (.str "title") [] .none]
    overAll (.str "Product") [.str "count"] = .ok a ∧
      (a.build calls).propertyMetrics = [⟨⟨.plain "title", by decide⟩, .count, [], none⟩,
        ⟨⟨.plain "price", by decide⟩, .mean, [.median], some ⟨3, by decide⟩⟩] ∧
      (a.build calls).limit = some ⟨9, by decide⟩ := by
  intro product a calls
  have ha : overAll (.str "Product") [.str "count"] = .ok a := rfl
  obtain ⟨hentries, -, -, hread, -⟩ := build_last_entries ha calls
  exact ⟨ha, hentries.trans rfl, (hread .limit).trans rfl⟩

end AggregateDescriptor

end VectorQuery
