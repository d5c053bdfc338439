import VectorQuery.Proofs.Term.LastWrite
import VectorQuery.Proofs.Term.Normalized
import VectorQuery.Query.Builder

/-! Get queries that are built call by call. The whole query is checked again in every call, and what was accepted
before is accepted again as it is, so a call is a write of one slot: it succeeds or fails by its own arguments. -/
namespace VectorQuery

/-- The parts of a query that builder calls write. -/
inductive QuerySlot
  | fields | search | filter | limit | offset | sort | groupBy | autocut | additionalFields | consistencyLevel
  | tenant | generate
  deriving DecidableEq

namespace QuerySlot

/-- What a slot holds. -/
def Value : QuerySlot → Type
  | fields => List FieldText
  | search => Option Search
  | filter => Option Filter
  | limit => Option Count
  | offset => Option Nat
  | sort => List SortSpec
  | groupBy => Option GroupBySpec
  | autocut => Option Count
  | additionalFields => List Name
  | consistencyLevel => Option ConsistencyLevel
  | tenant => Option Tenant
  | generate => Option GenerateDirective

/-- What a slot holds that was never written. -/
def default : (s : QuerySlot) → s.Value
  | fields => []
  | search => none
  | filter => none
  | limit => none
  | offset => none
  | sort => []
  | groupBy => none
  | autocut => none
  | additionalFields => []
  | consistencyLevel => none
  | tenant => none
  | generate => none

/-- What a caller gives to leave a slot as it is in a new query. -/
def unset : QuerySlot → Term
  | fields => .tuple []
  | sort => .tuple []
  | additionalFields => .tuple []
  | _ => .none

/-- The value of a slot as a caller gives it. -/
def term : (s : QuerySlot) → s.Value → Term
  | fields, fs => .data (.tuple (fs.map FieldText.view))
  | search, x => .ofOption .search x
  | filter, x => .ofOption .filter x
  | limit, n => .data (viewOption Count.view n)
  | offset, n => .data (viewOption (fun (n : Nat) => .int n) n)
  | sort, ss => .tuple (ss.map fun s => .object (.sort s))
  | groupBy, g => .ofOption .groupBy g
  | autocut, n => .data (viewOption Count.view n)
  | additionalFields, ns => .data (.tuple (ns.map Name.view))
  | consistencyLevel, l => .data (viewOption ConsistencyLevel.view l)
  | tenant, t => .data (viewOption Tenant.view t)
  | generate, g => .ofOption .directive g

/-- The check of a single slot. -/
def check : (s : QuerySlot) → Term → Checked s.Value
  | fields, t => (do (← GenerateDirective.oneOrMany t.view).mapM (FieldText.check "field") : Checked (List FieldText))
  | search, t => QuerySlots.checkSearch t
  | filter, t => checkFilter t
  | limit, t => optional (Count.check "limit") t.view
  | offset, t => optional (checkNatural "offset") t.view
  | sort, t => (do (← t.itemsOf).mapM SortSpec.ofTerm : Checked (List SortSpec))
  | groupBy, t => QuerySlots.checkGroupBy t
  | autocut, t => optional (Count.check "autocut") t.view
  | additionalFields, t =>
    (do (← GenerateDirective.oneOrMany t.view).mapM (Name.check "additional field") : Checked (List Name))
  | consistencyLevel, t => optional ConsistencyLevel.check t.view
  | tenant, t => optional Tenant.check t.view
  | generate, t => QuerySlots.checkGenerate t

lemma check_unset (s : QuerySlot) : s.check s.unset = .ok s.default := by cases s <;> rfl

/-- A value that passed the check of its slot passes it again, and stays what it is. -/
lemma check_term (s : QuerySlot) (v : s.Value) : s.check (s.term v) = .ok v := by
  cases s with
  | fields => exact mapM_view (FieldText.check_view "field") v
  | search => exact QuerySlots.checkSearch_ofOption v
  | filter => exact checkFilter_ofOption v
  | limit => exact optional_viewOption (Count.check_view "limit") (fun _ => nofun) v
  | offset => exact optional_viewOption (checkNatural_int "offset") (fun _ => nofun) v
  | sort => exact mapM_view SortSpec.ofTerm_sort v
  | groupBy => exact QuerySlots.checkGroupBy_ofOption v
  | autocut => exact optional_viewOption (Count.check_view "autocut") (fun _ => nofun) v
  | additionalFields => exact mapM_view (Name.check_view "additional field") v
  | consistencyLevel => exact optional_viewOption ConsistencyLevel.check_view (fun _ => nofun) v
  | tenant => exact optional_viewOption Tenant.check_view (fun _ => nofun) v
  | generate => exact QuerySlots.checkGenerate_ofOption v

end QuerySlot

/-! ### Queries by their slots -/

namespace QueryDescriptor

variable (q : QueryDescriptor) {s t : QuerySlot}

/-- The query with these values in its slots. -/
def ofSlots (collection : Name) (value : (s : QuerySlot) → s.Value) : QueryDescriptor where
  collection
  fields := value .fields
  search := value .search
  filter := value .filter
  limit := value .limit
  offset := value .offset
  sort := value .sort
  groupBy := value .groupBy
  autocut := value .autocut
  additionalFields := value .additionalFields
  consistencyLevel := value .consistencyLevel
  tenant := value .tenant
  generate := value .generate

/-- What a slot of the query holds. -/
def read : (s : QuerySlot) → s.Value
  | .fields => q.fields
  | .search => q.search
  | .filter => q.filter
  | .limit => q.limit
  | .offset => q.offset
  | .sort => q.sort
  | .groupBy => q.groupBy
  | .autocut => q.autocut
  | .additionalFields => q.additionalFields
  | .consistencyLevel => q.consistencyLevel
  | .tenant => q.tenant
  | .generate => q.generate

/-- The query with one slot written. -/
def write (s : QuerySlot) (v : s.Value) : QueryDescriptor := ofSlots q.collection (Function.update q.read s v)

lemma read_ofSlots (collection : Name) (value : (s : QuerySlot) → s.Value) :
    (ofSlots collection value).read = value := by
  funext s
  cases s <;> rfl

lemma read_write (v : s.Value) : (q.write s v).read = Function.update q.read s v := read_ofSlots _ _

lemma write_comm (h : s ≠ t) (v : s.Value) (w : t.Value) : (q.write s v).write t w = (q.write t w).write s v := by
  have hread : Function.update (q.write s v).read t w = Function.update (q.write t w).read s v := by
    rw [read_write, read_write]
    exact Function.update_comm h v w q.read
  exact congrArg (ofSlots q.collection) hread

end QueryDescriptor

/-! ### The check of the whole -/

namespace QuerySlots

/-- The slots of a query over a collection, each as `term` has it. -/
def ofTerms (collection : Term) (term : QuerySlot → Term) : QuerySlots where
  collection
  fields := term .fields
  search := term .search
  filter := term .filter
  limit := term .limit
  offset := term .offset
  sort := term .sort
  groupBy := term .groupBy
  autocut := term .autocut
  additionalFields := term .additionalFields
  consistencyLevel := term .consistencyLevel
  tenant := term .tenant
  generate := term .generate

/-- The slots of a query over a collection with these values, the others unset. -/
def given (collection : Term) (value? : (s : QuerySlot) → Option s.Value) : QuerySlots :=
  ofTerms collection fun s => (value? s).elim s.unset s.term

variable {collection : Term} {term : QuerySlot → Term} {value : (s : QuerySlot) → s.Value}

/-- The check of a query runs the checks of its slots. -/
lemma check_ofTerms : (ofTerms collection term).check = (do
    let n ← Name.check "collection name" collection.view
    let fields : List FieldText ← QuerySlot.fields.check (term .fields)
    let additional : List Name ← QuerySlot.additionalFields.check (term .additionalFields)
    let search ← QuerySlot.search.check (term .search)
    let filter ← QuerySlot.filter.check (term .filter)
    let limit ← QuerySlot.limit.check (term .limit)
    let offset ← QuerySlot.offset.check (term .offset)
    let autocut ← QuerySlot.autocut.check (term .autocut)
    let sort : List SortSpec ← QuerySlot.sort.check (term .sort)
    let groupBy ← QuerySlot.groupBy.check (term .groupBy)
    let level ← QuerySlot.consistencyLevel.check (term .consistencyLevel)
    let tenant ← QuerySlot.tenant.check (term .tenant)
    let generate ← QuerySlot.generate.check (term .generate)
    pure ⟨n, fields, search, filter, limit, offset, sort, groupBy, autocut, additional, level, tenant,
      generate⟩) := by
  -- the checks of lists are two steps each in the whole and one step in the slot
  simp only [check, QuerySlot.check, bind_assoc]
  rfl

lemma check_of_ok (h : ∀ s : QuerySlot, s.check (term s) = .ok (value s)) :
    (ofTerms collection term).check =
      (Name.check "collection name" collection.view).map fun n => .ofSlots n value := by
  rw [check_ofTerms]
  cases Name.check "collection name" collection.view with
  | error e => rfl
  | ok n =>
    simp only [h]
    rfl

/-- One slot that is refused, among slots that are not. -/
lemma check_of_error {s : QuerySlot} {n : Name} {e : Fault} (he : s.check (term s) = .error e)
    (h : ∀ t ≠ s, t.check (term t) = .ok (value t)) :
    (ofTerms (.data n.view) term).check = .error e := by
  have hn : Name.check "collection name" (Term.data n.view).view = .ok n := Name.check_view _ n
  rw [check_ofTerms, hn]
  -- the checks before the slot pass, and its own ends the run, wherever it stands in the order
  cases s <;> simp [he, h] <;> rfl

/-- One slot given anew, where the others hold what was accepted before. -/
lemma check_update (q : QueryDescriptor) (s : QuerySlot) (t : Term) :
    (ofTerms (.data q.collection.view) (Function.update (fun u => u.term (q.read u)) s t)).check =
      (s.check t).map (q.write s) := by
  cases ht : s.check t with
  | error e =>
    have hself : s.check (Function.update (fun u => u.term (q.read u)) s t s) = .error e := by
      rw [Function.update_self, ht]
    exact check_of_error hself fun u hu => check_update_of_ne QuerySlot.check_term q.read hu
  | ok v =>
    have hn : Name.check "collection name" (Term.data q.collection.view).view = .ok q.collection :=
      Name.check_view _ q.collection
    rw [check_of_ok (check_update_of_ok QuerySlot.check_term q.read ht), hn]
    rfl

/-- A query that is made directly has the given values, and the default where none is given. -/
lemma check_given (value? : (s : QuerySlot) → Option s.Value) :
    (given collection value?).check = (Name.check "collection name" collection.view).map fun n =>
      .ofSlots n fun s => (value? s).getD s.default := by
  apply check_of_ok
  intro s
  cases value? s with
  | none => exact s.check_unset
  | some v => exact s.check_term v

end QuerySlots

/-! ### Builder calls -/

namespace QueryCall

/-- The slot that the call writes. -/
def slot : QueryCall → QuerySlot
  | withFields _ => .fields
  | withFilter _ => .filter
  | withLimit _ => .limit
  | withOffset _ => .offset
  | withSort _ => .sort
  | withGroupBy .. => .groupBy
  | withAutocut _ => .autocut
  | withAdditionalFields _ => .additionalFields
  | withConsistencyLevel _ => .consistencyLevel
  | withTenant _ => .tenant
  | withGenerate _ => .generate
  | _ => .search

/-- What the call gives for its slot. -/
def given : QueryCall → Checked Term
  | withFields fields => .ok (.tuple fields)
  | withSearch search => .ok search
  | withFilter filter => .ok filter
  | withLimit limit => .ok limit
  | withOffset offset => .ok offset
  | withSort specs => .ok (.tuple specs)
  | withGroupBy path groups objectsPerGroup =>
    (GroupBySpec.check path groups objectsPerGroup).map fun g => .object (.groupBy g)
  | withAutocut autocut => .ok autocut
  | withAdditionalFields fields => .ok (.tuple fields)
  | withConsistencyLevel level => .ok level
  | withTenant tenant => .ok tenant
  | withGenerate directive => .ok directive
  | call =>
    match call.shortcut? with
    | some search => search.map fun s => .object (.search s)
    | none => .ok .none

/-- The value that the call writes. The arguments of the call alone decide on it. -/
def value (call : QueryCall) : Checked call.slot.Value := call.given >>= call.slot.check

/-- The slot and the value that the call writes, unless it is refused. -/
def written (call : QueryCall) : Option (Sigma QuerySlot.Value) := call.value.toOption.map (Sigma.mk call.slot)

section

variable {call : QueryCall} {search : Checked Search} (h : call.shortcut? = some search)
include h

lemma write_shortcut (s : QuerySlots) :
    call.write s = search.map fun x => { s with search := .object (.search x) } := by
  cases call <;> cases h <;> rfl

lemma given_shortcut : call.given = search.map fun x => .object (.search x) := by cases call <;> cases h <;> rfl

lemma slot_shortcut : call.slot = .search := by cases call <;> cases h <;> rfl

end

lemma write_ofTerms (call : QueryCall) (collection : Term) (term : QuerySlot → Term) :
    call.write (.ofTerms collection term) =
      call.given.map fun t => .ofTerms collection (Function.update term call.slot t) := by
  cases h : call.shortcut? with
  | some search =>
    rw [write_shortcut h, given_shortcut h, slot_shortcut h, Checked.map_map]
    rfl
  | none =>
    cases call with
    | withGroupBy path groups objectsPerGroup =>
      unfold write given
      rw [Checked.map_map]
      rfl
    | fetchAll | fetchById | nearText | nearVector | nearObject | nearImage | nearMedia | bm25 | hybrid => cases h
    | _ => rfl

end QueryCall

namespace QueryDescriptor

/-- **A builder call writes one slot**, with a value that does not depend on the query. -/
theorem apply_eq_write (q : QueryDescriptor) (call : QueryCall) :
    q.apply call = call.value.map (q.write call.slot) := by
  have hslots : q.slots = .ofTerms (.data q.collection.view) fun s => s.term (q.read s) := rfl
  unfold apply QueryCall.value
  rw [hslots, QueryCall.write_ofTerms]
  cases call.given with
  | error e => rfl
  | ok t => exact QuerySlots.check_update q call.slot t

/-- A search that is given by a shortcut replaces any other search. -/
lemma apply_shortcut (q : QueryDescriptor) {call : QueryCall} {search : Checked Search}
    (h : call.shortcut? = some search) : q.apply call = search.map fun s => { q with search := some s } := by
  unfold apply
  rw [QueryCall.write_shortcut h]
  cases search with
  | error e => rfl
  | ok s => exact QuerySlots.check_update q .search (.object (.search s))

/-- The query after a call that may be refused; the query before it is kept then. -/
def after (q : QueryDescriptor) (call : QueryCall) : QueryDescriptor := (q.apply call).orKeep q

/-- The query after several calls. -/
def build (q : QueryDescriptor) (calls : List QueryCall) : QueryDescriptor := calls.foldl after q

lemma read_after (q : QueryDescriptor) (call : QueryCall) (s : QuerySlot) :
    (q.after call).read s = (call.written.toList.dlookup s).getD (q.read s) := by
  unfold after QueryCall.written
  rw [apply_eq_write]
  cases call.value with
  | error e => rfl
  | ok v =>
    change (q.write call.slot v).read s = _
    rw [read_write]
    exact update_eq_dlookup q.read ⟨call.slot, v⟩ s

lemma collection_after (q : QueryDescriptor) (call : QueryCall) : (q.after call).collection = q.collection := by
  unfold after
  rw [apply_eq_write]
  cases call.value <;> rfl

lemma collection_build (q : QueryDescriptor) (calls : List QueryCall) :
    (q.build calls).collection = q.collection := by
  induction calls generalizing q with
  | nil => rfl
  | cons call calls ih => exact (ih (q.after call)).trans (collection_after q call)

lemma after_comm (q : QueryDescriptor) {a b : QueryCall} (h : a.slot ≠ b.slot) :
    (q.after a).after b = (q.after b).after a := by
  unfold after
  simp only [apply_eq_write]
  cases a.value with
  | error e => rfl
  | ok v =>
    cases b.value with
    | error e => rfl
    | ok w => exact write_comm q h v w

/-- A run of calls, slot by slot. -/
lemma build_eq_ofSlots (q : QueryDescriptor) (calls : List QueryCall) :
    q.build calls = ofSlots q.collection fun s => (lastWritten QueryCall.written calls s).getD (q.read s) := by
  have hread : (q.build calls).read = fun s => (lastWritten QueryCall.written calls s).getD (q.read s) := by
    funext s
    exact read_foldl read_after calls q s
  calc q.build calls
      = ofSlots (q.build calls).collection (q.build calls).read := rfl
    _ = _ := by rw [collection_build, hread]

/-- **The last write of each slot wins.** A query that is built call by call from a whole collection, where a
call that is refused leaves the query as it is, is the query made directly of the values that were written last, with
the default in each slot that was never written. A call writes its slot with a value that does not depend on
the query, or is refused whatever the query is, so calls that write different slots commute, and a search that is
given by a shortcut replaces any other. -/
theorem build_last_write {collection : Term} {q : QueryDescriptor} (hq : get collection = .ok q)
    (calls : List QueryCall) :
    (QuerySlots.given collection fun s => lastWritten QueryCall.written calls s).check = .ok (q.build calls) ∧
    (∀ (p : QueryDescriptor) (call : QueryCall), p.apply call = call.value.map (p.write call.slot)) ∧
    (∀ (p : QueryDescriptor) (a b : QueryCall), a.slot ≠ b.slot → (p.after a).after b = (p.after b).after a) ∧
    ∀ (p : QueryDescriptor) (call : QueryCall) (search : Checked Search), call.shortcut? = some search →
      p.apply call = search.map fun s => { p with search := some s } := by
  refine ⟨?_, apply_eq_write, fun p a b h => p.after_comm h, fun p call search h => p.apply_shortcut h⟩
  obtain ⟨n, hn, rfl⟩ := Checked.map_ok ((QuerySlots.check_given fun _ => none).symm.trans hq)
  rw [QuerySlots.check_given, hn, build_eq_ofSlots, read_ofSlots]
  rfl

/-- Of three limits the second is refused and the last one stays. The later search replaces the earlier one. -/
theorem build_last_write_refused_limit :
    let q : QueryDescriptor := ofSlots ⟨.plain "Article", by decide⟩ QuerySlot.default
    let calls : List QueryCall := [.withLimit (.data (.int 5)), .bm25 (.str "lean") .none,
      .withLimit (.data (.int 0)), .withFields [.str "title"], .fetchAll, .withLimit (.data (.int 7)),
      .withOffset (.str "two")]
    get (.str "Article") = .ok q ∧
      (QuerySlots.given (.str "Article") fun s => lastWritten QueryCall.written calls s).check =
        .ok (q.build calls) ∧
      (q.build calls).limit = some ⟨7, by decide⟩ ∧ (q.build calls).offset = none ∧
      (q.build calls).search = some .fetchAll ∧ (q.build calls).fields = [⟨.plain "title", by decide⟩] := by
  intro q calls
  have hq : get (.str "Article") = .ok q := rfl
  refine ⟨hq, (build_last_write hq calls).1, ?_⟩
  rw [build_eq_ofSlots]
  exact ⟨rfl, rfl, rfl, rfl⟩

end QueryDescriptor

end VectorQuery
