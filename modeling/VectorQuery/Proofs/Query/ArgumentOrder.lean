import VectorQuery.Proofs.Checked
import VectorQuery.Proofs.Query.ArgumentValues
import VectorQuery.Term.Query
import Mathlib.Data.List.Nodup

/-! The order of the arguments of a query, and where they have null in them. Only clauses that are present become
arguments, and only the numbers of a group can be null. -/
namespace VectorQuery
open GraphQL Checked

/-! ### Null in values -/

namespace GraphQL.Value

mutual

/-- Whether null stands in a value, at any depth. -/
def hasNull : Value → Bool
  | .null => true
  | .list xs => itemsHaveNull xs
  | .object fs => fieldsHaveNull fs
  | _ => false

def itemsHaveNull : List Value → Bool
  | [] => false
  | x :: r => x.hasNull || itemsHaveNull r

def fieldsHaveNull : List (String × Value) → Bool
  | [] => false
  | (_, v) :: r => v.hasNull || fieldsHaveNull r

end

@[simp] lemma hasNull_list (xs : List Value) : (list xs).hasNull = xs.any hasNull := by
  rw [hasNull]
  induction xs with
  | nil => rfl
  | cons x r ih => rw [itemsHaveNull, List.any_cons, ih]

@[simp] lemma hasNull_object (fs : List (String × Value)) :
    (object fs).hasNull = fs.any (·.2.hasNull) := by
  rw [hasNull]
  induction fs with
  | nil => rfl
  | cons f r ih => rw [fieldsHaveNull, List.any_cons, ih]

@[simp] lemma hasNull_int (i : Int) : (int i).hasNull = false := rfl
@[simp] lemma hasNull_bool (b : Bool) : (bool b).hasNull = false := rfl
@[simp] lemma hasNull_float (d : Double) : (float d).hasNull = false := rfl
@[simp] lemma hasNull_enum (s : String) : (enum s).hasNull = false := rfl

@[simp] lemma hasNull_ofText (t : MarkedText) : (ofText t).hasNull = false := by cases t <;> rfl

lemma any_hasNull_map {α : Type} {f : α → Value} (h : ∀ x, (f x).hasNull = false) (xs : List α) :
    (xs.map f).any hasNull = false := by
  rw [List.any_map, List.any_eq_false]
  exact fun x _ => by simp [h x]

@[simp] lemma hasNull_ofTexts (ts : List MarkedText) : (ofTexts ts).hasNull = false := by
  rw [ofTexts, hasNull_list, any_hasNull_map hasNull_ofText]

end GraphQL.Value

open Value

/-! ### Conditions -/

namespace Filter

lemma hasNull_wire (x : FilterValue) : x.wire.hasNull = false := by
  cases x with
  | integerList is => exact (hasNull_list _).trans (any_hasNull_map hasNull_int is)
  | numberList qs => exact (hasNull_list _).trans (any_hasNull_map (fun _ => rfl) qs)
  | booleanList bs => exact (hasNull_list _).trans (any_hasNull_map hasNull_bool bs)
  | _ => simp [FilterValue.wire]

lemma hasNull_predicateWire (p : Predicate) : (predicateWire p).value.hasNull = false := by
  simp [predicateWire, hasNull_wire]

lemma hasNull_combinatorWire (kind : CombinatorKind) (vs : List Value) :
    (combinatorWire kind vs).hasNull = vs.any hasNull := by
  simp [combinatorWire]

mutual

theorem hasNull_compile : ∀ f : Filter, f.compile.value.hasNull = false
  | .leaf p => hasNull_predicateWire p
  | .all first rest => by
    have hrest := hasNull_compileAll rest
    rw [compile, hasNull_combinatorWire, List.any_cons, hasNull_compile first, hrest]
    rfl
  | .any first rest => by
    have hrest := hasNull_compileAll rest
    rw [compile, hasNull_combinatorWire, List.any_cons, hasNull_compile first, hrest]
    rfl
  | .negation operand => by
    have hoperand := hasNull_compile operand
    simp [compile, Noted.map, hasNull_combinatorWire, hoperand]

theorem hasNull_compileAll : ∀ fs : List Filter, (compileAll fs).value.any hasNull = false
  | [] => rfl
  | f :: r => by
    rw [compileAll, List.any_cons, hasNull_compile f, hasNull_compileAll r]
    rfl

end

end Filter

/-! ### Search clauses -/

namespace Search

/-- The name of the argument that carries a search; a fetch has none. -/
def argumentName? : Search → Option String
  | fetchAll => none
  | fetchById _ => none
  | nearText .. => some "nearText"
  | nearVector .. => some "nearVector"
  | nearObject .. => some "nearObject"
  | nearImage .. => some "nearImage"
  | nearMedia kind .. => some kind.argument
  | bm25 .. => some "bm25"
  | hybrid .. => some "hybrid"

lemma hasNull_threshold (x : Threshold) : x.wire.any (·.2.hasNull) = false := by
  cases x <;> rfl

lemma hasNull_propertiesWire (ps : Option Phrases) :
    (propertiesWire ps).any (·.2.hasNull) = false := by
  cases ps <;> simp [propertiesWire]

lemma hasNull_required {α : Type} {toDouble : α → Double} {o : Option α} {v : Value}
    (h : required toDouble o = .ok v) : v.hasNull = false := by
  cases o with
  | none => cases h
  | some a =>
    obtain rfl := Except.ok.inj h
    rfl

lemma hasNull_moveWire {name : String} {m : Option Move} {fs : List (String × Value)}
    (h : moveWire name m = .ok fs) : fs.any (·.2.hasNull) = false := by
  cases m with
  | none =>
    obtain rfl := Except.ok.inj h
    rfl
  | some m =>
    obtain ⟨v, hv, rfl⟩ := map_ok h
    obtain ⟨force, hforce, hv⟩ := bind_ok hv
    obtain rfl := pure_ok hv
    simp [hasNull_required hforce]

lemma hasNull_vectorWire {qs : List (Option Quantity)} {vs : List Value}
    (h : vectorWire qs = .ok vs) : vs.any hasNull = false := by
  induction qs generalizing vs with
  | nil =>
    obtain rfl := Except.ok.inj h
    rfl
  | cons q qs ih =>
    obtain ⟨v, hv, h⟩ := bind_ok h
    obtain ⟨ws, hws, h⟩ := bind_ok h
    obtain rfl := pure_ok h
    rw [List.any_cons, hasNull_required hv, ih hws]
    rfl

/-- The argument of a search has its name, and no null in it. -/
theorem argument_name_value {s : Search} {o : Option (String × Value)} (h : s.argument = .ok o) :
    o.map Prod.fst = s.argumentName? ∧ o.any (·.2.hasNull) = false := by
  cases s with
  | nearText concepts threshold moveTo moveAway =>
    obtain ⟨toward, htoward, h⟩ := bind_ok h
    obtain ⟨away, haway, h⟩ := bind_ok h
    obtain rfl := pure_ok h
    exact ⟨rfl, by simp [hasNull_threshold, hasNull_moveWire htoward, hasNull_moveWire haway]⟩
  | nearVector first rest threshold =>
    obtain ⟨vs, hvs, h⟩ := bind_ok h
    obtain rfl := pure_ok h
    exact ⟨rfl, by simp [hasNull_threshold, hasNull_vectorWire hvs]⟩
  | hybrid query alpha fusion properties =>
    obtain rfl := Except.ok.inj h
    refine ⟨rfl, ?_⟩
    cases alpha <;> cases fusion <;> simp [hasNull_propertiesWire]
  | fetchAll | fetchById =>
    obtain rfl := Except.ok.inj h
    exact ⟨rfl, rfl⟩
  | _ =>
    obtain rfl := Except.ok.inj h
    exact ⟨rfl, by simp [hasNull_threshold, hasNull_propertiesWire]⟩

end Search

/-! ### Groups -/

namespace GroupBySpec

/-- Whether a group has both its numbers. -/
def isComplete (g : GroupBySpec) : Bool := g.groups.isSome && g.objectsPerGroup.isSome

lemma hasNull_wire (g : GroupBySpec) : g.wire.hasNull = !g.isComplete := by
  have hcount (k : Option Count) : (countWire k).hasNull = !k.isSome := by cases k <;> rfl
  simp [wire, isComplete, hcount, Bool.not_and]

end GroupBySpec

/-! ### All arguments of a query -/

section Argument

variable {α : Type} (name : String) (wire : α → Value) (o : Option α)

lemma map_fst_argument :
    (argument name wire o).map Prod.fst = if o.isSome then [name] else [] := by
  cases o <;> rfl

lemma filter_hasNull_argument : (argument name wire o).filter (·.2.hasNull) =
    argument name wire (o.filter fun a => (wire a).hasNull) := by
  cases o with
  | none => rfl
  | some a => cases h : (wire a).hasNull <;> simp [argument, Option.filter, h]

end Argument

namespace QueryDescriptor

variable {q : QueryDescriptor} {c : RendererConfig} {fs : Arguments}

/-- Every clause under the name of its argument, and whether the query has it. -/
def clauses (q : QueryDescriptor) (c : RendererConfig) : List (String × Bool) :=
  [("limit", q.limit.isSome), ("offset", q.offset.isSome), ("where", q.effectiveFilter.isSome)] ++
  (q.search.bind Search.argumentName?).toList.map (·, true) ++
  [("sort", !q.sort.isEmpty), ("groupBy", q.groupBy.isSome), ("autocut", q.autocut.isSome),
    ("consistencyLevel", (q.effectiveLevel c).isSome), ("tenant", q.tenant.isSome)]

lemma searchArgument_name_value (h : q.searchArgument = .ok fs) :
    fs.map Prod.fst = (q.search.bind Search.argumentName?).toList ∧
      fs.any (·.2.hasNull) = false := by
  unfold searchArgument at h
  split at h
  · rename_i hs
    obtain rfl := Except.ok.inj h
    rw [hs]
    exact ⟨rfl, rfl⟩
  · rename_i s hs
    obtain ⟨o, ho, rfl⟩ := map_ok h
    obtain ⟨hname, hnull⟩ := Search.argument_name_value ho
    rw [hs, Option.bind_some, ← hname]
    cases o with
    | none => exact ⟨rfl, rfl⟩
    | some f => exact ⟨rfl, by simpa using hnull⟩

/-- The arguments are the clauses that are present. -/
lemma names_arguments (h : q.arguments c = .ok fs) :
    fs.map Prod.fst = ((q.clauses c).filter Prod.snd).map Prod.fst := by
  obtain ⟨search, hsearch, h⟩ := bind_ok h
  obtain rfl := pure_ok h
  have hcons (n : String) (b : Bool) (r : List (String × Bool)) :
      (((n, b) :: r).filter Prod.snd).map Prod.fst =
        (if b then [n] else []) ++ (r.filter Prod.snd).map Prod.fst := by cases b <;> rfl
  have hpresent (ns : List String) :
      ((ns.map (·, true)).filter Prod.snd).map Prod.fst = ns := by
    rw [List.filter_eq_self.2 (List.forall_mem_map.2 fun _ _ => rfl), List.map_map]
    exact List.map_id ns
  have hsort : q.sortArgument.map Prod.fst = if !q.sort.isEmpty then ["sort"] else [] := by
    unfold sortArgument
    cases q.sort.isEmpty <;> rfl
  simp only [List.map_append, map_fst_argument, (searchArgument_name_value hsearch).1, hsort,
    whereValue, Option.isSome_map, clauses, List.filter_append, hcons, hpresent, List.filter_nil,
    List.map_nil, List.append_nil, List.append_assoc]

lemma hasNull_sortArgument (q : QueryDescriptor) :
    q.sortArgument.any (·.2.hasNull) = false := by
  have hspec (s : SortSpec) : s.wire.hasNull = false := by simp [SortSpec.wire]
  unfold sortArgument
  split
  · rfl
  · simp [hspec]

/-- Null stands in the group only. -/
lemma filter_hasNull_arguments (h : q.arguments c = .ok fs) : fs.filter (·.2.hasNull) =
    argument "groupBy" GroupBySpec.wire (q.groupBy.filter fun g => !g.isComplete) := by
  obtain ⟨search, hsearch, h⟩ := bind_ok h
  obtain rfl := pure_ok h
  have hempty {fs : Arguments} (h : fs.any (·.2.hasNull) = false) :
      fs.filter (·.2.hasNull) = [] := List.filter_eq_nil_iff.2 (List.any_eq_false.1 h)
  have hnone {α : Type} (o : Option α) : (o.filter fun _ => false) = none := by cases o <;> rfl
  have hwhere : (q.whereValue.filter fun v => (id v).hasNull) = none := by
    unfold whereValue
    cases q.effectiveFilter with
    | none => rfl
    | some f => simp [Option.filter, f.hasNull_compile]
  have hnil {α : Type} (name : String) (wire : α → Value) : argument name wire none = [] := rfl
  simp only [List.filter_append, filter_hasNull_argument, hempty (searchArgument_name_value hsearch).2,
    hempty q.hasNull_sortArgument, hwhere, hasNull_int, hasNull_enum, hasNull_ofText, hnone,
    GroupBySpec.hasNull_wire, hnil, List.nil_append, List.append_nil]

/-- The order of arguments, given the name of the search argument. -/
def argumentOrder (search : Option String) : List String :=
  ["limit", "offset", "where"] ++ search.toList ++
    ["sort", "groupBy", "autocut", "consistencyLevel", "tenant"]

/-- No search argument has the name of another argument. -/
lemma nodup_argumentOrder (o : Option Search) :
    (argumentOrder (o.bind Search.argumentName?)).Nodup := by
  have hfixed : (argumentOrder none).Nodup := by decide
  cases hname : o.bind Search.argumentName? with
  | none => exact hfixed
  | some n =>
    have hnew : n ∉ argumentOrder none := by
      have hmedia : ∀ e ∈ mediaArguments, e.2 ∉ argumentOrder none := by decide
      obtain ⟨s, -, hs⟩ := Option.bind_eq_some_iff.1 hname
      cases s with
      | nearMedia kind =>
        obtain rfl := Option.some.inj hs
        exact hmedia _ (mem_of_lookup kind.known)
      | fetchAll | fetchById => cases hs
      | _ =>
        obtain rfl := Option.some.inj hs
        decide
    rw [argumentOrder, Option.toList_some, List.append_assoc, List.singleton_append,
      List.nodup_middle, List.nodup_cons]
    exact ⟨hnew, hfixed⟩

/-- Arguments that are the present clauses of a query, in the fixed order, each once. Null stands in the group
alone, where that lacks a number. -/
structure ArgumentsInOrder (q : QueryDescriptor) (c : RendererConfig) (fs : Arguments) : Prop where
  present : fs.map Prod.fst = ((q.clauses c).filter Prod.snd).map Prod.fst
  order : (fs.map Prod.fst).Sublist (argumentOrder (q.search.bind Search.argumentName?))
  nodup : (fs.map Prod.fst).Nodup
  null : fs.filter (·.2.hasNull) =
    argument "groupBy" GroupBySpec.wire (q.groupBy.filter fun g => !g.isComplete)

theorem argumentsInOrder_of_arguments (h : q.arguments c = .ok fs) : q.ArgumentsInOrder c fs := by
  have hclauses : (q.clauses c).map Prod.fst =
      argumentOrder (q.search.bind Search.argumentName?) := by
    simp [clauses, argumentOrder, Function.comp_def]
  have horder : (fs.map Prod.fst).Sublist (argumentOrder (q.search.bind Search.argumentName?)) := by
    rw [names_arguments h, ← hclauses]
    exact List.filter_sublist.map _
  exact ⟨names_arguments h, horder, horder.nodup (nodup_argumentOrder q.search),
    filter_hasNull_arguments h⟩

/-- A query with every clause. -/
def fullQuery : QueryDescriptor where
  collection := ⟨.plain "Song", by decide⟩
  fields := []
  search := some (.nearMedia ⟨.plain "audio", by decide⟩ ⟨.plain "AAAA", by decide⟩ .absent)
  filter := some (.leaf ⟨⟨[.plain "release"], by decide⟩, .known .equal, .integer 1972⟩)
  limit := some ⟨3, by decide⟩
  offset := some 0
  sort := [⟨⟨[.plain "release"], by decide⟩, .desc⟩]
  groupBy := some ⟨⟨[.plain "album"], by decide⟩, some ⟨1, by decide⟩, some ⟨10, by decide⟩⟩
  autocut := some ⟨1, by decide⟩
  additionalFields := []
  consistencyLevel := some ⟨.plain "ONE", by decide⟩
  tenant := some ⟨.plain "t", by decide⟩
  generate := none

/-- All nine arguments, and no null. -/
theorem argumentsInOrder_fullQuery : ∃ fs, fullQuery.arguments .standard = .ok fs ∧
    fs.map Prod.fst = ["limit", "offset", "where", "nearAudio", "sort", "groupBy", "autocut",
      "consistencyLevel", "tenant"] ∧
    ∀ f ∈ fs, f.2.hasNull = false := by
  obtain ⟨fs, hfs⟩ : ∃ fs, fullQuery.arguments .standard = .ok fs := ⟨_, rfl⟩
  have hordered := argumentsInOrder_of_arguments hfs
  have hnull : fs.filter (·.2.hasNull) = [] := hordered.null
  exact ⟨fs, hfs, hordered.present, by simpa using hnull⟩

/-- A group with none for its number of groups is accepted, and its argument has null in it. -/
theorem arguments_groups_none : ∃ g q fs,
    GroupBySpec.check (.list [.str "a"]) .none GroupBySpec.defaultObjects = .ok g ∧
    QuerySlots.check { collection := .str "Doc", groupBy := .object (.groupBy g) } = .ok q ∧
    q.arguments .standard = .ok fs ∧
    fs = [("groupBy", .object [("path", .list [.string "a"]), ("groups", .null),
      ("objectsPerGroup", .int 10)])] ∧
    ∃ f ∈ fs, f.2.hasNull = true :=
  ⟨_, _, _, rfl, rfl, rfl, rfl, _, List.mem_singleton_self _, rfl⟩

end QueryDescriptor

end VectorQuery
