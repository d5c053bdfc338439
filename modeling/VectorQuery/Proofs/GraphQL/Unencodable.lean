import VectorQuery.Proofs.GraphQL.Names

/-! Which plain data have no literal, and which fault they end with: that of the first place, read from left to
right, that cannot be encoded. A key with a line feed behind its name is no such place. -/
namespace VectorQuery

/-! ### Faults of computations in a row -/

namespace Checked

variable {α β : Type}

def fault? : Checked α → Option Fault
  | .ok _ => none
  | .error e => some e

lemma fault?_eq_some_iff {x : Checked α} {e : Fault} : x.fault? = some e ↔ x = .error e := by
  cases x <;> simp [fault?]

lemma fault?_eq_none_iff {x : Checked α} : x.fault? = none ↔ ∃ a, x = .ok a := by
  cases x <;> simp [fault?]

lemma fault?_map (x : Checked α) (f : α → β) : fault? (x.map f) = x.fault? := by cases x <;> rfl

/-- What comes second fails only where what comes first does not. -/
lemma fault?_bind {x : Checked α} {f : α → Checked β} {o : Option Fault} (h : ∀ a, (f a).fault? = o) :
    fault? (x >>= f) = x.fault?.or o := by
  cases x with
  | error e => rfl
  | ok a => exact h a

/-- What ends a computation has no faults of its own. -/
lemma fault?_bind_pure {x : Checked α} {f : α → β} : fault? (x >>= fun a => pure (f a)) = x.fault? := by
  cases x <;> rfl

end Checked

/-! ### Places in plain data -/

namespace Datum

/-- A place in plain data: a value, or the key in front of a value. -/
inductive Place
  | value (d : Datum)
  | key (k : Datum)

mutual

/-- The places from left to right, those of lists, tuples and the values of dictionaries included. A value
stands before what is inside it, and a key before its value. -/
def places : Datum → List Place
  | .list xs => .value (.list xs) :: placesOfItems xs
  | .tuple xs => .value (.tuple xs) :: placesOfItems xs
  | .dict es => .value (.dict es) :: placesOfEntries es
  | d => [.value d]

def placesOfItems : List Datum → List Place
  | [] => []
  | x :: r => x.places ++ placesOfItems r

def placesOfEntries : Entries → List Place
  | [] => []
  | (k, x) :: r => .key k :: (x.places ++ placesOfEntries r)

end

/-- Data of a kind that has literals. -/
def isEncodable : Datum → Bool
  | .bytes _ => false
  | .day _ => false
  | .moment _ => false
  | .set _ => false
  | .record .. => false
  | _ => true

/-- A key that is a name of the grammar. -/
def IsNamed (k : Datum) : Prop := ∃ t, k = .text t ∧ GraphQL.IsGrammarName t.content.toList

namespace Place

/-- A place that cannot be encoded, and the fault that says why. -/
inductive Offends : Place → Fault → Prop
  | nonFinite {d : Double} (h : d.isFinite = false) : Offends (.value (.float d)) (.rejected (.nonFinite d))
  | key {k : Datum} (h : ¬k.IsNamed) : Offends (.key k) (.rejected (.invalid "argument name" k))
  | kind {d : Datum} (h : d.isEncodable = false) : Offends (.value d) (.unencodable d.kindName)

/-- A key that is no name for the line feed behind it alone. -/
def IsLineFeedKey (p : Place) : Prop :=
  ∃ t w, p = .key (.text t) ∧ GraphQL.IsGrammarName w ∧ t.content.toList = w ++ ['\n']

/-- A place that ends the encoding: one that offends, unless only a line feed is wrong with it. -/
structure Stops (p : Place) (e : Fault) : Prop where
  offends : p.Offends e
  strict : ¬p.IsLineFeedKey

/-- The fault of a place. -/
def fault? : Place → Option Fault
  | .value (.float d) => if d.isFinite then Option.none else some (.rejected (.nonFinite d))
  | .value d => if d.isEncodable then Option.none else some (.unencodable d.kindName)
  | .key k => if k.isName then Option.none else some (.rejected (.invalid "argument name" k))

/-- What is accepted as a key is a name, or ends with a line feed. -/
lemma isName_eq_false_iff {k : Datum} : k.isName = false ↔ ¬k.IsNamed ∧ ¬(key k).IsLineFeedKey := by
  rw [← Bool.not_eq_true, Datum.isName_iff, ← not_or, not_iff_not]
  constructor
  · rintro ⟨t, rfl, w, hw, rfl | hline⟩
    · exact .inl ⟨t, rfl, hw⟩
    · exact .inr ⟨t, w, rfl, hw, hline⟩
  · rintro (⟨t, rfl, ht⟩ | ⟨t, w, hk, hw, hline⟩)
    · exact ⟨t, rfl, _, ht, .inl rfl⟩
    · obtain rfl := Place.key.inj hk
      exact ⟨t, rfl, w, hw, .inr hline⟩

theorem fault?_eq_some_iff {p : Place} {e : Fault} : p.fault? = some e ↔ p.Stops e := by
  have hvalue (d : Datum) : ¬(value d).IsLineFeedKey := by
    rintro ⟨t, w, h, -⟩
    cases h
  have hrefused {accepted : Bool} {f : Fault} :
      (if accepted then Option.none else some f) = some e ↔ accepted = false ∧ f = e := by
    cases accepted <;> simp
  constructor
  · intro h
    unfold fault? at h
    split at h
    · obtain ⟨hd, rfl⟩ := hrefused.1 h
      exact ⟨.nonFinite hd, hvalue _⟩
    · obtain ⟨hd, rfl⟩ := hrefused.1 h
      exact ⟨.kind hd, hvalue _⟩
    · obtain ⟨hk, rfl⟩ := hrefused.1 h
      exact ⟨.key (isName_eq_false_iff.1 hk).1, (isName_eq_false_iff.1 hk).2⟩
  · rintro ⟨hoffends, hstrict⟩
    cases hoffends with
    | nonFinite h => exact hrefused.2 ⟨h, rfl⟩
    | key h => exact hrefused.2 ⟨isName_eq_false_iff.2 ⟨h, hstrict⟩, rfl⟩
    | @kind d h =>
      cases d with
      | float d => cases h
      | _ => exact hrefused.2 ⟨h, rfl⟩

end Place

end Datum

/-! ### Encoding -/

namespace GraphQL
open Datum (Place)
open Checked

lemma fault?_check_key (k : Datum) : (Name.check "argument name" k).fault? = (Place.key k).fault? := by
  cases k with
  | text t =>
    by_cases h : isName t.content.toList = true <;>
      simp [Name.check, Place.fault?, Datum.isName, h, Checked.fault?, reject]
  | _ => rfl

namespace Value

mutual

/-- Encoding ends with the fault of the first place that has one. -/
theorem fault?_ofDatum : ∀ d : Datum, (ofDatum d).fault? = d.places.findSome? Place.fault?
  | .list xs => by
    rw [ofDatum, fault?_map, fault?_ofItems xs]
    rfl
  | .tuple xs => by
    rw [ofDatum, fault?_map, fault?_ofItems xs]
    rfl
  | .dict es => by
    rw [ofDatum, fault?_map, fault?_ofEntries es]
    rfl
  | .float d => by
    by_cases h : d.isFinite = true <;>
      simp [ofDatum, Datum.places, Place.fault?, h, Checked.fault?, reject]
  | .none | .bool _ | .int _ | .text _ | .bytes _ | .day _ | .moment _ | .set _ | .record .. => rfl

theorem fault?_ofItems : ∀ xs : List Datum,
    (ofItems xs).fault? = (Datum.placesOfItems xs).findSome? Place.fault?
  | [] => rfl
  | x :: r => by
    rw [Datum.placesOfItems, List.findSome?_append, ← fault?_ofDatum x, ← fault?_ofItems r]
    exact fault?_bind fun _ => fault?_bind_pure

theorem fault?_ofEntries : ∀ es : Datum.Entries,
    (ofEntries es).fault? = (Datum.placesOfEntries es).findSome? Place.fault?
  | [] => rfl
  | (k, x) :: r => by
    change _ = ([Place.key k] ++ (x.places ++ Datum.placesOfEntries r)).findSome? Place.fault?
    rw [List.findSome?_append, List.findSome?_append, List.findSome?_singleton, ← fault?_check_key,
      ← fault?_ofDatum x, ← fault?_ofEntries r]
    exact fault?_bind fun _ => fault?_bind fun _ => fault?_bind_pure

end

end Value

/-- Arguments are encoded one after the other. -/
theorem fault?_argumentsOfData (args : List (String × Datum)) :
    (argumentsOfData args).fault? = (args.flatMap (·.2.places)).findSome? Place.fault? := by
  induction args with
  | nil => rfl
  | cons a r ih =>
    obtain ⟨name, x⟩ := a
    rw [List.flatMap_cons, List.findSome?_append, ← ih, ← Value.fault?_ofDatum x]
    exact fault?_bind fun _ => fault?_bind_pure

/-- A text that is written for some places: there is one exactly where no place stops the writing, and otherwise
the fault is that of the first place that does. -/
structure FailsAtFirst (places : List Place) (text : Checked α) : Prop where
  exists_ok_iff : (∃ s, text = .ok s) ↔ ∀ p ∈ places, ∀ e, ¬p.Stops e
  eq_error_iff : ∀ e, text = .error e ↔ ∃ before p after, places = before ++ p :: after ∧
    p.Stops e ∧ ∀ q ∈ before, ∀ f, ¬q.Stops f

lemma failsAtFirst_of_fault? {α : Type} {places : List Place} {text : Checked α}
    (h : text.fault? = places.findSome? Place.fault?) : FailsAtFirst places text where
  exists_ok_iff := by
    rw [← fault?_eq_none_iff, h, List.findSome?_eq_none_iff]
    simp only [Option.eq_none_iff_forall_ne_some, ne_eq, Place.fault?_eq_some_iff]
  eq_error_iff e := by
    rw [← fault?_eq_some_iff, h, List.findSome?_eq_some_iff]
    simp only [Option.eq_none_iff_forall_ne_some, ne_eq, Place.fault?_eq_some_iff]

/-- Plain data are written as a value, and values as arguments, unless a place in them stops the writing. The
first such place decides on the fault: a rejection for a double that is not finite and for a key that is no
name, and another fault for data without literals. The only keys that pass without being names are names with a
line feed behind them. -/
theorem render_fails_at_first (d : Datum) (args : List (String × Datum)) :
    FailsAtFirst d.places ((Value.ofDatum d).map Value.render) ∧
      FailsAtFirst (args.flatMap (·.2.places)) ((argumentsOfData args).map argumentsChars) :=
  ⟨failsAtFirst_of_fault? ((fault?_map _ _).trans (Value.fault?_ofDatum d)),
    failsAtFirst_of_fault? ((fault?_map _ _).trans (fault?_argumentsOfData args))⟩

/-- The key comes before its value, and both before what has no literal. -/
example : Value.ofDatum (.list [.int 1, .dict [(.str "bad-key", .float .nan)], .bytes []]) =
    .error (.rejected (.invalid "argument name" (.str "bad-key"))) := rfl

/-- A key with a line feed behind its name is written with it, and it is no name. -/
theorem render_lineFeed_key : ¬(Datum.str "a\n").IsNamed ∧
    (Value.ofDatum (.dict [(.str "a\n", .int 1)])).map Value.render = .ok "\x7ba\n: 1\x7d" := by
  refine ⟨?_, rfl⟩
  rintro ⟨t, ht, hname⟩
  obtain rfl := Datum.text.inj ht
  exact absurd (isStrictName_iff.2 hname) (by decide)

end GraphQL

end VectorQuery
