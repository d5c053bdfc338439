import VectorQuery.Aggregate.Render
import VectorQuery.Proofs.Checked
import VectorQuery.Term.Aggregate

/-! Which queries and aggregations have a text: all but those whose search lacks a number that its argument
writes. A caller leaves one out by giving none as the force of a shift or as a component of a vector. -/
namespace VectorQuery

open Checked

/-! ### Search arguments -/

namespace Search

/-- Whether a search has the numbers that its argument writes. -/
def isComplete : Search → Bool
  | nearText _ _ moveTo moveAway =>
    moveTo.all (·.force.isSome) && moveAway.all (·.force.isSome)
  | nearVector first rest _ => (first :: rest).all Option.isSome
  | _ => true

lemma needs_required {α : Type} (toDouble : α → Double) (o : Option α) :
    Needs (required toDouble o) o.isSome := by
  cases o with
  | none => rfl
  | some a => exact needs_ok _

lemma needs_moveWire (name : String) (m : Option Move) :
    Needs (moveWire name m) (m.all (·.force.isSome)) := by
  cases m with
  | none => exact needs_ok _
  | some m =>
    have hwire : Needs m.wire (m.force.isSome && true) :=
      (needs_required _ m.force).bind fun _ _ => needs_ok _
    rw [Bool.and_true] at hwire
    exact hwire.map _

lemma needs_vectorWire (qs : List (Option Quantity)) :
    Needs (vectorWire qs) (qs.all Option.isSome) := by
  induction qs with
  | nil => exact needs_ok _
  | cons q qs ih =>
    have hwire : Needs (vectorWire (q :: qs)) (q.isSome && (qs.all Option.isSome && true)) :=
      (needs_required _ q).bind fun _ _ => ih.bind fun _ _ => needs_ok _
    rwa [Bool.and_true] at hwire

theorem needs_argument (s : Search) : Needs s.argument s.isComplete := by
  cases s with
  | nearText concepts threshold moveTo moveAway =>
    have hargument : Needs (nearText concepts threshold moveTo moveAway).argument
        (moveTo.all (·.force.isSome) && (moveAway.all (·.force.isSome) && true)) :=
      (needs_moveWire _ moveTo).bind fun _ _ => (needs_moveWire _ moveAway).bind fun _ _ => needs_ok _
    rwa [Bool.and_true] at hargument
  | nearVector first rest threshold =>
    have hargument : Needs (nearVector first rest threshold).argument
        ((first :: rest).all Option.isSome && true) :=
      (needs_vectorWire _).bind fun _ _ => needs_ok _
    rwa [Bool.and_true] at hargument
  | _ => exact needs_ok _

end Search

/-! ### Queries and aggregations -/

namespace QueryDescriptor

lemma needs_searchArgument (q : QueryDescriptor) :
    Needs q.searchArgument (q.search.all Search.isComplete) := by
  unfold searchArgument
  cases q.search with
  | none => exact needs_ok _
  | some s => exact s.needs_argument.map _

theorem needs_render (q : QueryDescriptor) (c : RendererConfig) :
    Needs (q.render c) (q.search.all Search.isComplete) := by
  have harguments : Needs (q.arguments c) (q.search.all Search.isComplete && true) :=
    q.needs_searchArgument.bind fun _ _ => needs_ok _
  have hdocument : Needs (q.document c) ((q.search.all Search.isComplete && true) && true) :=
    harguments.bind fun _ _ => needs_ok _
  rw [Bool.and_true, Bool.and_true] at hdocument
  exact hdocument.map _

end QueryDescriptor

namespace AggregateDescriptor

theorem needs_render (a : AggregateDescriptor) (c : RendererConfig) :
    Needs (a.render c) (a.search.all fun s => s.search.isComplete) := by
  have harguments : Needs a.arguments ((a.search.all fun s => s.search.isComplete) && true) := by
    unfold arguments
    cases a.search with
    | none => exact needs_ok _
    | some s => exact (s.search.needs_argument.map _).bind fun _ _ => needs_ok _
  have hrender : Needs (a.render c) (((a.search.all fun s => s.search.isComplete) && true) && true) :=
    harguments.bind fun _ _ => needs_ok _
  rwa [Bool.and_true, Bool.and_true] at hrender

end AggregateDescriptor

/-- A query or an aggregation has a text exactly when its search has the numbers that it writes, whatever the
settings are. Where there is none, a number is of the wrong type, and nothing else fails. -/
theorem exists_render_iff (q : QueryDescriptor) (a : AggregateDescriptor) (c : RendererConfig) :
    ((∃ text, q.render c = .ok text) ↔ ∀ s, q.search = some s → s.isComplete = true) ∧
    ((∃ text, a.render c = .ok text) ↔ ∀ s, a.search = some s → s.search.isComplete = true) ∧
    ∀ e, q.render c = .error e ∨ a.render c = .error e → e = .wrongType := by
  have hq := q.needs_render c
  have ha := a.needs_render c
  refine ⟨?query, ?aggregation, ?failure⟩
  case query => rw [hq.exists_ok_iff, Option.all_eq_true]
  case aggregation => rw [ha.exists_ok_iff, Option.all_eq_true]
  case failure =>
    rintro e (he | he)
    · exact hq.eq_wrongType he
    · exact ha.eq_wrongType he

/-- A vector without its only component is accepted, and the query that has it has no text. -/
theorem render_missing_component : ∃ s q,
    Search.checkNearVector (.list [.none]) .none .none = .ok s ∧
    QuerySlots.check { collection := .str "Doc", search := .object (.search s) } = .ok q ∧
    q.render .standard = .error .wrongType := ⟨_, _, rfl, rfl, rfl⟩

end VectorQuery
