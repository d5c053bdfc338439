import VectorQuery.Transport.Execute
import Mathlib.Tactic.Lemma

/-! Runs of attempts. What a library that calls again promises is said of one attempt at a time; a whole run ends at
the first response, or where the attempts are used up. -/
namespace VectorQuery

/-- The promises of a library that calls again. -/
class LawfulRetryLibrary [RetryLibrary] : Prop where
  /-- a response is the last attempt, whatever its status is -/
  attempts_response {limit : Int} {outcomes : Nat → Outcome} {r : Response} (h : outcomes 0 = .response r) :
    RetryLibrary.attempts limit outcomes = ⟨1, .response r⟩
  /-- a loss is the last attempt where no other may follow -/
  attempts_exhausted {limit : Int} {outcomes : Nat → Outcome} {kind : ConnectionLoss} {message : String}
    (hlimit : limit ≤ 1) (h : outcomes 0 = .loss kind message) :
    RetryLibrary.attempts limit outcomes = ⟨1, .loss kind message⟩
  /-- after any other loss the call is made again, and one attempt of those that may follow is gone -/
  attempts_again {limit : Int} {outcomes : Nat → Outcome} {kind : ConnectionLoss} {message : String}
    (hlimit : 1 < limit) (h : outcomes 0 = .loss kind message) :
    RetryLibrary.attempts limit outcomes =
      (RetryLibrary.attempts (limit - 1) fun j => outcomes (j + 1)).afterOne

instance : LawfulRetryLibrary where
  attempts_response {limit outcomes r} h := by
    simp only [RetryLibrary.attempts]
    cases (limit - 1).toNat with
    | zero => rw [Attempts.run, h]
    | succ retries => rw [Attempts.run, h]
  attempts_exhausted {limit outcomes kind message} hlimit h := by
    have hnone : (limit - 1).toNat = 0 := by omega
    simp only [RetryLibrary.attempts]
    rw [hnone, Attempts.run, h]
  attempts_again {limit outcomes kind message} hlimit h := by
    have hsome : (limit - 1).toNat = (limit - 1 - 1).toNat + 1 := by omega
    simp only [RetryLibrary.attempts]
    rw [hsome, Attempts.run, h]

namespace Attempts

variable [RetryLibrary] [LawfulRetryLibrary] {outcomes : Nat → Outcome} {r : Response} {k : Nat} {limit : Int}

/-- The attempts end with the first response, if there may be so many. -/
lemma attempts_of_first_response (hlost : ∀ j < k, ∃ kind message, outcomes j = .loss kind message)
    (hr : outcomes k = .response r) (hk : k ≤ (limit - 1).toNat) :
    RetryLibrary.attempts limit outcomes = ⟨k + 1, .response r⟩ := by
  induction k generalizing limit outcomes with
  | zero => exact LawfulRetryLibrary.attempts_response hr
  | succ k ih =>
    obtain ⟨kind, message, h0⟩ := hlost 0 k.succ_pos
    have hrest : RetryLibrary.attempts (limit - 1) (fun j => outcomes (j + 1)) = ⟨k + 1, .response r⟩ :=
      ih (fun j hj => hlost (j + 1) (by omega)) hr (by omega)
    rw [LawfulRetryLibrary.attempts_again (by omega) h0, hrest, afterOne]

/-- Attempts without a response are made as long as there may be another, and the last loss is their outcome. -/
lemma attempts_of_losses (hk : (limit - 1).toNat = k)
    (hlost : ∀ j ≤ k, ∃ kind message, outcomes j = .loss kind message) :
    RetryLibrary.attempts limit outcomes = ⟨k + 1, outcomes k⟩ := by
  induction k generalizing limit outcomes with
  | zero =>
    obtain ⟨kind, message, h0⟩ := hlost 0 (Nat.le_refl 0)
    rw [LawfulRetryLibrary.attempts_exhausted (by omega) h0, h0]
  | succ k ih =>
    obtain ⟨kind, message, h0⟩ := hlost 0 (Nat.zero_le _)
    have hrest : RetryLibrary.attempts (limit - 1) (fun j => outcomes (j + 1)) = ⟨k + 1, outcomes (k + 1)⟩ :=
      ih (by omega) fun j hj => hlost (j + 1) (by omega)
    rw [LawfulRetryLibrary.attempts_again (by omega) h0, hrest, afterOne]

end Attempts

end VectorQuery
