import VectorQuery.Proofs.Transport.FailedResponse
import Mathlib.Data.ENat.Lattice

/-! How often a request is sent, and which attempt decides its result. The first response ends the attempts,
whatever its status. Where no attempt gets one, the last loss alone decides the error. -/
namespace VectorQuery

namespace Outcome

/-- Whether an attempt brought an answer, of any status. -/
def isResponse : Outcome → Bool
  | response _ => true
  | loss .. => false

lemma isResponse_iff {o : Outcome} : o.isResponse = true ↔ ∃ r, o = .response r := by
  cases o <;> simp [isResponse]

lemma not_isResponse_iff {o : Outcome} : o.isResponse = false ↔ ∃ kind message, o = .loss kind message := by
  cases o <;> simp [isResponse]

end Outcome

/-! ### Positions of responses -/

namespace Attempts

variable {outcomes : ℕ → Outcome} {k n : ℕ}

/-- The position of the first response, counted from one; it is infinite where no attempt gets one. -/
noncomputable def firstResponse (outcomes : ℕ → Outcome) : ℕ∞ :=
  ⨅ (k : ℕ) (_ : (outcomes k).isResponse = true), (k + 1 : ℕ∞)

lemma firstResponse_eq (hlost : ∀ j < k, (outcomes j).isResponse = false)
    (hr : (outcomes k).isResponse = true) : firstResponse outcomes = k + 1 := by
  apply le_antisymm
  · exact iInf₂_le k hr
  · apply le_iInf₂
    intro j hj
    have hkj : k ≤ j := by
      by_contra hlt
      rw [hlost j (by omega)] at hj
      cases hj
    exact_mod_cast Nat.succ_le_succ hkj

lemma lt_firstResponse (hlost : ∀ j ≤ n, (outcomes j).isResponse = false) :
    n + 1 < firstResponse outcomes := by
  have hle : (n + 1 + 1 : ℕ) ≤ firstResponse outcomes := by
    apply le_iInf₂
    intro j hj
    have hnj : n < j := by
      by_contra hlt
      rw [hlost j (by omega)] at hj
      cases hj
    exact_mod_cast Nat.succ_le_succ hnj
  refine lt_of_lt_of_le ?_ hle
  exact_mod_cast Nat.lt_succ_self (n + 1)

/-- Some attempt up to a position gets the first response, or all of them are lost. -/
lemma first_or_lost (outcomes : ℕ → Outcome) (n : ℕ) :
    (∃ k ≤ n, (outcomes k).isResponse = true ∧ ∀ j < k, (outcomes j).isResponse = false) ∨
    ∀ j ≤ n, (outcomes j).isResponse = false := by
  by_cases h : ∃ k, k ≤ n ∧ (outcomes k).isResponse = true
  · left
    refine ⟨Nat.find h, (Nat.find_spec h).1, (Nat.find_spec h).2, fun j hj => ?_⟩
    have hle := (Nat.find_spec h).1
    exact Bool.eq_false_iff.2 fun hr => Nat.find_min h hj ⟨by omega, hr⟩
  · right
    intro j hj
    exact Bool.eq_false_iff.2 fun hr => h ⟨j, hj, hr⟩

/-! ### Runs of attempts -/

/-- What is known of the attempts with `n` retries. -/
structure EndsAt (outcomes : ℕ → Outcome) (n : ℕ) (attempts : Attempts) : Prop where
  count : (attempts.count : ℕ∞) = min (firstResponse outcomes) (n + 1)
  response : firstResponse outcomes ≤ n + 1 →
    ∃ (k : ℕ) (r : Response), firstResponse outcomes = k + 1 ∧ outcomes k = .response r ∧
      attempts.last = .response r
  lost : n + 1 < firstResponse outcomes →
    ∃ kind message, outcomes n = .loss kind message ∧ attempts.last = .loss kind message

/-- Attempts end at the first response, or at the last retry if none came before. -/
theorem endsAt_attempts [RetryLibrary] [LawfulRetryLibrary] (outcomes : ℕ → Outcome) (n : ℕ) :
    EndsAt outcomes n (RetryLibrary.attempts (n + 1) outcomes) := by
  have hlimit : ((n : ℤ) + 1 - 1).toNat = n := by omega
  rcases first_or_lost outcomes n with ⟨k, hk, hr, hlost⟩ | hlost
  · obtain ⟨r, hr'⟩ := Outcome.isResponse_iff.1 hr
    have hfirst : firstResponse outcomes = k + 1 := firstResponse_eq hlost hr
    have hle : firstResponse outcomes ≤ n + 1 := by
      rw [hfirst]
      exact_mod_cast Nat.succ_le_succ hk
    rw [attempts_of_first_response (fun j hj => Outcome.not_isResponse_iff.1 (hlost j hj)) hr' (by omega)]
    refine ⟨?_, fun _ => ⟨k, r, hfirst, hr', rfl⟩, fun hlt => absurd hle hlt.not_ge⟩
    rw [min_eq_left hle, hfirst]
    exact Nat.cast_succ k
  · obtain ⟨kind, message, hn⟩ := Outcome.not_isResponse_iff.1 (hlost n le_rfl)
    have hlt := lt_firstResponse hlost
    rw [attempts_of_losses hlimit fun j hj => Outcome.not_isResponse_iff.1 (hlost j hj)]
    refine ⟨?_, fun hle => absurd hle hlt.not_ge, fun _ => ⟨kind, message, hn, hn⟩⟩
    rw [min_eq_right hlt.le]
    exact Nat.cast_succ n

end Attempts

/-! ### Requests -/

namespace Response

/-- A response of success is its decoded body, and any other an error. -/
lemma result_cases [HttpLibrary] (r : Response) :
    (Status.isSuccess r.status = true → r.result = .ok (decodeBody r.text)) ∧
    (Status.isSuccess r.status = false → ∃ e, r.result = .error e) := by
  unfold result
  constructor
  · intro h
    rw [h]
    rfl
  · intro h
    rw [h]
    dsimp only
    cases r.failureDetails (decodeBody r.text) with
    | error e => exact ⟨e, rfl⟩
    | ok details => exact ⟨_, rfl⟩

end Response

lemma cause_lossFailure (kind : ConnectionLoss) (message : String) :
    ∃ f, lossFailure kind message = .transport f ∧
      f.cause = if kind.isTimeout then .timeout else .connection := by
  unfold lossFailure
  cases kind.isTimeout with
  | true => exact ⟨_, rfl, rfl⟩
  | false => exact ⟨_, rfl, rfl⟩

namespace Transport

open Attempts

section

variable [HttpLibrary] [RetryLibrary]

/-- The method of a request as it is sent. -/
def sentMethod (method : String) : String := String.ofList (Text.upper method.toList)

lemma execute_of_unknown_method (t : Transport) (outcomes : ℕ → Outcome) {r : Request}
    (h : sentMethod r.method ∉ methods) :
    t.execute outcomes r = (reject (.httpMethod (sentMethod r.method)), []) := by
  have hmethod : checkMethod r.method = reject (.httpMethod (sentMethod r.method)) :=
    if_neg (by simpa [sentMethod] using h)
  have hsent : t.sent r = reject (.httpMethod (sentMethod r.method)) := by
    unfold sent
    rw [hmethod]
    rfl
  unfold execute
  rw [hsent]
  rfl

lemma execute_of_known_method (t : Transport) (outcomes : ℕ → Outcome) {r : Request} {body : Datum}
    (h : sentMethod r.method ∈ methods) (hbody : Json.plain r.body = .ok body) :
    let attempts := RetryLibrary.attempts (t.maxRetries + 1) outcomes
    t.execute outcomes r = (attempts.last.result,
      List.replicate attempts.count ⟨sentMethod r.method, t.url r.path, t.authorization, body⟩) := by
  have hmethod : checkMethod r.method = .ok (sentMethod r.method) :=
    if_pos (by simpa [sentMethod] using h)
  have hsent : t.sent r = .ok ⟨sentMethod r.method, t.url r.path, t.authorization, body⟩ := by
    unfold sent
    rw [hmethod, hbody]
    rfl
  unfold execute
  rw [hsent]

/-- A request with a method that can be sent goes out once for each attempt up to the first response, but not
more often than one attempt and the retries, and always in the same form. A response within these attempts alone
decides the result: the decoded body of a success, and an error for any other status. Where there is none, the
last loss decides whether the error is one of time or of connection. Other methods are refused, and nothing is
sent. -/
theorem execute_retries [LawfulRetryLibrary] (t : Transport) (outcomes : ℕ → Outcome) (r : Request) {n : ℕ}
    (hn : t.maxRetries = n) :
    (∀ body, Json.plain r.body = .ok body → sentMethod r.method ∈ methods →
      (∃ count : ℕ, (count : ℕ∞) = min (firstResponse outcomes) (n + 1) ∧
        (t.execute outcomes r).2 =
          List.replicate count ⟨sentMethod r.method, t.url r.path, t.authorization, body⟩) ∧
      (firstResponse outcomes ≤ n + 1 →
        ∃ (k : ℕ) (response : Response), firstResponse outcomes = k + 1 ∧ outcomes k = .response response ∧
          (t.execute outcomes r).1 = response.result ∧
          (Status.isSuccess response.status = true → response.result = .ok (decodeBody response.text)) ∧
          (Status.isSuccess response.status = false → ∃ e, response.result = .error e)) ∧
      (n + 1 < firstResponse outcomes →
        ∃ kind message f, outcomes n = .loss kind message ∧ (t.execute outcomes r).1 = .error (.transport f) ∧
          f.cause = if kind.isTimeout then .timeout else .connection)) ∧
    (sentMethod r.method ∉ methods →
      t.execute outcomes r = (reject (.httpMethod (sentMethod r.method)), [])) := by
  refine ⟨fun body hbody hmethod => ?sent, execute_of_unknown_method t outcomes⟩
  have hexecute := execute_of_known_method t outcomes hmethod hbody
  rw [hn] at hexecute
  obtain ⟨hcount, hresponse, hlost⟩ := endsAt_attempts outcomes n
  rw [hexecute]
  refine ⟨⟨_, hcount, rfl⟩, fun hle => ?response, fun hlt => ?lost⟩
  case response =>
    obtain ⟨k, response, hfirst, hk, hlast⟩ := hresponse hle
    exact ⟨k, response, hfirst, hk, by rw [hlast]; rfl, response.result_cases⟩
  case lost =>
    obtain ⟨kind, message, hk, hlast⟩ := hlost hlt
    obtain ⟨f, hf, hcause⟩ := cause_lossFailure kind message
    refine ⟨kind, message, f, hk, ?_, hcause⟩
    rw [hlast, ← hf]
    rfl

end

/-- A timeout and then a refused connection use up one retry. The answer that the next attempt would get is never
asked for, and the error is that of the connection. -/
theorem execute_retries_refused_after_timeout :
    let t : Transport := ⟨"http://localhost:8080", none, .one, 1⟩
    let outcomes : ℕ → Outcome := fun j =>
      if j = 0 then .loss .readTimeout "slow" else if j = 1 then .loss .connect "refused" else .response ⟨200, ""⟩
    let r : Request := ⟨"post", "v1/graphql", .object [("query", .str "q")]⟩
    (t.execute outcomes r).2 = List.replicate 2
      ⟨"POST", "http://localhost:8080/v1/graphql", none, .object [("query", .str "q")]⟩ ∧
    ∃ f, (t.execute outcomes r).1 = .error (.transport f) ∧ f.cause = .connection := by
  intro t outcomes r
  have hbody : Json.plain r.body = .ok r.body := by rfl
  have hfirst : firstResponse outcomes = (2 : ℕ) + 1 := by
    apply firstResponse_eq
    · intro j hj
      obtain rfl | rfl : j = 0 ∨ j = 1 := by omega
      · rfl
      · rfl
    · rfl
  have hmethod : sentMethod r.method = "POST" := by decide
  have hurl : t.url r.path = "http://localhost:8080/v1/graphql" := by decide
  have hlate : ((1 : ℕ) + 1 : ℕ∞) < (2 : ℕ) + 1 := by decide
  obtain ⟨hsent, -⟩ := execute_retries t outcomes r (n := 1) rfl
  obtain ⟨⟨count, hcount, hattempts⟩, -, hlost⟩ := hsent r.body hbody (by rw [hmethod]; decide)
  rw [hfirst] at hcount hlost
  have htwo : count = 2 := by
    rw [min_eq_right hlate.le] at hcount
    exact_mod_cast hcount
  refine ⟨by rw [hattempts, htwo, hmethod, hurl], ?_⟩
  obtain ⟨kind, message, f, hkind, hf, hcause⟩ := hlost hlate
  obtain ⟨rfl, -⟩ : ConnectionLoss.connect = kind ∧ "refused" = message := Outcome.loss.inj hkind
  exact ⟨f, hf, hcause⟩

end Transport

end VectorQuery
