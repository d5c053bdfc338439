import VectorQuery.Proofs.Checked
import VectorQuery.Proofs.Transport.Attempts

/-! Requests that are answered with a status of failure. They end in an error that carries the status, the kind
of error and a message, unless the body is data that the search for a message cannot look into. -/
namespace VectorQuery

/-! ### Texts of data -/

lemma Double.layout_ne_nil (ds : List Char) (point : Int) : layout ds point ≠ [] := by
  unfold layout
  split
  · split <;> simp
  · split <;> simp

lemma Double.text_ne_nil (d : Double) : d.text ≠ [] := by
  unfold text
  split
  · simp
  · simp
  · refine List.append_ne_nil_of_right_ne_nil _ ?_
    split
    · simp
    · exact layout_ne_nil _ _

lemma Word.qualified_ne_empty (w : Word) : w.qualified ≠ "" := by
  intro h
  cases w <;> exact nomatch (String.append_eq_empty_iff.1 h).1

/-- Data that count as true have a text. -/
theorem Datum.shown_ne_empty {d : Datum} (h : d.truthy = true) : d.shown ≠ "" := by
  cases d with
  | none => cases h
  | bool b => cases b <;> simp [shown, detailed]
  | int i => cases i <;> simp [shown, detailed, Int.repr, Nat.repr]
  | float d => simp [shown, detailed, Double.show, d.text_ne_nil]
  | text t =>
    cases t with
    | word w => exact w.qualified_ne_empty
    | _ => simpa [shown, MarkedText.shown, truthy, MarkedText.isEmpty] using h
  | bytes bs => simp [shown, detailed, Text.quotedBytes]
  | day d => simp [shown, Day.iso]
  | moment t => simp [shown, Moment.text]
  | list xs => simp [shown, detailed]
  | tuple xs => rcases xs with _ | ⟨x, _ | ⟨y, r⟩⟩ <;> simp [shown, detailed]
  | set xs => rcases xs with _ | ⟨x, r⟩ <;> simp [shown, detailed]
  | dict es => simp [shown, detailed]
  | record name fields => simp [shown, detailed]

/-! ### Data of a JSON text -/

/-- The kinds of data that a JSON text writes. -/
def Datum.isJson : Datum → Bool
  | .none => true
  | .bool _ => true
  | .int _ => true
  | .float _ => true
  | .text _ => true
  | .list _ => true
  | .dict _ => true
  | _ => false

namespace Json

variable {s r : List Char} {d : Datum}

lemma isJson_of_word? (h : word? s = some (d, r)) : d.isJson = true := by
  obtain ⟨⟨w, x⟩, hmem, hw⟩ := List.exists_of_findSome?_eq_some h
  obtain ⟨q, -, he⟩ := Option.map_eq_some_iff.1 hw
  obtain ⟨rfl, rfl⟩ := Prod.mk.inj he
  have hall : ∀ e ∈ [("null", Datum.none), ("true", .bool true), ("false", .bool false),
      ("NaN", .float .nan), ("Infinity", .float (.infinite false)),
      ("-Infinity", .float (.infinite true))], e.2.isJson = true := by simp [Datum.isJson]
  exact hall _ hmem

lemma isJson_of_number? (h : number? s = some (d, r)) : d.isJson = true := by
  unfold number? at h
  grind [Datum.isJson]

lemma isJson_of_value? {fuel : Nat} (h : value? fuel s = some (d, r)) : d.isJson = true := by
  cases fuel with
  | zero => simp [value?] at h
  | succ fuel =>
    unfold value? at h
    split at h
    case h_1 =>
      obtain ⟨x, -, hx⟩ := Option.map_eq_some_iff.1 h
      cases hx
      rfl
    case h_2 =>
      split at h
      · cases h
        rfl
      · obtain ⟨x, -, hx⟩ := Option.map_eq_some_iff.1 h
        cases hx
        rfl
    case h_3 =>
      split at h
      · cases h
        rfl
      · obtain ⟨x, -, hx⟩ := Option.map_eq_some_iff.1 h
        cases hx
        rfl
    case h_4 =>
      split at h
      next found hw =>
        cases h
        exact isJson_of_word? hw
      next => exact isJson_of_number? h

lemma isJson_of_read? (h : read? s = some d) : d.isJson = true := by
  unfold read? at h
  split at h
  next hv =>
    split at h
    · cases h
      exact isJson_of_value? hv
    · cases h
  next => cases h

end Json

/-- A body is decoded to data that JSON writes, whatever its text is. -/
lemma isJson_decodeBody (text : String) : (decodeBody text).isJson = true := by
  unfold decodeBody
  split
  · rfl
  · cases h : Json.read? text.toList with
    | none => rfl
    | some d => exact Json.isJson_of_read? h

/-! ### Messages of errors -/

lemma listedMessages_ne_empty {errors : List Datum} {m : String} (h : m ∈ listedMessages errors) :
    m ≠ "" := by
  obtain ⟨d, hd, rfl⟩ := List.mem_map.1 h
  obtain ⟨e, -, he⟩ := List.mem_filterMap.1 hd
  exact Datum.shown_ne_empty (Option.filter_eq_some_iff.1 he).2

lemma intercalate_ne_empty {sep m : String} (ms : List String) (h : m ≠ "") :
    sep.intercalate (m :: ms) ≠ "" := by
  cases ms with
  | nil => rwa [String.intercalate_singleton]
  | cons n ms =>
    rw [String.intercalate_cons_cons]
    simp [h]

lemma Datum.truthy_orElse {d other : Datum} (h : other.truthy = true) :
    (d.orElse other).truthy = true := by
  unfold orElse
  split
  · assumption
  · exact h

/-- Whatever an error body says, its message has characters. -/
theorem failureMessage_ne_empty (details : Datum) : failureMessage details ≠ "" := by
  have hlast : ∀ d e : Datum, ((d.orElse (e.orElse (.str plainFailure))).shown ≠ "") := fun d e =>
    Datum.shown_ne_empty (Datum.truthy_orElse (Datum.truthy_orElse rfl))
  unfold failureMessage
  split
  next es =>
    dsimp only
    generalize (Datum.lookup "error" es).getD .none = error
    split
    next xs =>
      split
      next hlisted =>
        obtain ⟨m, ms, hms⟩ : ∃ m ms, listedMessages xs = m :: ms :=
          List.exists_cons_of_ne_nil (by simpa using hlisted)
        rw [hms]
        exact intercalate_ne_empty ms (listedMessages_ne_empty (hms ▸ List.mem_cons_self))
      next => exact hlast _ _
    next => exact hlast _ _
  next => simp [plainFailure]

/-! ### Details of errors -/

/-- Data that cannot be searched for an entry named `body`: numbers other than zero, the truth value true, and
the list of that name alone, which has the name but no entry. -/
def Datum.isUnsearchable : Datum → Bool
  | .bool b => b
  | .int i => i != 0
  | .float d => !(Num.same (.float d) (.int 0))
  | .list [.text t] => t.content == "body"
  | _ => false

lemma Datum.truthy_of_isUnsearchable {d : Datum} (h : d.isUnsearchable = true) : d.truthy = true := by
  cases d with
  | bool b => exact h
  | int i => exact h
  | float x => exact h
  | list xs =>
    cases xs with
    | nil => cases h
    | cons x xs => rfl
  | _ => cases h

namespace Response

open Checked

variable [HttpLibrary]

lemma needs_failureDetails (r : Response) {body : Datum} (h : body.isJson = true) :
    Needs (r.failureDetails body) (!body.isUnsearchable) := by
  unfold failureDetails
  cases ht : body.truthy with
  | false =>
    have hu : body.isUnsearchable = false :=
      Bool.eq_false_iff.2 fun hu => by simp [Datum.truthy_of_isUnsearchable hu] at ht
    rw [hu]
    exact needs_ok _
  | true =>
    simp only [Bool.not_true, Bool.false_eq_true, if_false]
    split
    next => exact needs_ok _
    next => exact needs_ok _
    next => exact needs_ok _
    next t =>
      cases hb : t.content == "body" with
      | true => simp [Datum.isUnsearchable, hb, Needs]
      | false => simp [Datum.isUnsearchable, hb, Needs]
    next xs hxs =>
      have hu : (Datum.list xs).isUnsearchable = false := by
        unfold Datum.isUnsearchable
        split <;> grind
      rw [hu]
      exact needs_ok _
    next =>
      have hu : body.isUnsearchable = true := by
        cases body <;> simp_all [Datum.isJson, Datum.isUnsearchable, Datum.truthy]
      rw [hu]
      rfl

/-- What is known of the error of an answer, from its status alone. -/
structure IsFailure (r : Response) (f : TransportFailure) : Prop where
  cause : f.cause = .response
  status : f.status = some (r.status : Int)
  errorType : f.errorType = Status.errorType r.status
  message : f.message ≠ ""

/-- An answer with a status of failure is an error of the exchange, or of data that cannot be searched. -/
lemma result_of_not_isSuccess {r : Response} (h : Status.isSuccess r.status = false) :
    if (decodeBody r.text).isUnsearchable then r.result = .error .wrongType
    else ∃ f, r.result = .error (.transport f) ∧ r.IsFailure f := by
  have hneeds := r.needs_failureDetails (isJson_decodeBody r.text)
  unfold result
  rw [h]
  cases hu : (decodeBody r.text).isUnsearchable with
  | true =>
    rw [hu] at hneeds
    have hd : r.failureDetails (decodeBody r.text) = .error .wrongType := hneeds
    simp only [hd]
    rfl
  | false =>
    rw [hu] at hneeds
    obtain ⟨details, hd⟩ : ∃ d, r.failureDetails (decodeBody r.text) = .ok d := hneeds
    simp only [hd]
    exact ⟨_, rfl, rfl, rfl, rfl, failureMessage_ne_empty details⟩

end Response

/-! ### Requests -/

namespace Transport

section

variable [HttpLibrary] [RetryLibrary] [LawfulRetryLibrary] {t : Transport} {outcomes : Nat → Outcome} {r : Request}
  {s : Sent} {response : Response} {k : Nat}

/-- The first answer decides the result, if the retries reach it. -/
lemma execute_of_first_response (hs : t.sent r = .ok s)
    (hlost : ∀ j < k, ∃ kind message, outcomes j = .loss kind message)
    (hr : outcomes k = .response response) (hk : k ≤ t.maxRetries.toNat) :
    (t.execute outcomes r).1 = response.result := by
  have hattempts : RetryLibrary.attempts (t.maxRetries + 1) outcomes = ⟨k + 1, .response response⟩ :=
    Attempts.attempts_of_first_response hlost hr (by omega)
  simp only [execute, hs, hattempts]
  rfl

/-- A request whose first answer has a status of failure ends in the error of that answer: its status, the
kind of error of that status, and a message. The one exception is a body that cannot be searched for a
message, where a value has the wrong type. -/
theorem execute_of_failed_response (hs : t.sent r = .ok s)
    (hlost : ∀ j < k, ∃ kind message, outcomes j = .loss kind message)
    (hr : outcomes k = .response response) (hk : k ≤ t.maxRetries.toNat)
    (hstatus : Status.isSuccess response.status = false) :
    if (decodeBody response.text).isUnsearchable then
      (t.execute outcomes r).1 = .error .wrongType
    else ∃ f, (t.execute outcomes r).1 = .error (.transport f) ∧ response.IsFailure f := by
  rw [execute_of_first_response hs hlost hr hk]
  exact Response.result_of_not_isSuccess hstatus

end

/-- A timeout, and then an answer that the service is not available. -/
theorem execute_unavailable_after_timeout :
    let t : Transport := ⟨"http://localhost:8080", none, .one, 3⟩
    let answer : Response := ⟨503, "\x7b\"message\": \"down\"\x7d"⟩
    let outcomes : Nat → Outcome := fun j => if j = 0 then .loss .readTimeout "slow" else .response answer
    ∃ f, (t.execute outcomes ⟨"GET", "/v1/meta", .none⟩).1 = .error (.transport f) ∧
      answer.IsFailure f := by
  intro t answer outcomes
  have hs : t.sent ⟨"GET", "/v1/meta", .none⟩ =
      .ok ⟨"GET", "http://localhost:8080/v1/meta", none, .none⟩ := by rfl
  have hlost : ∀ j < 1, ∃ kind message, outcomes j = .loss kind message := by
    intro j hj
    obtain rfl : j = 0 := by omega
    exact ⟨.readTimeout, "slow", rfl⟩
  have hu : (decodeBody answer.text).isUnsearchable = false := by decide +kernel
  have h := execute_of_failed_response hs hlost rfl (by decide) rfl
  rwa [if_neg (by simp [hu])] at h

/-- A body that is the number five ends in no error of the exchange. -/
theorem execute_number_body :
    let t : Transport := ⟨"http://localhost:8080", none, .one, 3⟩
    let answer : Response := ⟨500, "5"⟩
    Status.isSuccess answer.status = false ∧
      (t.execute (fun _ => .response answer) ⟨"GET", "/v1/meta", .none⟩).1 = .error .wrongType :=
  ⟨rfl, rfl⟩

end Transport

end VectorQuery
