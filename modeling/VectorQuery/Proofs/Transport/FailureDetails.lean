import VectorQuery.Proofs.Transport.FailedResponse

/-! The details of the error that an answer stands for. A text that is no JSON is kept as a message, and a JSON
object as it is. On its way the text has the form of an object with the one entry `body`, so a server that sends
such an object finds it taken for a text. -/
namespace VectorQuery

/-- The value of a dictionary that has one entry, named `body`. -/
def Datum.wrapped? : Datum → Option Datum
  | .dict [(.text key, v)] => if key.content = "body" then some v else Option.none
  | _ => Option.none

lemma Datum.eq_of_wrapped? {d v : Datum} (h : d.wrapped? = some v) :
    ∃ key : MarkedText, d = .dict [(.text key, v)] ∧ key.content = "body" := by
  unfold wrapped? at h
  split at h
  · split at h
    · cases h
      exact ⟨_, rfl, ‹_›⟩
    · cases h
  · cases h

/-- A value as the message of an error. -/
def messageDetails (v : Datum) : Datum := .object [("message", v)]

lemma messageDetails_ne {d v w : Datum} (h : d.wrapped? = some v) : messageDetails w ≠ d := by
  obtain ⟨key, rfl, hkey⟩ := Datum.eq_of_wrapped? h
  intro he
  have hentry : (Datum.str "message", w) = (Datum.text key, v) :=
    (List.cons.inj (Datum.dict.inj he)).1
  obtain rfl : MarkedText.plain "message" = key := Datum.text.inj (Prod.mk.inj hentry).1
  exact absurd hkey (by decide)

namespace Response

variable [HttpLibrary]

/-- A dictionary that is not empty is kept, unless its one entry is named `body`. -/
lemma failureDetails_dict (r : Response) {es : Datum.Entries} (hne : es ≠ []) :
    r.failureDetails (.dict es) = .ok (((Datum.dict es).wrapped?.map messageDetails).getD (.dict es)) := by
  obtain ⟨⟨k, v⟩, rest, rfl⟩ := List.exists_cons_of_ne_nil hne
  cases rest with
  | cons e rest => cases k <;> rfl
  | nil =>
    cases k with
    | text key =>
      by_cases hkey : key.content = "body"
      · simp [failureDetails, Datum.truthy, Datum.wrapped?, hkey, messageDetails]
      · simp [failureDetails, Datum.truthy, Datum.wrapped?, hkey]
    | _ => rfl

/-- The answer ends in an error of the exchange that carries these details. -/
def Carries (r : Response) (details : Datum) (x : Checked Datum) : Prop :=
  ∃ f, x = .error (.transport f) ∧ r.IsFailure f ∧ f.message = failureMessage f.details ∧ f.details = details

lemma carries_result {r : Response} {details : Datum} (h : Status.isSuccess r.status = false)
    (hd : r.failureDetails (decodeBody r.text) = .ok details) : r.Carries details r.result := by
  unfold result
  rw [h]
  simp only [hd]
  exact ⟨_, rfl, ⟨rfl, rfl, rfl, failureMessage_ne_empty details⟩, rfl, rfl⟩

end Response

lemma decodeBody_of_read? {text : String} {d : Datum} (h : Json.read? text.toList = some d) : decodeBody text = d := by
  have hne : text ≠ "" := by
    rintro rfl
    cases h
  simp [decodeBody, hne, h]

lemma decodeBody_of_read?_eq_none {text : String} (h : Json.read? text.toList = none) (hne : text ≠ "") :
    decodeBody text = .object [("body", .str text)] := by
  simp [decodeBody, hne, h]

namespace Transport

section

variable [HttpLibrary] [RetryLibrary] [LawfulRetryLibrary] {t : Transport} {outcomes : Nat → Outcome} {r : Request}
  {s : Sent} {response : Response} {k : Nat}

/-- **The error of an answer keeps its body.** Where the text of an answer with a status of failure is a JSON object
that is not empty, the error carries this object as it is, unless the object has one entry alone with the name
`body`: then it carries the value of that entry as a message. A text that is no JSON is carried as a message. -/
theorem execute_failure_details (hs : t.sent r = .ok s)
    (hlost : ∀ j < k, ∃ kind message, outcomes j = .loss kind message)
    (hr : outcomes k = .response response) (hk : k ≤ t.maxRetries.toNat)
    (hstatus : Status.isSuccess response.status = false) :
    (∀ es, Json.read? response.text.toList = some (.dict es) → es ≠ [] →
      ∃ details, response.Carries details (t.execute outcomes r).1 ∧
        (details = .dict es ↔ (Datum.dict es).wrapped? = none) ∧
        ∀ v, (Datum.dict es).wrapped? = some v → details = messageDetails v) ∧
    (Json.read? response.text.toList = none → response.text ≠ "" →
      response.Carries (messageDetails (.str response.text)) (t.execute outcomes r).1) := by
  rw [execute_of_first_response hs hlost hr hk]
  refine ⟨fun es hread hne => ?object, fun hread hne => ?text⟩
  case object =>
    have hd := response.failureDetails_dict hne
    rw [← decodeBody_of_read? hread] at hd
    refine ⟨_, Response.carries_result hstatus hd, ?_, ?_⟩
    · rw [decodeBody_of_read? hread]
      cases h : (Datum.dict es).wrapped? with
      | none => simp
      | some v => simpa using messageDetails_ne h
    · intro v h
      rw [decodeBody_of_read? hread, h]
      rfl
  case text =>
    apply Response.carries_result hstatus
    rw [decodeBody_of_read?_eq_none hread hne]
    exact response.failureDetails_dict (by simp)

end

/-- After a timeout, an object with an entry named `body` beside another one. -/
theorem execute_failure_details_two_entries :
    let t : Transport := ⟨"http://localhost:8080", none, .one, 3⟩
    let answer : Response := ⟨422, "\x7b\"body\": \"no such class\", \"code\": \"E7\"\x7d"⟩
    let outcomes : Nat → Outcome := fun j => if j = 0 then .loss .readTimeout "slow" else .response answer
    answer.Carries (.object [("body", .str "no such class"), ("code", .str "E7")])
      (t.execute outcomes ⟨"GET", "/v1/meta", .none⟩).1 := by
  intro t answer outcomes
  have hs : t.sent ⟨"GET", "/v1/meta", .none⟩ =
      .ok ⟨"GET", "http://localhost:8080/v1/meta", none, .none⟩ := by rfl
  have hlost : ∀ j < 1, ∃ kind message, outcomes j = .loss kind message := by
    intro j hj
    obtain rfl : j = 0 := by omega
    exact ⟨.readTimeout, "slow", rfl⟩
  have hread : Json.read? answer.text.toList =
      some (.object [("body", .str "no such class"), ("code", .str "E7")]) := by
    simp [answer, Json.read?, Json.skipSpace, Json.isSpace, Json.value?, Json.entries?, Json.string?,
      Json.stringBody?, Datum.setEntry, Datum.same, MarkedText.same, Datum.object, Datum.str]
  obtain ⟨hobject, -⟩ := execute_failure_details hs hlost rfl (by decide) rfl
  obtain ⟨details, hcarries, hkept, -⟩ := hobject _ hread (by simp)
  rwa [hkept.2 rfl] at hcarries

/-- An object whose only entry is named `body` is not kept. -/
theorem execute_body_object :
    let t : Transport := ⟨"http://localhost:8080", none, .one, 3⟩
    let answer : Response := ⟨400, "\x7b\"body\": \"x\"\x7d"⟩
    Status.isSuccess answer.status = false ∧
      Json.read? answer.text.toList = some (.object [("body", .str "x")]) ∧
      ∃ f, (t.execute (fun _ => .response answer) ⟨"GET", "/v1/meta", .none⟩).1 = .error (.transport f) ∧
        f.details = .object [("message", .str "x")] ∧ f.details ≠ .object [("body", .str "x")] := by
  intro t answer
  have hread : Json.read? answer.text.toList = some (.object [("body", .str "x")]) := by
    simp [answer, Json.read?, Json.skipSpace, Json.isSpace, Json.value?, Json.entries?, Json.string?,
      Json.stringBody?, Datum.setEntry, Datum.object]
  have hresult : (t.execute (fun _ => .response answer) ⟨"GET", "/v1/meta", .none⟩).1 = answer.result := by rfl
  have hd : answer.failureDetails (decodeBody answer.text) = .ok (messageDetails (.str "x")) := by
    rw [decodeBody_of_read? hread]
    rfl
  obtain ⟨f, hf, -, -, hdetails⟩ := Response.carries_result rfl hd
  refine ⟨rfl, hread, f, hresult.trans hf, hdetails, ?_⟩
  rw [hdetails]
  exact messageDetails_ne (v := .str "x") rfl

end Transport

end VectorQuery
