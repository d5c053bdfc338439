import VectorQuery.Client.Call
import VectorQuery.Proofs.Checked

/-! Errors of generative queries that bring back one payload. An answer with reported errors always gives a
payload with an error. These are the errors of the answer in their order, unless the first row has an error of
its own, or there are rows of which the first has no payload. -/
namespace VectorQuery

/-! ### Entries -/

namespace Datum

variable {key other : String}

lemma same_str (d : Datum) (key : String) : d.same (.str key) = d.text?.any (·.content == key) := by
  cases d <;> simp [same, str, text?, numeral?, MarkedText.same]

lemma lookup_cons (k v : Datum) (es : Entries) :
    lookup key ((k, v) :: es) = if k.same (.str key) then some v else lookup key es := by
  rw [same_str]
  cases k <;> rfl

/-- An entry that is set has its value. -/
theorem lookup_setEntry_self (key : String) (value : Datum) (es : Entries) :
    lookup key (setEntry (.str key) value es) = some value := by
  induction es with
  | nil => simp [setEntry, lookup, str]
  | cons e es ih =>
    obtain ⟨k, v⟩ := e
    unfold setEntry
    split
    next hk => rw [lookup_cons, if_pos hk]
    next hk => rw [lookup_cons, if_neg hk, ih]

/-- The entries of other keys stay what they are. -/
theorem lookup_setEntry_of_ne (h : other ≠ key) (value : Datum) (es : Entries) :
    lookup other (setEntry (.str key) value es) = lookup other es := by
  induction es with
  | nil => simp [setEntry, lookup, str, h.symm]
  | cons e es ih =>
    obtain ⟨k, v⟩ := e
    unfold setEntry
    split
    next hk =>
      have hother : k.same (.str other) = false := by
        rw [same_str] at hk ⊢
        cases ht : k.text? with
        | none => rfl
        | some t =>
          have hkey : t.content = key := by simpa [ht] using hk
          simpa [hkey] using h.symm
      rw [lookup_cons, lookup_cons, hother]
      rfl
    next => rw [lookup_cons, lookup_cons, ih]

end Datum

/-! ### Payloads -/

namespace Extraction

/-- The payload of the first row. -/
def payload? (x : Extraction) : Option Row := x.rows.head?.bind Generated.payload?

/-- The error that the payload of the first row has of its own. -/
def ownError? (x : Extraction) : Option Datum :=
  (x.payload?.bind (Datum.lookup "error")).filter (!·.isNone)

/-- The reported errors as one text. -/
def reportedText (x : Extraction) : String := "; ".intercalate x.errors

/-- Whether there are rows, of which the first has no payload. -/
def lacksPayload (x : Extraction) : Bool := !x.rows.isEmpty && x.payload?.isNone

lemma single_rows (x : Extraction) :
    Generated.single x.rows = x.payload?.getD Generated.noResults := by
  unfold payload? Generated.single
  cases x.rows <;> rfl

end Extraction

namespace Client

variable {x : Extraction}

/-- Reported errors go into the payload, except where the first row has an error of its own, and where the
payload only stands for no results although there are rows. -/
lemma singlePayload_eq (x : Extraction) :
    singlePayload x =
      if x.errors.isEmpty || x.ownError?.isSome || x.lacksPayload then x.payload?.getD Generated.noResults
      else Datum.setEntry (.str "error") (.str x.reportedText) (x.payload?.getD Generated.noResults) := by
  have hguard : (!x.rows.isEmpty &&
      (Datum.lookup "error" (x.payload?.getD Generated.noResults)).any fun d => !d.isNone) =
      (x.ownError?.isSome || x.lacksPayload) := by
    unfold Extraction.ownError? Extraction.lacksPayload
    cases hpayload : x.payload? with
    | none => simp [Generated.noResults, Datum.lookup, Datum.str, Datum.isNone]
    | some payload =>
      have hrows : x.rows.isEmpty = false := by
        cases hrows : x.rows with
        | nil => simp [Extraction.payload?, hrows] at hpayload
        | cons row rows => rfl
      simp [hrows]
  unfold singlePayload
  dsimp only
  rw [x.single_rows, hguard, Bool.or_assoc]
  rfl

/-- The error in the payload of an answer with reported errors: the row's own one, or the reported ones. Rows
without a payload keep the error that stands for no results. -/
def payloadError (x : Extraction) : Datum :=
  x.ownError?.getD (.str (if x.lacksPayload then "No results" else x.reportedText))

lemma payloadError_not_none (x : Extraction) : (payloadError x).isNone = false := by
  unfold payloadError
  cases h : x.ownError? with
  | none => rfl
  | some d => simpa using (Option.filter_eq_some_iff.1 h).2

/-- With reported errors a payload has an error, whether there are rows and payloads or not. -/
lemma lookup_error_singlePayload (h : x.errors ≠ []) :
    Datum.lookup "error" (singlePayload x) = some (payloadError x) := by
  rw [singlePayload_eq, List.isEmpty_eq_false_iff.2 h, Bool.false_or]
  unfold payloadError
  cases hown : x.ownError? with
  | some d =>
    have hfound := (Option.filter_eq_some_iff.1 hown).1
    cases hpayload : x.payload? with
    | none => simp [hpayload] at hfound
    | some payload => simpa [hpayload] using hfound
  | none =>
    cases hlacks : x.lacksPayload with
    | true =>
      have hpayload : x.payload? = none := by
        unfold Extraction.lacksPayload at hlacks
        simp_all
      simp [hpayload, Generated.noResults, Datum.lookup, Datum.str]
    | false => simp [Datum.lookup_setEntry_self]

/-- The other entries of a payload are those of the first row. -/
lemma lookup_singlePayload_of_ne {key : String} (h : key ≠ "error") (x : Extraction) :
    Datum.lookup key (singlePayload x) = Datum.lookup key (x.payload?.getD Generated.noResults) := by
  rw [singlePayload_eq]
  split
  · rfl
  · exact Datum.lookup_setEntry_of_ne h _ _

/-- What a query brings back from an answer. -/
def extraction (q : QueryDescriptor) (envelope : Datum) : Extraction :=
  (Envelope.extract envelope "Get" q.collection.content).value

/-- A generative query reads every answer in the way of its mode. -/
lemma generate_of_render {q : QueryDescriptor} {g : GenerateDirective} {c : RendererConfig} {text : String}
    (hg : q.generate = some g) (hr : q.render c = .ok text) :
    ∃ exchange, generate c q = .ok exchange ∧
      ∀ envelope, (exchange.read envelope).value = generation g.mode (extraction q envelope) := by
  have hgenerate : generate c q = .ok (((raw (.str text)).map fun d =>
      Envelope.extract d "Get" q.collection.content).map (Noted.map (generation g.mode))) := by
    unfold generate get
    rw [hg, hr]
    rfl
  exact ⟨_, hgenerate, fun _ => rfl⟩

/-- A generative query over all objects brings back one payload from every answer. Without reported errors it is
that of the first row as it is, or the one for no results. With reported errors it has an error, namely
`payloadError`, and is otherwise the same. -/
theorem generate_single_payload {q : QueryDescriptor} {g : GenerateDirective} {c : RendererConfig} {text : String}
    (hg : q.generate = some g) (hmode : g.mode = .single) (hr : q.render c = .ok text) :
    ∃ exchange, generate c q = .ok exchange ∧ ∀ envelope, ∃ payload,
      (exchange.read envelope).value = .single payload ∧
      let answer := extraction q envelope
      (answer.errors = [] → payload = answer.payload?.getD Generated.noResults) ∧
      (answer.errors ≠ [] →
        Datum.lookup "error" payload = some (payloadError answer) ∧ (payloadError answer).isNone = false) ∧
      ∀ key ≠ "error",
        Datum.lookup key payload = Datum.lookup key (answer.payload?.getD Generated.noResults) := by
  obtain ⟨exchange, hexchange, hread⟩ := generate_of_render hg hr
  refine ⟨exchange, hexchange, fun envelope => ⟨singlePayload (extraction q envelope), ?read, ?quiet, ?reported,
    fun key hkey => lookup_singlePayload_of_ne hkey _⟩⟩
  case read =>
    rw [hread, hmode]
    rfl
  case quiet =>
    intro herrors
    rw [singlePayload_eq, herrors]
    rfl
  case reported =>
    intro herrors
    exact ⟨lookup_error_singlePayload herrors, payloadError_not_none _⟩

/-- A query for one summary of all articles. -/
def summaryQuery : QueryDescriptor where
  collection := ⟨.plain "Article", by decide⟩
  fields := []
  search := none
  filter := none
  limit := none
  offset := none
  sort := []
  groupBy := none
  autocut := none
  additionalFields := []
  consistencyLevel := none
  tenant := none
  generate := some ⟨.single, ⟨.plain "Summarize", by decide⟩, ⟨.plain "mistral", by decide⟩, .unset, []⟩

/-- An answer with articles and reported errors. -/
def articles (rows : List Datum) (errors : List Datum) : Datum := .object [
  ("data", .object [("Get", .object [("Article", .list rows)])]), ("errors", .list errors)]

/-- A summary comes without an error of its own, and two errors are reported next to it. -/
theorem generate_single_payload_two_errors :
    let article : Datum := .object [("_additional", .object [
      ("generate", .object [("singleResult", .str "Two articles."), ("error", .none)])])]
    let envelope := articles [article] [.object [("message", .str "quota")], .str "late"]
    ∃ exchange payload, generate .standard summaryQuery = .ok exchange ∧
      (exchange.read envelope).value = .single payload ∧
      Datum.lookup "error" payload = some (.str "quota; late") ∧
      Datum.lookup "singleResult" payload = some (.str "Two articles.") := by
  intro article envelope
  obtain ⟨text, hr⟩ : ∃ text, summaryQuery.render .standard = .ok text := ⟨_, rfl⟩
  obtain ⟨exchange, hexchange, hread⟩ := generate_single_payload rfl rfl hr
  obtain ⟨payload, hpayload, -, herror, hothers⟩ := hread envelope
  have hreported : (extraction summaryQuery envelope).errors ≠ [] := by decide +kernel
  refine ⟨exchange, payload, hexchange, hpayload, ?_, ?_⟩
  · rw [(herror hreported).1]
    rfl
  · rw [hothers "singleResult" (by decide)]
    rfl

/-- An article without a payload hides the error that is reported next to it. -/
theorem generate_hides_reported_error :
    let envelope := articles [.object [("title", .str "A")]] [.object [("message", .str "quota")]]
    ∃ exchange payload, generate .standard summaryQuery = .ok exchange ∧
      (exchange.read envelope).value = .single payload ∧
      (extraction summaryQuery envelope).errors = ["quota"] ∧
      (extraction summaryQuery envelope).ownError? = none ∧
      Datum.lookup "error" payload = some (.str "No results") :=
  ⟨_, _, rfl, rfl, rfl, rfl, rfl⟩

end Client

end VectorQuery
