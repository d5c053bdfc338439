import VectorQuery.Json.Read
import VectorQuery.Transport.Basic
/-! Reading answers: the decoded body of a success, and the error that any other status stands for. -/
namespace VectorQuery

/-- The data of a body: nothing is an empty dictionary, and what is no JSON is kept as text. -/
def decodeBody (text : String) : Datum :=
  if text.isEmpty then .dict []
  else (Json.read? text.toList).getD (.object [("body", .str text)])

/-- The message of an error body that names none. -/
def plainFailure : String := "Request failed"

/-- The messages of a list of errors; empty ones do not count. -/
def listedMessages (errors : List Datum) : List String :=
  (errors.filterMap fun e => (e.get? "message").filter Datum.truthy).map Datum.shown

/-- The message of an error body: those of its list of errors, else its own message, else the error
as a whole. -/
def failureMessage (details : Datum) : String :=
  match details with
  | .dict es =>
    let error := (Datum.lookup "error" es).getD .none
    let listed := match error with
      | .list xs => listedMessages xs
      | _ => []
    if !listed.isEmpty then "; ".intercalate listed
    else (((Datum.lookup "message" es).getD .none).orElse
      (error.orElse (.str plainFailure))).shown
  | _ => plainFailure

namespace Response
variable [HttpLibrary]

/-- The data that an error carries: the phrase of the status where the body is empty, and a body that
is no JSON as a message. -/
def failureDetails (r : Response) (body : Datum) : Checked Datum :=
  let phrase := Datum.object [("message", .str (HttpLibrary.reasonPhrase r))]
  if !body.truthy then .ok phrase
  else match body with
    | .dict [(.text key, value)] =>
      .ok (if key.content == "body" then .object [("message", value)] else body)
    | .dict _ => .ok body
    | .text _ => .ok body
    | .list [.text t] => if t.content == "body" then .error .wrongType else .ok body
    | .list _ => .ok body
    | _ => .error .wrongType

/-- The error that the answer stands for. -/
def failure (r : Response) (details : Datum) : Fault :=
  .transport ⟨.response, failureMessage details, Status.errorType r.status, some r.status, details⟩

/-- The data of a success, or the error. -/
def result (r : Response) : Checked Datum :=
  let body := decodeBody r.text
  if Status.isSuccess r.status then .ok body
  else do .error (r.failure (← r.failureDetails body))

end Response

/-- The error of a connection that was lost for good. -/
def lossFailure (kind : ConnectionLoss) (message : String) : Fault :=
  if kind.isTimeout then
    .transport ⟨.timeout, "Request timeout: " ++ message, "timeout_error", none, .dict []⟩
  else
    .transport ⟨.connection, "Connection failed: " ++ message, "connection_error", none, .dict []⟩

/-- What a request comes to when its last attempt has this outcome. -/
def Outcome.result [HttpLibrary] : Outcome → Checked Datum
  | response r => r.result
  | loss kind message => .error (lossFailure kind message)

end VectorQuery
