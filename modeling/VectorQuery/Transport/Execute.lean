import VectorQuery.Json.Plain
import VectorQuery.Text.Upper
import VectorQuery.Transport.Response
/-! Sending a request. The attempts are those of a library that calls again after a loss, up to a number of
times; an answer of any status ends them. -/
namespace VectorQuery

/-- How the attempts ended: how many there were, and the outcome of the last. -/
structure Attempts where
  count : Nat
  last : Outcome

namespace Attempts

/-- The same attempts with one more in front of them. -/
def afterOne (a : Attempts) : Attempts := ⟨a.count + 1, a.last⟩

/-- The attempts that a number of retries leaves. -/
def run : (retries : Nat) → (outcomes : Nat → Outcome) → Attempts
  | 0, outcomes => ⟨1, outcomes 0⟩
  | retries + 1, outcomes =>
    match outcomes 0 with
    | .response r => ⟨1, .response r⟩
    | .loss .. => (run retries fun j => outcomes (j + 1)).afterOne

end Attempts

/-- What transports take from a library that calls again. -/
class RetryLibrary where
  /-- the attempts of a call, up to the one with this number, that would have these outcomes one by one -/
  attempts : (limit : Int) → (outcomes : Nat → Outcome) → Attempts

/-- The library that the program runs on. -/
instance : RetryLibrary where
  attempts limit outcomes := Attempts.run (limit - 1).toNat outcomes

namespace Transport

/-- The methods that can be sent. -/
def methods : List String := ["GET", "POST", "PUT", "PATCH", "DELETE", "HEAD"]

/-- A method in upper case, if it can be sent. -/
def checkMethod (method : String) : Checked String :=
  let m := String.ofList (Text.upper method.toList)
  if methods.contains m then .ok m else reject (.httpMethod m)

/-- The request as it goes over the wire in every attempt. -/
def sent (t : Transport) (r : Request) : Checked Sent := do
  let method ← checkMethod r.method
  let body ← Json.plain r.body
  pure ⟨method, t.url r.path, t.authorization, body⟩

/-- The result of a request whose attempts have these outcomes, and the attempts themselves. A
request that cannot be written is not sent at all. -/
def execute [HttpLibrary] [RetryLibrary] (t : Transport) (outcomes : Nat → Outcome) (r : Request) :
    Checked Datum × List Sent :=
  match t.sent r with
  | .error e => (.error e, [])
  | .ok s =>
    let attempts := RetryLibrary.attempts (t.maxRetries + 1) outcomes
    (attempts.last.result, List.replicate attempts.count s)

end Transport

end VectorQuery
