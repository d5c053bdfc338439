import VectorQuery.Fault
import VectorQuery.Transport.Status
/-! Requests, the outcomes of sending them, and what is known of the server. -/
namespace VectorQuery

structure Request where
  method : String
  path : String
  /-- the data to send; absent data are no body -/
  body : Datum

/-- How a connection failed before an answer came. -/
inductive ConnectionLoss
  | connectTimeout | readTimeout | writeTimeout | poolTimeout
  | connect | read | write | protocol
  deriving DecidableEq

namespace ConnectionLoss

/-- The losses by waiting too long. -/
def isTimeout : ConnectionLoss → Bool
  | connectTimeout => true
  | readTimeout => true
  | writeTimeout => true
  | poolTimeout => true
  | _ => false

/-- The name of a loss. -/
def name : ConnectionLoss → String
  | connectTimeout => "connect_timeout"
  | readTimeout => "read_timeout"
  | writeTimeout => "write_timeout"
  | poolTimeout => "pool_timeout"
  | connect => "connect"
  | read => "read"
  | write => "write"
  | protocol => "protocol"

def all : List ConnectionLoss :=
  [connectTimeout, readTimeout, writeTimeout, poolTimeout, connect, read, write, protocol]

def ofName? (s : String) : Option ConnectionLoss := all.find? fun l => l.name == s

end ConnectionLoss

/-- An answer of the server. -/
structure Response where
  status : Nat
  text : String

/-- What one attempt to send a request led to. -/
inductive Outcome
  | response (r : Response)
  | loss (kind : ConnectionLoss) (message : String)

/-- What transports take from an HTTP library. -/
class HttpLibrary where
  /-- a client for an address, with the value of an authorization header or without any -/
  client : (address : String) → (authorization : Option String) → Checked Unit
  /-- the phrase that stands beside the status of an answer -/
  reasonPhrase : Response → String

/-- The library that the program runs on: it takes every address, but a header in ASCII only, and every
status has its standard phrase. -/
instance : HttpLibrary where
  client _ authorization :=
    if authorization.all fun v => v.toList.all fun c => c.toNat < 0x80 then .ok () else .error .notAscii
  reasonPhrase r := Status.phrase r.status

/-- One attempt as it went over the wire. -/
structure Sent where
  method : String
  url : String
  authorization : Option String
  body : Datum

/-- A server and how to talk to it. -/
structure Transport where
  /-- the address without slashes at its end -/
  baseUrl : String
  /-- the value of the authorization header -/
  authorization : Option String
  /-- how many seconds to wait for an answer -/
  timeout : Double
  /-- how often a request is sent again after a loss -/
  maxRetries : Int

namespace Transport

/-- The address without slashes at its end. -/
def trimSlashes (url : String) : String :=
  String.ofList (url.toList.reverse.dropWhile (· == '/')).reverse

/-- A key as the value of the authorization header; an empty key has none. -/
def bearer? (key : Datum) : Option String := if key.truthy then some ("Bearer " ++ key.shown) else none

/-- The transport to an address. -/
def make [HttpLibrary] (baseUrl apiKey : Datum) (timeout : Double) (maxRetries : Int) :
    Checked Transport := do
  let url ← match baseUrl with
    | .text t => .ok (trimSlashes t.content)
    | .bytes _ => .error .wrongType
    | _ => .error .noAttribute
  HttpLibrary.client url (bearer? apiKey)
  pure ⟨url, bearer? apiKey, timeout, maxRetries⟩

/-- The address of a path: one slash stands between the two. -/
def url (t : Transport) (path : String) : String :=
  t.baseUrl ++ (if path.toList.head? = some '/' then path else "/" ++ path)

/-- The address used when none is given. -/
def defaultUrl : String := "http://localhost:8080"

/-- How many seconds to wait when nothing else is said. -/
def defaultTimeout : Int := 60

/-- How often a request is sent again when nothing else is said. -/
def defaultRetries : Int := 3

end Transport

end VectorQuery
