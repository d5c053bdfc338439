import VectorQuery.Datum.Equality
import VectorQuery.Response.Generated
import VectorQuery.Term.Aggregate
import VectorQuery.Term.Query
import VectorQuery.Transport.Basic
import VectorQuery.Aggregate.Render
import VectorQuery.Query.Render
/-! Running queries: each call becomes one request and a reading of the answer to it. -/
namespace VectorQuery

/-- A request together with the meaning of its answer. -/
structure Exchange (α : Type) where
  request : Request
  read : Datum → α

namespace Exchange

def map (f : α → β) (x : Exchange α) : Exchange β := ⟨x.request, fun d => f (x.read d)⟩

end Exchange

/-- What a generative query brings back: one payload, or the rows of the group. -/
inductive Generation
  | single (payload : Row)
  | grouped (rows : List Row)

namespace Client

/-- Where documents are sent. -/
def graphqlPath : String := "/v1/graphql"

/-- A document sent as it is; the answer is not read any further. -/
def raw (document : Datum) : Exchange Datum :=
  ⟨⟨"POST", graphqlPath, .object [("query", document)]⟩, id⟩

/-- A Get query. -/
def get (c : RendererConfig) (q : QueryDescriptor) : Checked (Exchange (Noted Extraction)) :=
  (q.render c).map fun text =>
    (raw (.str text)).map fun d => Envelope.extract d "Get" q.collection.content

/-- An Aggregate query. -/
def aggregate (c : RendererConfig) (a : AggregateDescriptor) :
    Checked (Exchange (Noted Extraction)) :=
  (a.render c).map fun text =>
    (raw (.str text)).map fun d => Envelope.extract d "Aggregate" a.collection.content

/-- The payload of the first row, with the reported errors as its error unless it has one of its
own. -/
def singlePayload (x : Extraction) : Row :=
  let payload := Generated.single x.rows
  let ownError := (Datum.lookup "error" payload).any fun d => !d.isNone
  if x.errors.isEmpty || (!x.rows.isEmpty && ownError) then payload
  else Datum.setEntry (.str "error") (.str ("; ".intercalate x.errors)) payload

/-- What the answer to a generative query holds. -/
def generation (mode : GenerateMode) (x : Extraction) : Generation :=
  match mode with
  | .single => .single (singlePayload x)
  | .grouped => .grouped x.rows

/-- A generative query; the query needs a directive. -/
def generate (c : RendererConfig) (q : QueryDescriptor) : Checked (Exchange (Noted Generation)) :=
  match q.generate with
  | none => reject .noDirective
  | some g => (get c q).map fun x => x.map fun answer => answer.map (generation g.mode)

end Client

/-- A call of the client with its argument as the caller gives it. -/
inductive ClientCall
  | get (query : Term)
  | aggregate (aggregation : Term)
  | generate (query : Term)
  | raw (document : Datum)

namespace ClientCall

def queryOf : Term → Checked QueryDescriptor
  | .object (.query q) => .ok q
  | _ => .error .noAttribute

def aggregateOf : Term → Checked AggregateDescriptor
  | .object (.aggregate a) => .ok a
  | _ => .error .noAttribute

/-- Rows and errors as a pair. -/
def extractionView (x : Extraction) : Datum := .tuple [x.rowsView, x.errorsView]

def generationView : Generation → Datum
  | .single payload => .dict payload
  | .grouped rows => .list (rows.map .dict)

/-- The exchange of a call, with its result as data. -/
def exchange (c : RendererConfig) : ClientCall → Checked (Exchange Datum)
  | raw document => .ok (Client.raw document)
  | get query => do
    return (← Client.get c (← queryOf query)).map fun x => extractionView x.value
  | aggregate aggregation => do
    return (← Client.aggregate c (← aggregateOf aggregation)).map fun x => extractionView x.value
  | generate query => do
    return (← Client.generate c (← queryOf query)).map fun x => generationView x.value

/-- The result of a call that gets a reply, and the request sent for it, if any. -/
def run (c : RendererConfig) (call : ClientCall) (reply : Datum) :
    Checked Datum × Option Request :=
  match call.exchange c with
  | .error e => (.error e, none)
  | .ok x => (.ok (x.read reply), some x.request)

end ClientCall

end VectorQuery
