import VectorQuery.Datum.Equality
import VectorQuery.Fault
import VectorQuery.Json.Write
/-! Data as JSON carries them: sequences are lists, marks of texts and types of keys are lost. -/
namespace VectorQuery.Json

/-- The data of a key. -/
def plainKey : Datum → Checked String
  | .text t => .ok t.content
  | .none => .ok (keyText .none)
  | .bool b => .ok (keyText (.bool b))
  | .int i => .ok (keyText (.int i))
  | .float d => if d.isFinite then .ok (keyText (.float d)) else .error .badValue
  | _ => .error .wrongType

mutual

/-- The data as they arrive; doubles must be finite, and other kinds of data cannot be sent. -/
def plain : Datum → Checked Datum
  | .none => .ok .none
  | .bool b => .ok (.bool b)
  | .int i => .ok (.int i)
  | .float d => if d.isFinite then .ok (.float d) else .error .badValue
  | .text t => .ok (.str t.content)
  | .list xs => (plainItems xs).map .list
  | .tuple xs => (plainItems xs).map .list
  | .dict es => (plainEntries [] es).map .dict
  | _ => .error .wrongType

def plainItems : List Datum → Checked (List Datum)
  | [] => .ok []
  | x :: r => do
    let y ← plain x
    let ys ← plainItems r
    pure (y :: ys)

/-- The entries after those so far; of entries with one key the last counts. -/
def plainEntries (done : Datum.Entries) : Datum.Entries → Checked Datum.Entries
  | [] => .ok done
  | (k, v) :: r => do
    let key ← plainKey k
    let value ← plain v
    plainEntries (Datum.setEntry (.str key) value done) r

end

end VectorQuery.Json
