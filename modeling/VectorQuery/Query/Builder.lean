import VectorQuery.Term.Query
/-! Building a query step by step. Each call writes one slot; the whole query is checked again. -/
namespace VectorQuery

/-- A builder call with its arguments as the caller gives them. -/
inductive QueryCall
  | withFields (fields : List Term)
  | withSearch (search : Term)
  | withFilter (filter : Term)
  | withLimit (limit : Term)
  | withOffset (offset : Term)
  | withSort (specs : List Term)
  | withGroupBy (path groups objectsPerGroup : Datum)
  | withAutocut (autocut : Term)
  | withAdditionalFields (fields : List Term)
  | withConsistencyLevel (level : Term)
  | withTenant (tenant : Term)
  | withGenerate (directive : Term)
  | fetchAll
  | fetchById (id : Datum)
  | nearText (concepts certainty distance : Datum) (moveTo moveAway : Term)
  | nearVector (vector certainty distance : Datum)
  | nearObject (id certainty distance : Datum)
  | nearImage (data certainty distance : Datum)
  | nearMedia (kind data certainty distance : Datum)
  | bm25 (query properties : Datum)
  | hybrid (query alpha fusion properties : Datum)

namespace QueryCall

/-- The search that a shortcut stands for; other calls are none. -/
def shortcut? : QueryCall → Option (Checked Search)
  | fetchAll => some (.ok .fetchAll)
  | fetchById id => some (Search.checkFetchById id)
  | nearText concepts certainty distance moveTo moveAway =>
    some (Search.checkNearText concepts certainty distance moveTo moveAway)
  | nearVector vector certainty distance => some (Search.checkNearVector vector certainty distance)
  | nearObject id certainty distance => some (Search.checkNearObject id certainty distance)
  | nearImage data certainty distance => some (Search.checkNearImage data certainty distance)
  | nearMedia kind data certainty distance =>
    some (Search.checkNearMedia kind data certainty distance)
  | bm25 query properties => some (Search.checkBm25 query properties)
  | hybrid query alpha fusion properties => some (Search.checkHybrid query alpha fusion properties)
  | _ => none

/-- The slots with the one that the call writes. -/
def write (call : QueryCall) (s : QuerySlots) : Checked QuerySlots :=
  match call with
  | withFields fields => .ok { s with fields := .tuple fields }
  | withSearch search => .ok { s with search }
  | withFilter filter => .ok { s with filter }
  | withLimit limit => .ok { s with limit }
  | withOffset offset => .ok { s with offset }
  | withSort specs => .ok { s with sort := .tuple specs }
  | withGroupBy path groups objectsPerGroup =>
    (GroupBySpec.check path groups objectsPerGroup).map fun g =>
      { s with groupBy := .object (.groupBy g) }
  | withAutocut autocut => .ok { s with autocut }
  | withAdditionalFields fields => .ok { s with additionalFields := .tuple fields }
  | withConsistencyLevel level => .ok { s with consistencyLevel := level }
  | withTenant tenant => .ok { s with tenant }
  | withGenerate directive => .ok { s with generate := directive }
  | call =>
    match call.shortcut? with
    | some search => search.map fun x => { s with search := .object (.search x) }
    | none => .ok s

end QueryCall

namespace QueryDescriptor

/-- The query after a builder call. -/
def apply (q : QueryDescriptor) (call : QueryCall) : Checked QueryDescriptor := do
  (← call.write q.slots).check

end QueryDescriptor

end VectorQuery
