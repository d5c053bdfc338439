import VectorQuery.Term.Basic
/-! Get queries from callers' values: every slot is checked, in a fixed order. -/
namespace VectorQuery

namespace Search

/-- An optional shift. -/
def checkMove : Term → Checked (Option Move) :=
  Term.optionalObject (fun | .move m => some m | _ => none)
    fun d => reject (.mustBe "move_to/move_away" .move d)

def checkNearText (concepts certainty distance : Datum) (moveTo moveAway : Term) :
    Checked Search := do
  let cs ← Phrases.check "nearText" concepts
  let t ← Threshold.check certainty distance
  let toward ← checkMove moveTo
  let away ← checkMove moveAway
  pure (.nearText cs t toward away)

end Search

namespace GenerateDirective

/-- The parameters given with a directive, or the view of what is given in their place. -/
def paramsOf : Term → Except Datum ProviderParams
  | .object (.params p) => .ok p
  | t => .error t.view

/-- A directive from its parts. -/
def ofTerms (mode prompt provider : Datum) (params : Term) (explicit : Datum) :
    Checked GenerateDirective :=
  check mode prompt provider (paramsOf params) explicit

/-- A directive of a known mode from the values of its parameters. -/
def prompting (mode : GenerateMode) (prompt provider explicit : Datum)
    (model temperature maxTokens topP : Datum) : Checked GenerateDirective := do
  let ps ← ProviderParams.check model temperature maxTokens topP
  check (.text (.word (.mode mode))) prompt provider (.ok ps) explicit

end GenerateDirective

/-- The slots of a query as callers fill them. -/
structure QuerySlots where
  collection : Term
  fields : Term := .tuple []
  search : Term := .none
  filter : Term := .none
  limit : Term := .none
  offset : Term := .none
  sort : Term := .tuple []
  groupBy : Term := .none
  autocut : Term := .none
  additionalFields : Term := .tuple []
  consistencyLevel : Term := .none
  tenant : Term := .none
  generate : Term := .none

/-- The value as an optional filter expression. -/
def checkFilter : Term → Checked (Option Filter) :=
  Term.optionalObject (fun | .filter f => some f | _ => none)
    fun d => reject (.mustBe "filter" .filter d)

namespace SortSpec

/-- A sort key: an object, a path alone, or a path and a direction. -/
def ofTerm : Term → Checked SortSpec
  | .object (.sort s) => .ok s
  | .data (.text t) => check (.text t) ascending
  | t => do
    match ← t.itemsOf with
    | [path, direction] => check path.view direction.view
    | _ => .error .badValue

end SortSpec

namespace QuerySlots

def checkSearch : Term → Checked (Option Search) :=
  Term.optionalObject (fun | .search s => some s | _ => none) fun d => reject (.searchClause d)

def checkGroupBy : Term → Checked (Option GroupBySpec) :=
  Term.optionalObject (fun | .groupBy g => some g | _ => none)
    fun d => reject (.mustBe "group_by" .groupBy d)

def checkGenerate : Term → Checked (Option GenerateDirective) :=
  Term.optionalObject (fun | .directive g => some g | _ => none)
    fun d => reject (.mustBe "generate" .directive d)

/-- The query that the slots describe. -/
def check (s : QuerySlots) : Checked QueryDescriptor := do
  let collection ← Name.check "collection name" s.collection.view
  let fields ← (← GenerateDirective.oneOrMany s.fields.view).mapM (FieldText.check "field")
  let additional ← (← GenerateDirective.oneOrMany s.additionalFields.view).mapM (Name.check "additional field")
  let search ← checkSearch s.search
  let filter ← checkFilter s.filter
  let limit ← optional (Count.check "limit") s.limit.view
  let offset ← optional (checkNatural "offset") s.offset.view
  let autocut ← optional (Count.check "autocut") s.autocut.view
  let sort ← (← s.sort.itemsOf).mapM SortSpec.ofTerm
  let groupBy ← checkGroupBy s.groupBy
  let level ← optional ConsistencyLevel.check s.consistencyLevel.view
  let tenant ← optional Tenant.check s.tenant.view
  let generate ← checkGenerate s.generate
  pure { collection, fields, search, filter, limit, offset, sort, groupBy, autocut
         additionalFields := additional, consistencyLevel := level, tenant, generate }

end QuerySlots

/-- An object that may be absent, as a caller's value. -/
def Term.ofOption (wrap : α → Object) : Option α → Term
  | Option.none => .none
  | some a => .object (wrap a)

namespace QueryDescriptor

/-- The slots that describe the query. -/
def slots (q : QueryDescriptor) : QuerySlots where
  collection := .data q.collection.view
  fields := .data (.tuple (q.fields.map FieldText.view))
  search := .ofOption .search q.search
  filter := .ofOption .filter q.filter
  limit := .data (viewOption Count.view q.limit)
  offset := .data (viewOption (fun (n : Nat) => .int n) q.offset)
  sort := .tuple (q.sort.map fun s => .object (.sort s))
  groupBy := .ofOption .groupBy q.groupBy
  autocut := .data (viewOption Count.view q.autocut)
  additionalFields := .data (.tuple (q.additionalFields.map Name.view))
  consistencyLevel := .data (viewOption ConsistencyLevel.view q.consistencyLevel)
  tenant := .data (viewOption Tenant.view q.tenant)
  generate := .ofOption .directive q.generate

/-- The query of a whole collection. -/
def get (collection : Term) : Checked QueryDescriptor := QuerySlots.check { collection }

end QueryDescriptor

end VectorQuery
