import VectorQuery.Datum.Show
/-! Why something failed, as causes, and the message of each cause. -/
namespace VectorQuery

/-- What a value was expected to be. -/
inductive Expected
  | string | int64 | finiteNumber | bool | date | nonEmptyString | move
  | positiveInteger | nonNegativeInteger | nonNegativeNumber | share
  | direction | filter | groupBy | consistencyLevel | directive | params | propertyMetrics
  deriving DecidableEq

/-- The names, each in quotes, in parentheses. -/
def nameTuple (names : List String) : String :=
  "(" ++ ", ".intercalate (names.map quotedText) ++ ")"

/-- The names, each in quotes, in brackets. -/
def nameList (names : List String) : String :=
  "[" ++ ", ".intercalate (names.map quotedText) ++ "]"

def Expected.phrase : Expected → String
  | string => "a string"
  | int64 => "a 64-bit int"
  | finiteNumber => "a finite number"
  | bool => "a bool"
  | date => "a datetime or RFC 3339 string"
  | nonEmptyString => "a non-empty string"
  | move => "a Move"
  | positiveInteger => "a positive integer"
  | nonNegativeInteger => "a non-negative integer"
  | nonNegativeNumber => "a non-negative number"
  | share => "between 0 and 1"
  | direction => "'asc' or 'desc'"
  | filter => "a filter expression"
  | groupBy => "a GroupBySpec"
  | consistencyLevel => "one of " ++ nameTuple consistencyLevels
  | directive => "a GenerateDirective"
  | params => "ProviderParams"
  | propertyMetrics => "PropertyMetrics"

/-- Why a caller's value was not accepted. -/
inductive Rejection
  /-- not of the required form -/
  | invalid (what : String) (given : Datum)
  | mustBe (subject : String) (expected : Expected) (given : Datum)
  | outsideUnit (name : String) (given : Num)
  | coordinates (latitude longitude : Num)
  | negativeDistance (distance : Num)
  | twoThresholds
  | noConcepts (name : String)
  | emptyVector
  | mediaKind (given : Datum)
  | fusionType (given : Datum)
  | searchClause (given : Datum)
  | searchInAggregate (kind : String)
  | itemTypes (listName : String) (given : Datum)
  | untypedValue (kind : String)
  | combinator (given : Datum)
  | notArity (operands : Nat)
  | noOperands (kind : CombinatorKind)
  | metric (given : Datum)
  | noMetrics (property : Datum)
  | promptMissing
  | promptEmpty
  | providerMissing
  | provider (given : Datum)
  | mode (given : Datum)
  | nonFinite (d : Double)
  | httpMethod (method : String)
  | noDirective

def Rejection.message : Rejection → String
  | invalid what given => "Invalid " ++ what ++ ": " ++ given.detailed
  | mustBe subject expected given =>
    subject ++ " must be " ++ expected.phrase ++ ", got " ++ given.detailed
  | outsideUnit name given => name ++ " must be between 0.0 and 1.0, got " ++ given.show
  | coordinates lat lon =>
    "GeoRange coordinates out of range: (" ++ lat.show ++ ", " ++ lon.show ++ ")"
  | negativeDistance d => "GeoRange distance must be non-negative, got " ++ d.show
  | twoThresholds => "certainty and distance cannot be combined"
  | noConcepts name => name ++ " requires at least one concept"
  | emptyVector => "nearVector requires a non-empty vector"
  | mediaKind given =>
    "Unsupported media type: " ++ given.detailed ++ ". Must be one of " ++ nameList mediaKinds
  | fusionType given =>
    "Unknown fusion type: " ++ given.detailed ++ ". Must be one of " ++ nameTuple fusionTypes
  | searchClause given => "Unsupported search clause: " ++ given.detailed
  | searchInAggregate kind => "Search clause not supported in aggregations: " ++ kind
  | itemTypes listName given => listName ++ " items have the wrong type: " ++ given.detailed
  | untypedValue kind =>
    "Predicate value must be a typed Value (Text, Integer, ...), got " ++ kind
  | combinator given => "Unknown combinator: " ++ given.detailed
  | notArity n => "'not' requires exactly one operand, got " ++ toString n
  | noOperands kind => "'" ++ kind.symbol ++ "' requires at least one operand"
  | metric given => "Unknown metric: " ++ given.detailed ++ " is not a valid Metric"
  | noMetrics property => "No metrics requested for property " ++ property.detailed
  | promptMissing => "Prompt is required"
  | promptEmpty => "Prompt cannot be empty"
  | providerMissing => "Provider is required"
  | provider given =>
    "Invalid provider: " ++ given.detailed ++ ". Must be one of " ++ nameList providers
  | mode given => "Unknown generate mode: " ++ given.detailed
  | nonFinite d => "Non-finite number cannot be encoded: " ++ d.show
  | httpMethod m => "Unsupported HTTP method: " ++ m
  | noDirective => "generate() requires a descriptor with a generate directive"

/-- How an exchange with the server failed. -/
inductive TransportCause
  /-- the server answered with a status that is no success -/
  | response
  | connection
  | timeout
  deriving DecidableEq

structure TransportFailure where
  cause : TransportCause
  message : String
  errorType : String
  status : Option Int
  details : Datum

/-- Why an operation failed. -/
inductive Fault
  | rejected (r : Rejection)
  | misconfigured (setting : String) (expected : Expected) (given : Datum)
  /-- an equality condition on the command line without its equals sign -/
  | badCondition (item : String)
  | transport (f : TransportFailure)
  | unencodable (kind : String)
  | missingFile (path : String)
  /-- a directory where a file is asked for -/
  | isDirectory
  /-- a path with a part that is longer than names of files are, or behind a file -/
  | nameTooLong
  | malformedYaml
  /-- data nested too deeply, or inside themselves -/
  | tooDeep
  /-- a value of a type that the operation has no meaning for -/
  | wrongType
  /-- a value of the right type that the operation cannot take -/
  | badValue
  /-- an integer beyond every finite double -/
  | tooLarge
  /-- data without the parts that were asked of it -/
  | noAttribute
  | noKey
  /-- a part of a text that is too short to have it -/
  | noItem
  /-- a header with characters beyond ASCII -/
  | notAscii

namespace Fault

/-- The message, where the library words one. -/
def message? : Fault → Option String
  | rejected r => some r.message
  | misconfigured setting expected given =>
    some (setting ++ " must be " ++ expected.phrase ++ ", got " ++ given.detailed)
  | badCondition item => some ("--where-equal expects PROP=VALUE, got " ++ quotedText item)
  | transport f => some f.message
  | unencodable kind => some ("Cannot encode " ++ kind ++ " as a GraphQL value")
  | missingFile path => some ("Configuration file not found: " ++ path)
  | _ => none

/-- The faults that the library itself reports: bad input, bad settings, failed exchanges. -/
def isReported : Fault → Bool
  | rejected _ => true
  | misconfigured .. => true
  | badCondition _ => true
  | transport _ => true
  | _ => false

end Fault

/-- A value or the reason why there is none. -/
abbrev Checked := Except Fault

/-- Refuses a caller's value. -/
def reject (r : Rejection) : Checked α := .error (.rejected r)

end VectorQuery
