/-! The closed vocabularies: words with a fixed meaning that callers may use in place of text, and the fixed names of
media kinds, fusion types, consistency levels and generative providers on the wire. -/
namespace VectorQuery

/-- Operators of a filter condition. -/
inductive Operator
  | equal | notEqual | lessThan | lessOrEqual | greaterThan | greaterOrEqual
  | like | containsAny | containsAll | containsNone | isNull | withinGeoRange
  deriving DecidableEq

inductive CombinatorKind
  | and | or | not
  deriving DecidableEq

inductive SortDirection
  | asc | desc
  deriving DecidableEq

/-- Whether a prompt runs once over all objects or over the whole group. -/
inductive GenerateMode
  | single | grouped
  deriving DecidableEq

/-- Aggregation functions. -/
inductive Metric
  | count | type | sum | mean | median | mode | maximum | minimum | topOccurrences
  | percentageTrue | percentageFalse | totalTrue | totalFalse
  deriving DecidableEq

namespace Operator

def all : List Operator :=
  [equal, notEqual, lessThan, lessOrEqual, greaterThan, greaterOrEqual, like, containsAny,
    containsAll, containsNone, isNull, withinGeoRange]

/-- The symbol callers write. -/
def symbol : Operator → String
  | equal => "equal"
  | notEqual => "not_equal"
  | lessThan => "less_than"
  | lessOrEqual => "less_or_equal"
  | greaterThan => "greater_than"
  | greaterOrEqual => "greater_or_equal"
  | like => "like"
  | containsAny => "contains_any"
  | containsAll => "contains_all"
  | containsNone => "contains_none"
  | isNull => "is_null"
  | withinGeoRange => "within_geo_range"

def constant : Operator → String
  | equal => "EQUAL"
  | notEqual => "NOT_EQUAL"
  | lessThan => "LESS_THAN"
  | lessOrEqual => "LESS_OR_EQUAL"
  | greaterThan => "GREATER_THAN"
  | greaterOrEqual => "GREATER_OR_EQUAL"
  | like => "LIKE"
  | containsAny => "CONTAINS_ANY"
  | containsAll => "CONTAINS_ALL"
  | containsNone => "CONTAINS_NONE"
  | isNull => "IS_NULL"
  | withinGeoRange => "WITHIN_GEO_RANGE"

/-- The name on the wire. -/
def wireName : Operator → String
  | equal => "Equal"
  | notEqual => "NotEqual"
  | lessThan => "LessThan"
  | lessOrEqual => "LessThanEqual"
  | greaterThan => "GreaterThan"
  | greaterOrEqual => "GreaterThanEqual"
  | like => "Like"
  | containsAny => "ContainsAny"
  | containsAll => "ContainsAll"
  | containsNone => "ContainsNone"
  | isNull => "IsNull"
  | withinGeoRange => "WithinGeoRange"

def ofSymbol? (s : String) : Option Operator := all.find? fun o => o.symbol == s

@[simp] theorem ofSymbol?_symbol (o : Operator) : ofSymbol? o.symbol = some o := by
  cases o <;> decide

end Operator

namespace CombinatorKind

def all : List CombinatorKind := [and, or, not]

def symbol : CombinatorKind → String
  | and => "and"
  | or => "or"
  | not => "not"

def constant : CombinatorKind → String
  | and => "AND"
  | or => "OR"
  | not => "NOT"

def wireName : CombinatorKind → String
  | and => "And"
  | or => "Or"
  | not => "Not"

def ofSymbol? (s : String) : Option CombinatorKind := all.find? fun k => k.symbol == s

@[simp] theorem ofSymbol?_symbol (k : CombinatorKind) : ofSymbol? k.symbol = some k := by
  cases k <;> decide

end CombinatorKind

namespace SortDirection

def all : List SortDirection := [asc, desc]

def symbol : SortDirection → String
  | asc => "asc"
  | desc => "desc"

def constant : SortDirection → String
  | asc => "ASC"
  | desc => "DESC"

def ofSymbol? (s : String) : Option SortDirection := all.find? fun d => d.symbol == s

@[simp] theorem ofSymbol?_symbol (d : SortDirection) : ofSymbol? d.symbol = some d := by
  cases d <;> decide

end SortDirection

namespace GenerateMode

def all : List GenerateMode := [single, grouped]

def symbol : GenerateMode → String
  | single => "single"
  | grouped => "grouped"

def constant : GenerateMode → String
  | single => "SINGLE"
  | grouped => "GROUPED"

/-- The response field that carries the generated text. -/
def resultField : GenerateMode → String
  | single => "singleResult"
  | grouped => "groupedResult"

def ofSymbol? (s : String) : Option GenerateMode := all.find? fun m => m.symbol == s

@[simp] theorem ofSymbol?_symbol (m : GenerateMode) : ofSymbol? m.symbol = some m := by
  cases m <;> decide

end GenerateMode

namespace Metric

def all : List Metric :=
  [count, type, sum, mean, median, mode, maximum, minimum, topOccurrences, percentageTrue,
    percentageFalse, totalTrue, totalFalse]

/-- The symbol callers write, which is also the field on the wire. -/
def symbol : Metric → String
  | count => "count"
  | type => "type"
  | sum => "sum"
  | mean => "mean"
  | median => "median"
  | mode => "mode"
  | maximum => "maximum"
  | minimum => "minimum"
  | topOccurrences => "topOccurrences"
  | percentageTrue => "percentageTrue"
  | percentageFalse => "percentageFalse"
  | totalTrue => "totalTrue"
  | totalFalse => "totalFalse"

def constant : Metric → String
  | count => "COUNT"
  | type => "TYPE"
  | sum => "SUM"
  | mean => "MEAN"
  | median => "MEDIAN"
  | mode => "MODE"
  | maximum => "MAXIMUM"
  | minimum => "MINIMUM"
  | topOccurrences => "TOP_OCCURRENCES"
  | percentageTrue => "PERCENTAGE_TRUE"
  | percentageFalse => "PERCENTAGE_FALSE"
  | totalTrue => "TOTAL_TRUE"
  | totalFalse => "TOTAL_FALSE"

def ofSymbol? (s : String) : Option Metric := all.find? fun m => m.symbol == s

@[simp] theorem ofSymbol?_symbol (m : Metric) : ofSymbol? m.symbol = some m := by
  cases m <;> decide

end Metric

/-- A word of one of the vocabularies. -/
inductive Word
  | operator (o : Operator)
  | combinator (k : CombinatorKind)
  | direction (d : SortDirection)
  | mode (m : GenerateMode)
  | metric (m : Metric)
  deriving DecidableEq

namespace Word

/-- The symbol the word stands for. -/
def symbol : Word → String
  | operator o => o.symbol
  | combinator k => k.symbol
  | direction d => d.symbol
  | mode m => m.symbol
  | metric m => m.symbol

/-- The vocabulary and the constant in it, as `Metric.SUM`. -/
def qualified : Word → String
  | operator o => "Operator." ++ o.constant
  | combinator k => "CombinatorKind." ++ k.constant
  | direction d => "SortDirection." ++ d.constant
  | mode m => "GenerateMode." ++ m.constant
  | metric m => "Metric." ++ m.constant

end Word

/-- The search argument of each media kind. -/
def mediaArguments : List (String × String) := [
  ("audio", "nearAudio"), ("video", "nearVideo"), ("image", "nearImage"), ("depth", "nearDepth"),
  ("thermal", "nearThermal"), ("imu", "nearIMU")]

/-- The media kinds in alphabetical order, as messages list them. -/
def mediaKinds : List String := ["audio", "depth", "image", "imu", "thermal", "video"]

/-- How keyword and vector scores are fused. -/
def fusionTypes : List String := ["rankedFusion", "relativeScoreFusion"]

/-- How many replicas have to answer. -/
def consistencyLevels : List String := ["ONE", "QUORUM", "ALL"]

/-- The key of each generative provider. -/
def providerKeys : List (String × String) := [
  ("openai", "openai"), ("anthropic", "anthropic"), ("cohere", "cohere"), ("palm", "palm"),
  ("aws_bedrock", "aws"), ("azure_openai", "azureOpenAI"), ("anyscale", "anyscale"),
  ("huggingface", "huggingface"), ("mistral", "mistral"), ("ollama", "ollama"),
  ("octoai", "octoai"), ("together", "together"), ("voyage", "voyage")]

/-- The names of the generative providers. -/
def providers : List String := providerKeys.map Prod.fst

example : mediaKinds.all (fun k => (mediaArguments.lookup k).isSome) = true := by decide

end VectorQuery
