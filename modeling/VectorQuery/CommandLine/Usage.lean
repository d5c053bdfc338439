import VectorQuery.CommandLine.Flag
import VectorQuery.CommandLine.Report
/-! The texts that explain the command line: how it is written, and what its parts mean. -/
namespace VectorQuery.CommandLine

/-- The name of the program in its texts. -/
def programName : String := "vector-query"

/-- How a command line is written. -/
def usageText : String := "\n".intercalate [
  "usage: vector-query [-h] --collection COLLECTION",
  "                    [--fields FIELDS [FIELDS ...]]",
  "                    [--near-text CONCEPT | --bm25 QUERY | --hybrid QUERY]",
  "                    [--certainty CERTAINTY] [--alpha ALPHA] [--limit LIMIT]",
  "                    [--offset OFFSET] [--where-equal PROP=VALUE]",
  "                    [--additional ADDITIONAL [ADDITIONAL ...]] [--render-only]",
  "                    [--debug]",
  "                    [config_file]",
  ""]

/-- What the parts of a command line mean. -/
def helpText : String := usageText ++ "\n".intercalate [
  "",
  "Weaviate Query - render and run GraphQL Get queries",
  "",
  "positional arguments:",
  "  config_file           Path to configuration file",
  "",
  "options:",
  "  -h, --help            show this help message and exit",
  "  --collection COLLECTION",
  "                        Collection to query",
  "  --fields FIELDS [FIELDS ...]",
  "                        Properties to return",
  "  --near-text CONCEPT   Semantic search concept",
  "  --bm25 QUERY          Keyword search query",
  "  --hybrid QUERY        Hybrid search query",
  "  --certainty CERTAINTY",
  "                        Minimum certainty for --near-text",
  "  --alpha ALPHA         Keyword/vector balance for --hybrid",
  "  --limit LIMIT         Maximum number of results",
  "  --offset OFFSET       Pagination offset",
  "  --where-equal PROP=VALUE",
  "                        Text equality filter; repeat to combine with AND",
  "  --additional ADDITIONAL [ADDITIONAL ...]",
  "                        _additional fields (id, certainty, ...)",
  "  --render-only         Print the GraphQL document without running it",
  "  --debug               Enable debug logging",
  ""]

/-- The report of a command line that is not run. -/
def Stop.report : Stop → Report
  | help => ⟨0, helpText, ""⟩
  | usage fault =>
    ⟨2, "", usageText ++ programName ++ ": error: " ++ fault.message ++ "\n"⟩

end VectorQuery.CommandLine
