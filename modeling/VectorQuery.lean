import VectorQuery.Aggregate.Builder
import VectorQuery.Log.Loggers
import VectorQuery.Log.Lines
import VectorQuery.Main
import VectorQuery.Proofs.GraphQL.Lexeme
import VectorQuery.Proofs.GraphQL.Numeral
import VectorQuery.Proofs.GraphQL.Munch
import VectorQuery.Proofs.GraphQL.Lexing
import VectorQuery.Proofs.GraphQL.Braces
import VectorQuery.Proofs.GraphQL.RawSelection
import VectorQuery.Proofs.GraphQL.StringValue
import VectorQuery.Proofs.GraphQL.BlockString
import VectorQuery.Proofs.Number.Rounding
import VectorQuery.Proofs.Number.Decimal
import VectorQuery.Proofs.GraphQL.NumberValue
import VectorQuery.Proofs.GraphQL.ValueReader
import VectorQuery.Proofs.GraphQL.InputValue
import VectorQuery.Proofs.GraphQL.DocumentTokens
import VectorQuery.Proofs.GraphQL.Faithful
import VectorQuery.Proofs.Checked
import VectorQuery.Proofs.Filter.OperatorName
import VectorQuery.Proofs.Query.ArgumentValues
import VectorQuery.Proofs.Query.SelectionTokens
import VectorQuery.Proofs.Query.GetDocument
import VectorQuery.Proofs.Filter.WhereTree
import VectorQuery.Proofs.GraphQL.TextLiteral
import VectorQuery.Proofs.Query.RequotedArguments
import VectorQuery.Proofs.Query.RequotedDocument
import VectorQuery.Proofs.Query.Unmarked
import VectorQuery.Proofs.Renderable
import VectorQuery.Proofs.Transport.Attempts
import VectorQuery.Proofs.Transport.FailedResponse
import VectorQuery.Proofs.Client.ReportedErrors
import VectorQuery.Proofs.Transport.Retries
import VectorQuery.Proofs.Term.Normalized
import VectorQuery.Proofs.Term.LastWrite
import VectorQuery.Proofs.Query.LastWrite
import VectorQuery.Proofs.Aggregate.LastWrite
import VectorQuery.Proofs.Distinct
import VectorQuery.Proofs.GraphQL.FieldReader
import VectorQuery.Proofs.Generate.Clause
import VectorQuery.Proofs.Generate.PromptProperties
import VectorQuery.Proofs.Query.SelectedProperties
import VectorQuery.Proofs.Aggregate.Document
import VectorQuery.Proofs.Query.SentNames
import VectorQuery.Proofs.GraphQL.Names
import VectorQuery.Proofs.GraphQL.FieldParts
import VectorQuery.Proofs.GraphQL.FieldTokens
import VectorQuery.Proofs.Client.CollectionName
import VectorQuery.Proofs.Query.FieldTexts
import VectorQuery.Proofs.Query.ArgumentOrder
import VectorQuery.Proofs.Query.AddedProperties
import VectorQuery.Proofs.Filter.Truth
import VectorQuery.Proofs.Query.EffectiveFilter
import VectorQuery.Proofs.Settings.References
import VectorQuery.Proofs.Moment.Rfc3339
import VectorQuery.Proofs.Number.Overflow
import VectorQuery.Proofs.Number.NumberTests
import VectorQuery.Proofs.Number.Construction
import VectorQuery.Proofs.Response.Extraction
import VectorQuery.Proofs.GraphQL.Unencodable
import VectorQuery.Proofs.Settings.Construction
import VectorQuery.Proofs.CommandLine.Startup
import VectorQuery.Proofs.Number.Comparison
import VectorQuery.Proofs.GraphQL.PresentFields
import VectorQuery.Proofs.Search.ArgumentParts
import VectorQuery.Proofs.Search.ArgumentDetermines
import VectorQuery.Proofs.GraphQL.QuotedText
import VectorQuery.Proofs.Transport.FailureDetails
import VectorQuery.Proofs.Log.InForce
import VectorQuery.Proofs.Term.ByView
import VectorQuery.Proofs.CommandLine.ExclusiveSearch
import VectorQuery.Proofs.CommandLine.Conditions
import VectorQuery.Proofs.CommandLine.DescribedQuery
import VectorQuery.Proofs.CommandLine.HeededFlags
import VectorQuery.Proofs.GraphQL.BlockStringEnd
import VectorQuery.Proofs.GraphQL.LayoutReader
