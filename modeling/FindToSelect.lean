import FindToSelect.Arguments.Cursor
import FindToSelect.Arguments.Error
import FindToSelect.Arguments.Reader
import FindToSelect.Console
import FindToSelect.Failure
import FindToSelect.Filter.Build
import FindToSelect.Filter.Clause
import FindToSelect.Filter.Operator
import FindToSelect.Filter.Predicate
import FindToSelect.Invocation
import FindToSelect.Json.Lexeme
import FindToSelect.Json.Tree
import FindToSelect.Main
import FindToSelect.Number
import FindToSelect.Number.Double
import FindToSelect.Number.Layout
import FindToSelect.Number.Shortest
import FindToSelect.Settings
import FindToSelect.Statement
import FindToSelect.Text.Alphabetic
import FindToSelect.Text.Blank
import FindToSelect.Text.Bytes
import FindToSelect.Text.CharSet
import FindToSelect.Text.Cluster
import FindToSelect.Text.ClusterClass
import FindToSelect.Text.Extending
import FindToSelect.Text.Hex
import FindToSelect.Text.Item
import FindToSelect.Text.Joined
import FindToSelect.Text.Numeric
import FindToSelect.Text.Quoted
import FindToSelect.Text.Typed
import FindToSelect.Text.Unprintable
import FindToSelect.Token
import FindToSelect.Token.Lexer
import FindToSelect.Token.Numeral
import FindToSelect.Token.StringLiteral
import FindToSelect.Token.Trivia
import FindToSelect.Translation
import FindToSelect.Value
import FindToSelect.Proofs.Token.FinishedTrivia
import FindToSelect.Proofs.Token.Locality
import FindToSelect.Proofs.Arguments.Acceptance
import FindToSelect.Proofs.Console.Session
import FindToSelect.Proofs.Filter.Built
import FindToSelect.Proofs.Filter.Meaning
import FindToSelect.Proofs.Invocation.ArgumentEnd
import FindToSelect.Proofs.Invocation.Language
import FindToSelect.Proofs.Number.Plain
import FindToSelect.Proofs.Statement.Grammar
import FindToSelect.Proofs.Statement.Reading
import FindToSelect.Proofs.Statement.Renaming
import FindToSelect.Proofs.Filter.Validity
import FindToSelect.Proofs.Number.Rounding
import FindToSelect.Proofs.Text.CodeUnits
import FindToSelect.Proofs.Token.StringBody
import FindToSelect.Proofs.Token.Written
import FindToSelect.Proofs.Token.WrittenNumber
import FindToSelect.Proofs.Arguments.Image
import FindToSelect.Proofs.Arguments.JsonText
import FindToSelect.Proofs.Translation.JsonCall
import FindToSelect.Proofs.Translation.NestingLimits
import FindToSelect.Proofs.Arguments.ErrorPlace
import FindToSelect.Proofs.Token.Truncation
import FindToSelect.Proofs.Token.Tiling
import FindToSelect.Proofs.Arguments.InsertedTrivia
import FindToSelect.Proofs.Arguments.Calls
import FindToSelect.Proofs.Filter.WellFormed
import FindToSelect.Proofs.Filter.Leaves
import FindToSelect.Proofs.Number.Positional
import FindToSelect.Proofs.Arguments.WordKeys
import FindToSelect.Proofs.Token.IntegerLiteral
import FindToSelect.Proofs.Json.Spelling
import FindToSelect.Proofs.Statement.Numbers
import FindToSelect.Proofs.Json.Acceptance
import FindToSelect.Proofs.Settings.Loading
