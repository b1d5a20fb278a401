import DocExpr.Number.Notation
import DocExpr.Number.Literal
import DocExpr.Text.Case
import DocExpr.Text.Fold
import DocExpr.Text.Blank
import DocExpr.Text.Occurrence
import DocExpr.Text.Word
import DocExpr.Text.Percent
import DocExpr.Text.Bytes
import DocExpr.Json.Reader
import DocExpr.Calendar.Shift
import DocExpr.Calendar.Writing
import DocExpr.Calendar.Reading
import DocExpr.Expr.Lexer
import DocExpr.Expr.Parser
import DocExpr.Value.Document
import DocExpr.Value.Equality
import DocExpr.Value.Order
import DocExpr.Regex.Reader
import DocExpr.Regex.Template
import DocExpr.Value.Matching
import DocExpr.EvalM
import DocExpr.Path.Resolve
import DocExpr.Path.Dotted
import DocExpr.Library.Text
import DocExpr.Library.Number
import DocExpr.Library.Array
import DocExpr.Library.Object
import DocExpr.Ambient
import DocExpr.Calendar.Instant
import DocExpr.Library.Date
import DocExpr.Library.Math
import DocExpr.Number.Leading
import DocExpr.Library.Global
import DocExpr.Library.Dispatch
import DocExpr.Operator
import DocExpr.Evaluation
import DocExpr.Expression
import DocExpr.Proofs.Limits.Parsing
import DocExpr.Proofs.Placewise
import DocExpr.Proofs.Evaluation.Callbacks
import DocExpr.Proofs.Evaluation.Levels
import DocExpr.Proofs.Evaluation.Run
import DocExpr.Proofs.Evaluation.Frame
import DocExpr.Proofs.Limits.Widening
import DocExpr.Proofs.Parser.Consumption
import DocExpr.Proofs.Lexer.Reading
import DocExpr.Proofs.Parser.Stability
import DocExpr.Proofs.Parser.Composition
import DocExpr.Proofs.Parser.Chain
import DocExpr.Proofs.Parser.Uniqueness
import DocExpr.Proofs.Parser.Climbing
import DocExpr.Proofs.Parser.Shape
import DocExpr.Proofs.Json.Numeral
import DocExpr.Proofs.Json.Grammar
import DocExpr.Proofs.Json.Reading
import DocExpr.Proofs.Number.Equality
import DocExpr.Proofs.Value.Structure
import DocExpr.Proofs.Calendar.Standard
import DocExpr.Proofs.Value.Writing
import DocExpr.Proofs.Lexer.Document
import DocExpr.Proofs.Parser.Document
import DocExpr.Proofs.Evaluation.Literals
import DocExpr.Proofs.Value.Display
import DocExpr.Proofs.Json.Expressions
import DocExpr.Proofs.Path.Plain
import DocExpr.Proofs.Path.Wildcard
import DocExpr.Proofs.Path.Position
import DocExpr.Proofs.Evaluation.Scoping
import DocExpr.Proofs.Number.Whole
import DocExpr.Proofs.Evaluation.Agreement
import DocExpr.Proofs.Evaluation.TextCallbacks
import DocExpr.Proofs.Value.Equality
import DocExpr.Proofs.Library.Sorting
import DocExpr.Proofs.Lexer.Coverage
import DocExpr.Proofs.Parser.Places
import DocExpr.Proofs.Number.NearestDouble
import DocExpr.Proofs.Number.Nearest
import DocExpr.Proofs.Number.Shortest
import DocExpr.Proofs.Number.RoundTrip
import DocExpr.Proofs.Parser.Pattern
import DocExpr.Proofs.Value.Extension
import DocExpr.Proofs.Calendar.Civil
import DocExpr.Proofs.Number.Integer
import DocExpr.Proofs.Calendar.Parts
import DocExpr.Proofs.Evaluation.Dates
import DocExpr.Proofs.Calendar.RoundTrip
import DocExpr.Proofs.Value.Order
import DocExpr.Proofs.Path.Parts
import DocExpr.Proofs.Library.StringLimit
import DocExpr.Proofs.Evaluation.StringLimit
import DocExpr.Proofs.Path.Preorder
import DocExpr.Proofs.Parser.Progress
import DocExpr.Proofs.Lexer.Layout
import DocExpr.Proofs.Parser.Layout
import DocExpr.Proofs.Json.Printed
import DocExpr.Proofs.Value.Readers
import DocExpr.Proofs.Parser.Subject
import DocExpr.Proofs.Parser.PathFaults
import DocExpr.Proofs.Evaluation.Recursion
import DocExpr.Proofs.Path.Grouping
import DocExpr.Proofs.Path.Dotted
import DocExpr.Proofs.Number.DecimalLiteral
import DocExpr.Proofs.Value.NumberText
import DocExpr.Proofs.Value.Range
import DocExpr.Proofs.Calendar.Zone
import DocExpr.Proofs.Library.TextOrder
import DocExpr.Proofs.Library.Merging
import DocExpr.Proofs.Value.WholePart
import DocExpr.Proofs.Library.StringBudget
import DocExpr.Proofs.Library.ItemSearch
import DocExpr.Proofs.Text.Occurrence
import DocExpr.Proofs.Library.TextSearch
import DocExpr.Proofs.Library.Cutting
import DocExpr.Proofs.Text.Separation
import DocExpr.Proofs.Library.Joining
import DocExpr.Proofs.Regex.Search
import DocExpr.Proofs.Regex.Literal
import DocExpr.Proofs.Regex.Occurrences
import DocExpr.Proofs.Regex.Quoted
import DocExpr.Proofs.Regex.CharSet
import DocExpr.Proofs.Library.Replacing
import DocExpr.Proofs.Evaluation.Replacing
import DocExpr.Proofs.Number.Leading
import DocExpr.Proofs.Library.Format
import DocExpr.Proofs.Library.Rounding
import DocExpr.Proofs.Number.ByteScan
import DocExpr.Proofs.Regex.Template
import DocExpr.Proofs.Number.WholeText
import DocExpr.Proofs.Library.Radix
import DocExpr.Proofs.Text.Percent
import DocExpr.Proofs.Calendar.Pattern
import DocExpr.Proofs.Calendar.Shift
import DocExpr.Proofs.Library.Shifting
import DocExpr.Proofs.Library.MonthShifts
import DocExpr.Proofs.Calendar.Fields
import DocExpr.Proofs.Library.Setters
import DocExpr.Proofs.Calendar.Universal
import DocExpr.Proofs.Library.UniversalTime
import DocExpr.Proofs.Text.Words
import DocExpr.Proofs.Library.LastPlace
import DocExpr.Proofs.Library.KnownFunctions
import DocExpr.Proofs.Library.Names
import DocExpr.Proofs.Evaluation.Dispatch
