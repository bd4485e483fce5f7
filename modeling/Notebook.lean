import Notebook.Block
import Notebook.Calendar.Day
import Notebook.Calendar.Instant
import Notebook.Calendar.Reading
import Notebook.CommandLine.Arguments
import Notebook.CommandLine.Basic
import Notebook.Configuration
import Notebook.Dictionary
import Notebook.Engine
import Notebook.Evaluation.Basic
import Notebook.Evaluation.Builtin
import Notebook.Evaluation.Comparison
import Notebook.Evaluation.Error
import Notebook.Evaluation.Function
import Notebook.Execution.Basic
import Notebook.Execution.Result
import Notebook.Execution.Source
import Notebook.Json.Basic
import Notebook.Json.Reading
import Notebook.Json.Record
import Notebook.Main
import Notebook.Markdown.CodeSpan
import Notebook.Markdown.Fence
import Notebook.Markdown.Inline
import Notebook.Note.Attribute
import Notebook.Note.Basic
import Notebook.Note.Collection
import Notebook.Note.Document
import Notebook.Number.Binary64
import Notebook.Number.Decimal
import Notebook.Number.Digits
import Notebook.Number.Notation
import Notebook.Number.Reading
import Notebook.Number.Rounding
import Notebook.Number.Shortest
import Notebook.Proofs.Block.Continuation
import Notebook.Proofs.Block.Detection
import Notebook.Proofs.Block.InlineQueries
import Notebook.Proofs.Calendar.Rereading
import Notebook.Proofs.Dictionary
import Notebook.Proofs.Engine.Arrival
import Notebook.Proofs.Engine.Check
import Notebook.Proofs.Engine.Rendered
import Notebook.Proofs.Evaluation.Checked
import Notebook.Proofs.Evaluation.Constant
import Notebook.Proofs.Evaluation.Joining
import Notebook.Proofs.Evaluation.Mirror
import Notebook.Proofs.Evaluation.Origin
import Notebook.Proofs.Evaluation.Several
import Notebook.Proofs.Evaluation.Trichotomy
import Notebook.Proofs.Execution.Account
import Notebook.Proofs.Execution.Candidates
import Notebook.Proofs.Execution.ConstantKeys
import Notebook.Proofs.Execution.DiscoveredLinks
import Notebook.Proofs.Execution.Failing
import Notebook.Proofs.Execution.Limit
import Notebook.Proofs.Execution.Precedence
import Notebook.Proofs.Execution.RowOrder
import Notebook.Proofs.Execution.Run
import Notebook.Proofs.Execution.Shape
import Notebook.Proofs.Execution.Stages
import Notebook.Proofs.Execution.Subcollection
import Notebook.Proofs.Json.Quoted
import Notebook.Proofs.Json.Record
import Notebook.Proofs.Markdown.LineEnds
import Notebook.Proofs.Markdown.Links
import Notebook.Proofs.Markdown.Opacity
import Notebook.Proofs.Markdown.Places
import Notebook.Proofs.Markdown.Recased
import Notebook.Proofs.Markdown.Search
import Notebook.Proofs.Markdown.Spans
import Notebook.Proofs.Note.FileNamespace
import Notebook.Proofs.Note.LinkSearch
import Notebook.Proofs.Note.Mentions
import Notebook.Proofs.Note.NormalPath
import Notebook.Proofs.Note.Opacity
import Notebook.Proofs.Note.TagSearch
import Notebook.Proofs.Number.Digits
import Notebook.Proofs.Number.Numeral
import Notebook.Proofs.Number.Quotient
import Notebook.Proofs.Number.Range
import Notebook.Proofs.Number.ReadBack
import Notebook.Proofs.Number.WholeText
import Notebook.Proofs.Order.FirstOccurrence
import Notebook.Proofs.Order.Ranking
import Notebook.Proofs.Query.Blame
import Notebook.Proofs.Query.Branches
import Notebook.Proofs.Query.Completeness
import Notebook.Proofs.Query.Cursor
import Notebook.Proofs.Query.Descent
import Notebook.Proofs.Query.ExpressionText
import Notebook.Proofs.Query.Grammar
import Notebook.Proofs.Query.Layout
import Notebook.Proofs.Query.LiteralText
import Notebook.Proofs.Query.Lookahead
import Notebook.Proofs.Query.Names
import Notebook.Proofs.Query.Parsing
import Notebook.Proofs.Query.Parts
import Notebook.Proofs.Query.Pieces
import Notebook.Proofs.Query.Places
import Notebook.Proofs.Query.Plans
import Notebook.Proofs.Query.QueryText
import Notebook.Proofs.Query.Quotes
import Notebook.Proofs.Query.Rejection
import Notebook.Proofs.Query.Rereading
import Notebook.Proofs.Query.Scanning
import Notebook.Proofs.Query.Soundness
import Notebook.Proofs.Query.SourceRereading
import Notebook.Proofs.Query.SourceText
import Notebook.Proofs.Query.Termination
import Notebook.Proofs.Query.Tokens
import Notebook.Proofs.Query.Viability
import Notebook.Proofs.Report.Checklist
import Notebook.Proofs.Report.EmptyResults
import Notebook.Proofs.Report.Lists
import Notebook.Proofs.Report.Table
import Notebook.Proofs.Sorting.Basic
import Notebook.Proofs.Sorting.Halves
import Notebook.Proofs.Sorting.Insertion
import Notebook.Proofs.Sorting.Order
import Notebook.Proofs.Sorting.Pivots
import Notebook.Proofs.Sorting.Runs
import Notebook.Proofs.Task.Annotations
import Notebook.Proofs.Task.Extraction
import Notebook.Proofs.Task.OwnFields
import Notebook.Proofs.Task.Rereading
import Notebook.Proofs.Text.Lines
import Notebook.Proofs.Text.Repeated
import Notebook.Proofs.Text.Trim
import Notebook.Proofs.Text.Written
import Notebook.Proofs.Unicode.Case
import Notebook.Proofs.Unicode.Lowercase
import Notebook.Proofs.Value.Agreement
import Notebook.Proofs.Value.SortOrder
import Notebook.Proofs.Value.Symmetry
import Notebook.Query.Basic
import Notebook.Query.Expression
import Notebook.Query.Lexer
import Notebook.Query.Problem
import Notebook.Query.Reading
import Notebook.Query.Token
import Notebook.Report.Document
import Notebook.Report.Markdown
import Notebook.Report.Summary
import Notebook.Sorting.Basic
import Notebook.Sorting.Halves
import Notebook.Sorting.Insertion
import Notebook.Sorting.Pivots
import Notebook.Sorting.Runs
import Notebook.Task.Basic
import Notebook.Task.Line
import Notebook.Text.Split
import Notebook.Text.Trim
import Notebook.Unicode.Alphabetic
import Notebook.Unicode.Case
import Notebook.Unicode.CaseTables
import Notebook.Unicode.Letter
import Notebook.Unicode.Numeric
import Notebook.Unicode.Ranges
import Notebook.Unicode.WhiteSpace
import Notebook.Value.Basic
import Notebook.Value.Order
