import Dashboard.Binary64.Arithmetic
import Dashboard.Binary64.Basic
import Dashboard.Binary64.Rounding
import Dashboard.Calendar.Layout
import Dashboard.Calendar.Timestamp
import Dashboard.Cell
import Dashboard.ColumnType
import Dashboard.CommandLine.Arguments
import Dashboard.CommandLine.Directory
import Dashboard.CommandLine.Run
import Dashboard.Config.Manifest
import Dashboard.Config.PipelineDocument
import Dashboard.Config.Settings
import Dashboard.Dataset
import Dashboard.Decimal.Basic
import Dashboard.Decimal.Layout
import Dashboard.Decimal.Shortest
import Dashboard.Formula.Expression
import Dashboard.Formula.Template
import Dashboard.Main
import Dashboard.Numeral
import Dashboard.Pattern.CharSet
import Dashboard.Pattern.FoldTable
import Dashboard.Pattern.Node
import Dashboard.Pattern.Program
import Dashboard.Pattern.PropertyTable
import Dashboard.Pattern.Reader
import Dashboard.Pattern.Replacement
import Dashboard.Pattern.Search
import Dashboard.Proofs.Binary64.Exact
import Dashboard.Proofs.Binary64.Order
import Dashboard.Proofs.Decimal.Literal
import Dashboard.Proofs.Formula.Bytes
import Dashboard.Proofs.Formula.Characters
import Dashboard.Proofs.Formula.Grammar
import Dashboard.Proofs.Formula.Reading
import Dashboard.Proofs.Formula.Segments
import Dashboard.Proofs.Text.Span
import Dashboard.Query.Aggregation
import Dashboard.Query.Condition
import Dashboard.Query.CrossFilter
import Dashboard.Query.GlobalFilter
import Dashboard.Query.Grouping
import Dashboard.Query.LiveValue
import Dashboard.Query.Ranking
import Dashboard.Query.Widget
import Dashboard.Row
import Dashboard.Text.Blank
import Dashboard.Text.Bytes
import Dashboard.Text.Case
import Dashboard.Text.CaseTable
import Dashboard.Text.CasedTable
import Dashboard.Text.Search
import Dashboard.Toml.Reader
import Dashboard.Toml.Scalar
import Dashboard.Toml.Table
import Dashboard.Transform.CellChange
import Dashboard.Transform.Label
import Dashboard.Transform.Pipeline
import Dashboard.Transform.RowChange
import Dashboard.Transform.Step
import Dashboard.Transform.TableChange
import Dashboard.Tree.Basic
import Dashboard.Tree.Document
import Dashboard.Tree.Printer
import Dashboard.Tree.Reader
import Dashboard.Yaml.Node
import Dashboard.Yaml.Reader
import Dashboard.Yaml.ScalarText
import Dashboard.Yaml.Spot
import Dashboard.Yaml.Token
import Dashboard.Proofs.Decimal.ReadBack
import Dashboard.Proofs.Decimal.Nearest
import Dashboard.Proofs.Formula.Substitution
import Dashboard.Proofs.Transform.Calculation
import Dashboard.Proofs.Query.Comparison
import Dashboard.Proofs.FirstSeen
import Dashboard.Proofs.Query.Grouping
import Dashboard.Proofs.Query.Aggregation
import Dashboard.Proofs.Query.Flattening
import Dashboard.Proofs.Query.FilterChain
import Dashboard.Proofs.Query.DrillDown
import Dashboard.Proofs.Query.Influence
import Dashboard.Proofs.Binary64.WholeSum
import Dashboard.Proofs.Binary64.Nearest
import Dashboard.Proofs.Query.Totals
import Dashboard.Proofs.StableSort
import Dashboard.Proofs.Query.TopGroups
import Dashboard.Proofs.Row.Outside
import Dashboard.Proofs.Transform.Frame
import Dashboard.Proofs.Transform.Composition
import Dashboard.Proofs.Transform.Batches
import Dashboard.Proofs.Row.OrderedMap
import Dashboard.Proofs.Row.Modify
import Dashboard.Proofs.Tree.Number
import Dashboard.Proofs.Tree.ReadBack
import Dashboard.Proofs.Row.ReadBack
import Dashboard.Proofs.Transform.ReadBack
import Dashboard.Proofs.Row.Likeness
import Dashboard.Proofs.Transform.Duplicates
import Dashboard.Proofs.ColumnType
import Dashboard.Proofs.Query.SortedColumn
import Dashboard.Proofs.Text.Bytes
import Dashboard.Proofs.Numeral.Literal
import Dashboard.Proofs.Numeral.Scan
import Dashboard.Proofs.Numeral.Denotation
import Dashboard.Proofs.Numeral.Leading
import Dashboard.Proofs.Numeral.Strict
import Dashboard.Proofs.Numeral
import Dashboard.Proofs.Transform.NumberColumn
import Dashboard.Proofs.Transform.FirstRows
import Dashboard.Proofs.Transform.DecimalText
import Dashboard.Proofs.Tree.Canonical
import Dashboard.Proofs.Tree.Record
import Dashboard.Proofs.Query.LiveValue
import Dashboard.Proofs.Query.ReadBack
import Dashboard.Proofs.Transform.ReadSteps
import Dashboard.Proofs.Config.ReadBack
import Dashboard.Proofs.Query.Selection
import Dashboard.Proofs.Query.SortedRows
import Dashboard.Proofs.Text.Lower
import Dashboard.Proofs.Query.ExactMatch
import Dashboard.Proofs.CommandLine.Directory
import Dashboard.Proofs.CommandLine.Arguments
import Dashboard.Proofs.CommandLine.Run
import Dashboard.Proofs.Transform.BlanksLast
import Dashboard.Proofs.Query.Extremes
import Dashboard.Proofs.Query.RankedRows
import Dashboard.Proofs.Query.EqualTexts
import Dashboard.Proofs.Query.PrintedNumbers
import Dashboard.Proofs.Formula.References
import Dashboard.Proofs.Formula.Faults
import Dashboard.Proofs.Tree.Json
import Dashboard.Proofs.Query.LiveShape
import Dashboard.Proofs.ColumnType.Sample
import Dashboard.Proofs.Text.Split
import Dashboard.Proofs.Transform.SplitConcat
import Dashboard.Proofs.Text.CaseTable
import Dashboard.Proofs.Text.Case
import Dashboard.Proofs.Transform.ChangeCase
import Dashboard.Proofs.Calendar.Number
import Dashboard.Proofs.Calendar.Form
import Dashboard.Proofs.Calendar.Day
import Dashboard.Proofs.Calendar.Slashes
import Dashboard.Proofs.Calendar.Reading
import Dashboard.Proofs.Calendar.Unambiguous
import Dashboard.Proofs.Binary64.Scaling
import Dashboard.Proofs.Transform.Rounding
import Dashboard.Proofs.Transform.Cleaning
import Dashboard.Proofs.Transform.Edits
import Dashboard.Proofs.Transform.Independent
import Dashboard.Proofs.Query.Places
