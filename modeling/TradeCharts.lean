import TradeCharts.Amount
import TradeCharts.Calendar
import TradeCharts.Chart
import TradeCharts.Command
import TradeCharts.Command.Arguments
import TradeCharts.Command.Flag
import TradeCharts.Command.Options
import TradeCharts.Command.Report
import TradeCharts.Command.Usage
import TradeCharts.Document
import TradeCharts.Document.JsonText
import TradeCharts.Document.YamlScalar
import TradeCharts.Document.YamlText
import TradeCharts.Failure
import TradeCharts.Files
import TradeCharts.Gaps
import TradeCharts.History
import TradeCharts.Json.Lexeme
import TradeCharts.Json.Reader
import TradeCharts.Json.Value
import TradeCharts.Label
import TradeCharts.Log
import TradeCharts.Main
import TradeCharts.Numeric.Binary64
import TradeCharts.Numeric.Decimal
import TradeCharts.Numeric.FloatText
import TradeCharts.Numeric.Power
import TradeCharts.Numeric.Shortest
import TradeCharts.Pair
import TradeCharts.Pair.Reading
import TradeCharts.Palette
import TradeCharts.Path
import TradeCharts.Proofs.Timeline.Gather
import TradeCharts.Series
import TradeCharts.Settings
import TradeCharts.Settings.File
import TradeCharts.Settings.Reading
import TradeCharts.Snapshot
import TradeCharts.Text.Blank
import TradeCharts.Text.CaseTable
import TradeCharts.Text.ControlSequence
import TradeCharts.Text.DecimalDigit
import TradeCharts.Text.LowerCase
import TradeCharts.Text.Numeral
import TradeCharts.Text.Printable
import TradeCharts.Text.Quoted
import TradeCharts.Text.Similarity
import TradeCharts.Text.Span
import TradeCharts.Text.WholeNumber
import TradeCharts.Timeline
import TradeCharts.Token
import TradeCharts.Toml.Reader
import TradeCharts.Toml.Scalar
import TradeCharts.Toml.Tables
import TradeCharts.Toml.Value
import TradeCharts.Trade
import TradeCharts.Trade.Reading
import TradeCharts.Trade.Writing
import TradeCharts.Validation
import TradeCharts.Window
import TradeCharts.Zone
import TradeCharts.Proofs.Chart.Usable
import TradeCharts.Proofs.Chart.Specification
import TradeCharts.Proofs.Pair.Listing
import TradeCharts.Proofs.Json.Limits
import TradeCharts.Proofs.Json.Lexemes
import TradeCharts.Proofs.Calendar
import TradeCharts.Proofs.Snapshot.Loading
import TradeCharts.Proofs.Gaps
import TradeCharts.Proofs.Label.Range
import TradeCharts.Proofs.Json.Integers
import TradeCharts.Proofs.Validation
import TradeCharts.Proofs.Snapshot.Times
import TradeCharts.Proofs.History.Groups
import TradeCharts.Proofs.Command.Documents
import TradeCharts.Proofs.Command.Outcome
import TradeCharts.Proofs.Numeric.Packing
import TradeCharts.Proofs.Numeric.Significand
import TradeCharts.Proofs.Numeric.Sum
import TradeCharts.Proofs.Chart.Zoom
import TradeCharts.Proofs.Chart.Division
import TradeCharts.Proofs.Chart.Totals
import TradeCharts.Proofs.Chart.WellFormed
import TradeCharts.Proofs.Chart.Flip
import TradeCharts.Proofs.Chart.Overflow
import TradeCharts.Proofs.History.Specification
import TradeCharts.Proofs.Interleaving
import TradeCharts.Proofs.Amount.Sign
import TradeCharts.Proofs.Pair.Spelling
import TradeCharts.Proofs.Pair.FirstAppearance
import TradeCharts.Proofs.Snapshot.Records
import TradeCharts.Proofs.Command.DefaultPair
import TradeCharts.Proofs.Numeric.Order
import TradeCharts.Proofs.Numeric.Nearest
import TradeCharts.Proofs.Gaps.Exact
import TradeCharts.Proofs.Chart.Bars
import TradeCharts.Proofs.Chart.Translation
import TradeCharts.Proofs.History.LoneTrades
import TradeCharts.Proofs.Trade.RoundTrip
import TradeCharts.Proofs.Series.Overflow
import TradeCharts.Proofs.Chart.BarLabels
import TradeCharts.Proofs.Command.Settings
import TradeCharts.Proofs.History.Overflow
import TradeCharts.Proofs.Pair.DefaultPlace
import TradeCharts.Proofs.Text.Trim
import TradeCharts.Proofs.Text.LowerDigits
import TradeCharts.Proofs.Window.Grammar
import TradeCharts.Proofs.Calendar.Civil
import TradeCharts.Proofs.Label.Civil
import TradeCharts.Proofs.Chart.Accounting
import TradeCharts.Proofs.Timeline.FirstUse
import TradeCharts.Proofs.Series.Volumes
import TradeCharts.Proofs.Window.Coarser
