import ContentionCharts.Chart.Axis
import ContentionCharts.Chart.Basic
import ContentionCharts.Chart.Comparison
import ContentionCharts.Chart.Design
import ContentionCharts.Chart.Layout
import ContentionCharts.Chart.Lettering
import ContentionCharts.Chart.Ratios
import ContentionCharts.Chart.Span
import ContentionCharts.Chart.Tick
import ContentionCharts.CommandLine.Arguments
import ContentionCharts.CommandLine.Message
import ContentionCharts.CommandLine.Similarity
import ContentionCharts.Directory
import ContentionCharts.Image.Checksum
import ContentionCharts.Image.Format
import ContentionCharts.Image.Png
import ContentionCharts.Log
import ContentionCharts.Main
import ContentionCharts.Number.Natural
import ContentionCharts.Number.Real
import ContentionCharts.Number.Rounding
import ContentionCharts.Number.Short
import ContentionCharts.Number.Shortest
import ContentionCharts.Path
import ContentionCharts.Plotting
import ContentionCharts.Program
import ContentionCharts.Proofs.Chart.Axis
import ContentionCharts.Proofs.Chart.Baseline
import ContentionCharts.Proofs.Chart.Comparison
import ContentionCharts.Proofs.Chart.Design
import ContentionCharts.Proofs.Chart.Ranges
import ContentionCharts.Proofs.Chart.Ratios
import ContentionCharts.Proofs.CommandLine
import ContentionCharts.Proofs.Directory
import ContentionCharts.Proofs.Filing
import ContentionCharts.Proofs.Logging
import ContentionCharts.Proofs.Number.Decimal
import ContentionCharts.Proofs.Number.Digits
import ContentionCharts.Proofs.Number.Fields
import ContentionCharts.Proofs.Number.Monotone
import ContentionCharts.Proofs.Number.Normal
import ContentionCharts.Proofs.Number.Order
import ContentionCharts.Proofs.Number.Quotient
import ContentionCharts.Proofs.Number.Rounding
import ContentionCharts.Proofs.Number.Thousandths
import ContentionCharts.Proofs.Number.Unsigned
import ContentionCharts.Proofs.Number.Zero
import ContentionCharts.Proofs.Plotting
import ContentionCharts.Proofs.Program
import ContentionCharts.Proofs.Report.LineEnding
import ContentionCharts.Proofs.Report.LineRatio
import ContentionCharts.Proofs.Report.Ratio
import ContentionCharts.Proofs.Report.Reading
import ContentionCharts.Proofs.Report.Series
import ContentionCharts.Proofs.Script
import ContentionCharts.Proofs.Session
import ContentionCharts.Proofs.Storage
import ContentionCharts.Proofs.Table.Body
import ContentionCharts.Proofs.Table.Ending
import ContentionCharts.Proofs.Table.Fields
import ContentionCharts.Proofs.Table.Header
import ContentionCharts.Proofs.Table.Layout
import ContentionCharts.Proofs.Table.Outcome
import ContentionCharts.Proofs.Table.Replacement
import ContentionCharts.Proofs.Table.Rule
import ContentionCharts.Proofs.Table.Scan
import ContentionCharts.Proofs.Table.Sheet
import ContentionCharts.Proofs.Table.Surroundings
import ContentionCharts.Proofs.Table.Tightening
import ContentionCharts.Proofs.Text.Line
import ContentionCharts.Proofs.Text.Pattern
import ContentionCharts.Proofs.Text.Search
import ContentionCharts.Proofs.Text.Trim
import ContentionCharts.Proofs.Verbosity
import ContentionCharts.Report.Ratio
import ContentionCharts.Report.Reading
import ContentionCharts.Report.Series
import ContentionCharts.Report.Wording
import ContentionCharts.Script
import ContentionCharts.Session
import ContentionCharts.Settings
import ContentionCharts.Table.Cursor
import ContentionCharts.Table.Line
import ContentionCharts.Table.Row
import ContentionCharts.Text.Blank
import ContentionCharts.Text.ControlSequence
import ContentionCharts.Text.DecimalDigit
import ContentionCharts.Text.GraphemeExtend
import ContentionCharts.Text.Line
import ContentionCharts.Text.Quoted
import ContentionCharts.Text.RangeTable
import ContentionCharts.Text.Search
import ContentionCharts.Text.Unprintable
