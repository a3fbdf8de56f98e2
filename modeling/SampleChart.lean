import SampleChart.Chart.Figure
import SampleChart.Chart.Geometry
import SampleChart.Chart.Plotting
import SampleChart.Chart.Script
import SampleChart.Command.Arguments
import SampleChart.Command.Options
import SampleChart.Command.Run
import SampleChart.Config.Basic
import SampleChart.Config.Derived
import SampleChart.Decimal.Binary
import SampleChart.Decimal.Numeral
import SampleChart.Decimal.Shortest
import SampleChart.Decimal.Style
import SampleChart.Error
import SampleChart.Files
import SampleChart.Json.Number
import SampleChart.Json.Printer
import SampleChart.Json.Reader
import SampleChart.Json.Value
import SampleChart.Main
import SampleChart.Path
import SampleChart.Proofs.Chart.Data
import SampleChart.Proofs.Chart.Framing
import SampleChart.Proofs.Chart.Geometry
import SampleChart.Proofs.Chart.Literals
import SampleChart.Proofs.Chart.PlotLine
import SampleChart.Proofs.Chart.Quoting
import SampleChart.Proofs.Command.Input
import SampleChart.Proofs.Command.Outcome
import SampleChart.Proofs.Command.Presets
import SampleChart.Proofs.Command.Words
import SampleChart.Proofs.Config.Derived
import SampleChart.Proofs.Decimal.Finite
import SampleChart.Proofs.Decimal.Numeral
import SampleChart.Proofs.Decimal.Places
import SampleChart.Proofs.Double.Operations
import SampleChart.Proofs.Double.Order
import SampleChart.Proofs.Double.Packing
import SampleChart.Proofs.Double.Results
import SampleChart.Proofs.Double.Rounding
import SampleChart.Proofs.Double.Signs
import SampleChart.Proofs.Double.Value
import SampleChart.Proofs.Files.Following
import SampleChart.Proofs.Files.Names
import SampleChart.Proofs.Files.Outputs
import SampleChart.Proofs.Files.Writing
import SampleChart.Proofs.Json.Doubles
import SampleChart.Proofs.Json.Leaves
import SampleChart.Proofs.Json.Loaded
import SampleChart.Proofs.Json.Numbers
import SampleChart.Proofs.Json.Printed
import SampleChart.Proofs.Json.Strings
import SampleChart.Proofs.Positions
import SampleChart.Proofs.Reading.Concatenation
import SampleChart.Proofs.Reading.Detection
import SampleChart.Proofs.Reading.FirstError
import SampleChart.Proofs.Reading.FixedLegend
import SampleChart.Proofs.Reading.Grammar
import SampleChart.Proofs.Reading.Growth
import SampleChart.Proofs.Reading.Lines
import SampleChart.Proofs.Reading.Names
import SampleChart.Proofs.Reading.Normal
import SampleChart.Proofs.Reading.Registers
import SampleChart.Proofs.Reading.Samples
import SampleChart.Proofs.Reading.Step
import SampleChart.Proofs.Reading.Unreachable
import SampleChart.Proofs.Stages
import SampleChart.Proofs.Statistics.Exact
import SampleChart.Proofs.Statistics.RunningMean
import SampleChart.Proofs.Statistics.Spread
import SampleChart.Proofs.Summary.Baseline
import SampleChart.Proofs.Summary.Coverage
import SampleChart.Proofs.Summary.Derived
import SampleChart.Proofs.Summary.Document
import SampleChart.Proofs.Summary.ErrorBars
import SampleChart.Proofs.Summary.Faults
import SampleChart.Proofs.Summary.FiniteMeans
import SampleChart.Proofs.Summary.Listing
import SampleChart.Proofs.Summary.Normalization
import SampleChart.Proofs.Summary.Outcome
import SampleChart.Proofs.Summary.Printed
import SampleChart.Proofs.Table.Derivation
import SampleChart.Proofs.Table.NestedSums
import SampleChart.Proofs.Table.Reachable
import SampleChart.Proofs.Table.Runs
import SampleChart.Proofs.Table.SumOrder
import SampleChart.Proofs.Table.SumOutcome
import SampleChart.Proofs.Table.Sums
import SampleChart.Proofs.Table.WellFormed
import SampleChart.Proofs.Text.Cuts
import SampleChart.Proofs.Text.Fields
import SampleChart.Proofs.Text.FirstLines
import SampleChart.Proofs.Text.Spacing
import SampleChart.Proofs.Text.Trimming
import SampleChart.Statistics.Dispersion
import SampleChart.Statistics.Moments
import SampleChart.Summary.Aggregation
import SampleChart.Summary.Basic
import SampleChart.Summary.Document
import SampleChart.Summary.Listing
import SampleChart.Table.Basic
import SampleChart.Table.Layout
import SampleChart.Table.Reading
import SampleChart.Table.Sum
import SampleChart.Text.Blank
import SampleChart.Text.Lines
import SampleChart.Text.Named
import SampleChart.Text.Printable
import SampleChart.Text.Quoted
