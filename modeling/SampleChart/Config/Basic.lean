import SampleChart.Config.Derived
import SampleChart.Statistics.Dispersion
import SampleChart.Table.Layout
import SampleChart.Table.Sum

/-!
# Chart configurations

What varies between the charts of one kind of results file. There are two presets: `grouped` shows
the plain means, and `normalized` shows means relative to a baseline with standard errors.
-/

namespace SampleChart

/-- Everything that varies between charts. -/
structure ChartConfig where
  layout : Layout
  /-- The series that every mean is taken relative to. -/
  baseline : Option String
  dispersion : Dispersion
  sums : List DerivedSeries
  logScale : Bool
  title : Option String
  xLabel : String
  yLabel : String
  deriving DecidableEq, Repr

namespace ChartConfig

/-- The label of the axis with the benchmarks. -/
def benchmarkLabel : String := "Benchmark"

/-- The label of the axis with the means if they are times. -/
def timeLabel : String := "Execution Time (seconds)"

/-- The label of the axis with the means if they are relative to a baseline. -/
def slowdownLabel : String := "Slowdown"

/-- The label of the axis with the means that goes with a baseline or with none. -/
def defaultYLabel : Option String → String
  | some _ => slowdownLabel
  | none => timeLabel

/-- Plain means, one bar for each series and benchmark. -/
def grouped : ChartConfig where
  layout := .auto
  baseline := none
  dispersion := .none
  sums := []
  logScale := false
  title := none
  xLabel := benchmarkLabel
  yLabel := timeLabel

/-- Means relative to a baseline, with standard errors. -/
def normalized (baseline : String) : ChartConfig :=
  { grouped with
    baseline := some baseline
    dispersion := .standardError
    yLabel := slowdownLabel }

/-- Adds derived series in their order, so that a later sum may have an earlier one as a part. -/
def addSums (table : Table) : List DerivedSeries → Except Error Table
  | [] => .ok table
  | derived :: rest => do
      let table ← table.withSum derived.name derived.parts
      addSums table rest

def deriveSeries (config : ChartConfig) (table : Table) : Except Error Table :=
  addSums table config.sums

end ChartConfig

end SampleChart
