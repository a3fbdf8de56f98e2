import SampleChart.Config.Basic

/-!
# Options

What a run is asked to do: an input, where its outputs go, and what differs from the usual chart.
`Options.config` is the configuration that follows. A baseline brings standard errors and the label
of a slowdown with it, unless a dispersion or a label is given.
-/

namespace SampleChart

/-- What a run is asked to do. -/
structure Options where
  input : String
  layout : Layout
  baseline : Option String
  dispersion : Option Dispersion
  sums : List DerivedSeries
  logScale : Bool
  title : Option String
  xLabel : Option String
  yLabel : Option String
  outputDirectory : String
  noPlot : Bool
  deriving DecidableEq, Repr

namespace Options

/-- The dispersion that goes with a baseline or with none. -/
def defaultDispersion : Option String → Dispersion
  | some _ => .standardError
  | none => .none

def config (options : Options) : ChartConfig where
  layout := options.layout
  baseline := options.baseline
  dispersion := options.dispersion.getD (defaultDispersion options.baseline)
  sums := options.sums
  logScale := options.logScale
  title := options.title
  xLabel := options.xLabel.getD ChartConfig.grouped.xLabel
  yLabel := options.yLabel.getD (ChartConfig.defaultYLabel options.baseline)

end Options

end SampleChart
