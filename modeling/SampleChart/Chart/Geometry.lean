import SampleChart.Statistics.Moments

/-!
# Where bars stand

Every benchmark has a slot of width one around its index, and the bars of the series share four
fifths of it. Like the statistics, positions and widths are written for any `Scalar` with decimals,
so that the numbers of a chart and their exact values come from one definition.
-/

namespace SampleChart.Chart

open Scalar

variable {α : Type} [Scalar α] [OfScientific α]

/-- The part of a slot that its bars cover. -/
def groupWidth : α := 0.8

/-- The pixels across all slots, roughly. -/
def plotWidth : α := 1100.0

/-- The part of its own width that a bar is drawn with. -/
def barShare : α := 0.9

/-- The centre of the bar of a series, one of `seriesCount`, in the slot of a benchmark. -/
def barPosition (benchmark series seriesCount : Nat) : α :=
  let bar : α := groupWidth / ofCount seriesCount
  ofCount benchmark - groupWidth / 2.0 + bar * (ofCount series + 0.5)

/-- The border between the slot of a benchmark and the one before it. The axis reaches from the
first border to the last. -/
def slotBorder (benchmark : Nat) : α :=
  ofCount benchmark - 0.5

/-- The line width in pixels with which a bar leaves a gap to the next one. -/
def fittingWidth (benchmarkCount seriesCount : Nat) : α :=
  let slot : α := plotWidth / ofCount (max benchmarkCount 1)
  slot * groupWidth / ofCount (max seriesCount 1) * barShare

/-- The line width of a bar in pixels, which is at least one. -/
def barWidth [LT α] [DecidableLT α] (benchmarkCount seriesCount : Nat) : α :=
  let width : α := fittingWidth benchmarkCount seriesCount
  if width < 1.0 then 1.0 else width

end SampleChart.Chart
