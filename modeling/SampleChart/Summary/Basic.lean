import SampleChart.Statistics.Dispersion

/-!
# Summaries

A summary holds the mean of every group and, if a spread was asked for, its error bar. It lists the
series in their order and inside a series the benchmarks in theirs. A summary that comes from a
document may repeat names; `get?` finds the first series and in it the first entry with the names
that are asked for.
-/

namespace SampleChart

/-- The mean of a group and its error bar. -/
structure Aggregate where
  mean : Float
  error : Option ErrorBar
  deriving Repr

/-- What a summary says of one series in one benchmark. -/
structure SummaryEntry where
  benchmark : String
  /-- How many samples the mean was taken of. -/
  samples : Nat
  aggregate : Aggregate
  deriving Repr

/-- What a summary says of one series. -/
structure SeriesSummary where
  name : String
  entries : List SummaryEntry
  deriving Repr

/-- The means of every series in every benchmark. -/
structure Summary where
  benchmarks : List String
  /-- The series that the means are relative to. -/
  baseline : Option String
  dispersion : Dispersion
  results : List SeriesSummary
  deriving Repr

namespace Summary

/-- The names of the series in their order. -/
def series (summary : Summary) : List String :=
  summary.results.map (·.name)

/-- What a summary says of a series in a benchmark. -/
def get? (summary : Summary) (series benchmark : String) : Option Aggregate := do
  let found ← summary.results.find? (·.name == series)
  let entry ← found.entries.find? (·.benchmark == benchmark)
  return entry.aggregate

end Summary

end SampleChart
