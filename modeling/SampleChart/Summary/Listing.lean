import SampleChart.Decimal.Style
import SampleChart.Summary.Basic

/-!
# Listings

The text form of a summary goes through it benchmark by benchmark. A first line names the baseline
if there is one. Each benchmark has a line with its name and below it a line for each series that
has an entry in it, with the name of the series filled up to twenty-four characters. Numbers have
four places; of an error bar the upper half is shown.
-/

namespace SampleChart

/-- Puts blanks behind a text until it has the given number of characters. -/
def padRight (width : Nat) (text : String) : String :=
  String.ofList (text.toList ++ List.replicate (width - text.toList.length) ' ')

/-- The mean with four places, followed by the upper half of the error bar. -/
def Aggregate.text (aggregate : Aggregate) : String :=
  match aggregate.error with
  | some error => Decimal.fixed 4 aggregate.mean ++ " ± " ++ Decimal.fixed 4 error.upper
  | none => Decimal.fixed 4 aggregate.mean

namespace Summary

/-- The number of characters that the name of a series is filled up to. -/
def nameWidth : Nat := 24

def seriesLine (series : String) (aggregate : Aggregate) : String :=
  padRight nameWidth series ++ ": " ++ aggregate.text

def benchmarkLines (summary : Summary) (benchmark : String) : List String :=
  ("=== " ++ benchmark ++ " ===") ::
    summary.series.filterMap fun series =>
      (summary.get? series benchmark).map (seriesLine series)

def lines (summary : Summary) : List String :=
  (summary.baseline.map fun baseline => "(relative to " ++ baseline ++ ")").toList ++
    summary.benchmarks.flatMap summary.benchmarkLines

/-- The listing of a summary, in which every line is ended. -/
def text (summary : Summary) : String :=
  String.join (summary.lines.map (· ++ "\n"))

end Summary

end SampleChart
