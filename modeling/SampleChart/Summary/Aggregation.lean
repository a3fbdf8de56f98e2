import SampleChart.Config.Basic
import SampleChart.Summary.Basic

/-!
# Aggregation

Every group of a table is reduced to its mean and its spread. With a baseline both are relative to
the mean of the baseline in the same benchmark: the mean is divided by it, and the spread is that of
the samples divided by it. The baseline is looked at first, benchmark by benchmark, and it needs a
mean other than zero in all of them. Then every declared group needs samples.
-/

namespace SampleChart

namespace Table

/-- The mean of the baseline in a benchmark, which has to be a finite number other than zero. -/
def baselineMean (table : Table) (baseline benchmark : String) : Except Error Float :=
  match table.mean baseline benchmark with
  | .error _ => .error (.baselineNotFound baseline (some benchmark))
  | .ok mean =>
      if mean == 0 || !mean.isFinite then .error (.degenerateBaseline baseline benchmark mean)
      else .ok mean

/-- Each benchmark with what the means in it are divided by, if they are divided. -/
def divisorsFor (table : Table) (baseline : String) :
    List String → Except Error (List (String × Option Float))
  | [] => .ok []
  | benchmark :: rest => do
      let mean ← table.baselineMean baseline benchmark
      let divisors ← table.divisorsFor baseline rest
      return (benchmark, some mean) :: divisors

/-- The benchmarks of a table with their divisors. -/
def divisors (table : Table) : Option String → Except Error (List (String × Option Float))
  | none => .ok (table.benchmarks.map fun benchmark => (benchmark, none))
  | some baseline =>
      if table.containsSeries baseline then table.divisorsFor baseline table.benchmarks
      else .error (.baselineNotFound baseline none)

/-- The mean and the error bar of a group. -/
def aggregate (table : Table) (dispersion : Dispersion) (series benchmark : String)
    (samples : List Float) (divisor : Option Float) : Except Error Aggregate := do
  let mean ← table.mean series benchmark
  let (mean, spread) :=
    match divisor with
    | some divisor =>
        (mean / divisor, dispersion.spread? (Statistics.normalize samples divisor))
    | none => (mean, dispersion.spread? samples)
  return ⟨mean, spread.map ErrorBar.symmetric⟩

/-- The entries of a series for the benchmarks in which it has a group. -/
def entries (table : Table) (dispersion : Dispersion) (series : String) :
    List (String × Option Float) → Except Error (List SummaryEntry)
  | [] => .ok []
  | (benchmark, divisor) :: rest =>
      match table.samples? series benchmark with
      | none => table.entries dispersion series rest
      | some samples => do
          let aggregate ← table.aggregate dispersion series benchmark samples divisor
          let entries ← table.entries dispersion series rest
          return ⟨benchmark, samples.length, aggregate⟩ :: entries

def results (table : Table) (dispersion : Dispersion)
    (divisors : List (String × Option Float)) :
    List String → Except Error (List SeriesSummary)
  | [] => .ok []
  | series :: rest => do
      let entries ← table.entries dispersion series divisors
      let results ← table.results dispersion divisors rest
      return ⟨series, entries⟩ :: results

/-- The summary of a table under a configuration. -/
def summarize (table : Table) (config : ChartConfig) : Except Error Summary := do
  let divisors ← table.divisors config.baseline
  let results ← table.results config.dispersion divisors table.series
  return ⟨table.benchmarks, config.baseline, config.dispersion, results⟩

end Table

end SampleChart
