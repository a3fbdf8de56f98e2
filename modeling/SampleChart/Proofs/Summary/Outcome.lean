import SampleChart.Proofs.Stages
import SampleChart.Summary.Aggregation

/-!
# The outcome of a summary

A summary is computed by two nested passes of which each stops at its first error. Here both are
told without a pass. `summaryFault?` finds the fault of a table under a configuration: that of the
baseline, benchmark by benchmark, and only then the first declared group without samples, series by
series. `summaryOf` is the summary of a table without a fault. `summarize_eq` says that summarizing
gives the one or the other, and all that is proved of summaries rests on it.
-/

namespace SampleChart.Table

def meanOf (table : Table) (series benchmark : String) : Float :=
  Statistics.runningMean (table.samplesOrNone series benchmark)

/-- What is wrong with a baseline in a benchmark. -/
def baselineFault? (table : Table) (baseline benchmark : String) : Option Error :=
  if table.samplesOrNone baseline benchmark = [] then
    some (.baselineNotFound baseline (some benchmark))
  else
    let mean := table.meanOf baseline benchmark
    if mean == 0 || !mean.isFinite then some (.degenerateBaseline baseline benchmark mean)
    else none

/-- The names of all groups that a table could have, series by series. -/
def groupNames (table : Table) : List (String × String) :=
  table.series.flatMap fun series => table.benchmarks.map fun benchmark => (series, benchmark)

/-- Whether a group is declared and has no samples. -/
def declaredEmpty (table : Table) : String × String → Bool
  | (series, benchmark) => table.samples? series benchmark = some []

/-- What is wrong with the baseline that a configuration asks for. -/
def divisorsFault? (table : Table) : Option String → Option Error
  | none => none
  | some baseline =>
      if table.containsSeries baseline then
        table.benchmarks.findSome? (table.baselineFault? baseline)
      else some (.baselineNotFound baseline none)

/-- The first declared group without samples. -/
def resultsFault? (table : Table) : Option Error :=
  (table.groupNames.find? table.declaredEmpty).map fun (series, benchmark) =>
    .emptySeries series benchmark

def summaryFault? (table : Table) (config : ChartConfig) : Option Error :=
  (table.divisorsFault? config.baseline).or table.resultsFault?

/-- The mean and the error bar of samples. -/
def aggregateOf (dispersion : Dispersion) (samples : List Float) : Option Float → Aggregate
  | none =>
      ⟨Statistics.runningMean samples, (dispersion.spread? samples).map ErrorBar.symmetric⟩
  | some divisor =>
      ⟨Statistics.runningMean samples / divisor,
        (dispersion.spread? (Statistics.normalize samples divisor)).map ErrorBar.symmetric⟩

/-- The entry of a declared group. -/
def entryOf? (table : Table) (dispersion : Dispersion) (series : String) :
    String × Option Float → Option SummaryEntry
  | (benchmark, divisor) =>
      (table.samples? series benchmark).map fun samples =>
        ⟨benchmark, samples.length, aggregateOf dispersion samples divisor⟩

/-- Each benchmark with the mean of the baseline in it, if there is a baseline. -/
def divisorsOf (table : Table) (baseline : Option String) : List (String × Option Float) :=
  table.benchmarks.map fun benchmark =>
    (benchmark, baseline.map fun baseline => table.meanOf baseline benchmark)

/-- The entry of a group in the summary under a configuration, if the group is declared. -/
def entryIn? (table : Table) (config : ChartConfig) (series benchmark : String) :
    Option SummaryEntry :=
  table.entryOf? config.dispersion series
    (benchmark, config.baseline.map fun baseline => table.meanOf baseline benchmark)

/-- The summary of a table without a fault. -/
def summaryOf (table : Table) (config : ChartConfig) : Summary where
  benchmarks := table.benchmarks
  baseline := config.baseline
  dispersion := config.dispersion
  results := table.series.map fun series =>
    ⟨series, table.benchmarks.filterMap (table.entryIn? config series)⟩

/-- The outcome that a fault stands for, or the value if there is none. -/
def outcome {α : Type} (fault : Option Error) (value : α) : Except Error α :=
  match fault with
  | some error => .error error
  | none => .ok value

variable {table : Table} {dispersion : Dispersion} {series benchmark : String}

theorem mean_eq (table : Table) (series benchmark : String) :
    table.mean series benchmark =
      if table.samplesOrNone series benchmark = [] then .error (.emptySeries series benchmark)
      else .ok (table.meanOf series benchmark) := by
  rw [mean, meanOf]
  cases table.samplesOrNone series benchmark <;> simp [Statistics.mean?]

/-- The mean of the baseline in a benchmark is given unless there is a fault in it. -/
theorem baselineMean_eq (table : Table) (baseline benchmark : String) :
    table.baselineMean baseline benchmark =
      outcome (table.baselineFault? baseline benchmark) (table.meanOf baseline benchmark) := by
  rw [baselineMean, mean_eq, baselineFault?]
  by_cases noSamples : table.samplesOrNone baseline benchmark = []
  · simp [noSamples, outcome]
  · simp only [noSamples, if_false]
    split <;> simp [outcome]

/-- The divisors are the means of the baseline, and the first benchmark with a fault decides. -/
theorem divisorsFor_eq (table : Table) (baseline : String) (benchmarks : List String) :
    table.divisorsFor baseline benchmarks =
      outcome (benchmarks.findSome? (table.baselineFault? baseline))
        (benchmarks.map fun benchmark => (benchmark, some (table.meanOf baseline benchmark))) := by
  induction benchmarks with
  | nil => rfl
  | cons benchmark rest ih =>
      rw [divisorsFor, baselineMean_eq, ih, List.findSome?_cons]
      cases table.baselineFault? baseline benchmark with
      | some fault => rfl
      | none => cases rest.findSome? (table.baselineFault? baseline) <;> rfl

theorem divisors_eq (table : Table) (baseline : Option String) :
    table.divisors baseline =
      outcome (table.divisorsFault? baseline) (table.divisorsOf baseline) := by
  cases baseline with
  | none => rfl
  | some baseline =>
      cases known : table.containsSeries baseline with
      | true => simp [divisors, divisorsFault?, known, divisorsFor_eq, divisorsOf]
      | false => simp [divisors, divisorsFault?, known, outcome]

theorem aggregate_eq {samples : List Float} (divisor : Option Float)
    (declared : table.samples? series benchmark = some samples) :
    table.aggregate dispersion series benchmark samples divisor =
      if samples = [] then .error (.emptySeries series benchmark)
      else .ok (aggregateOf dispersion samples divisor) := by
  have samples_eq : table.samplesOrNone series benchmark = samples := by
    simp [samplesOrNone, declared]
  rw [aggregate, mean_eq, meanOf, samples_eq]
  by_cases noSamples : samples = []
  · simp [noSamples, bind, Except.bind]
  · simp only [noSamples, if_false]
    cases divisor <;> rfl

/-- The entries of a series are those of its declared groups, and the first that was declared
without samples is the fault. -/
theorem entries_eq (table : Table) (dispersion : Dispersion) (series : String)
    (divisors : List (String × Option Float)) :
    table.entries dispersion series divisors =
      outcome (((divisors.map fun divisor => (series, divisor.1)).find? table.declaredEmpty).map
          fun (series, benchmark) => .emptySeries series benchmark)
        (divisors.filterMap (table.entryOf? dispersion series)) := by
  induction divisors with
  | nil => rfl
  | cons divisor rest ih =>
      rcases divisor with ⟨benchmark, divisor⟩
      rw [entries, ih]
      cases declared : table.samples? series benchmark with
      | none => simp [declaredEmpty, declared, entryOf?]
      | some samples =>
          simp only [aggregate_eq divisor declared]
          by_cases noSamples : samples = []
          · simp [declaredEmpty, declared, noSamples, outcome, bind, Except.bind]
          · simp only [noSamples, if_false, List.map_cons, List.find?_cons, declaredEmpty, declared,
              Option.some.injEq, decide_false, List.filterMap_cons, entryOf?, Option.map_some]
            cases (rest.map fun divisor => (series, divisor.1)).find? table.declaredEmpty <;> rfl

/-- Over all series it is the first group without samples that is the fault, series by series. -/
theorem results_eq (table : Table) (dispersion : Dispersion)
    (divisors : List (String × Option Float)) (series : List String) :
    table.results dispersion divisors series =
      outcome (((series.flatMap fun series => divisors.map fun divisor => (series, divisor.1)).find?
          table.declaredEmpty).map fun (series, benchmark) => .emptySeries series benchmark)
        (series.map fun series =>
          ⟨series, divisors.filterMap (table.entryOf? dispersion series)⟩) := by
  induction series with
  | nil => rfl
  | cons series rest ih =>
      rw [results, entries_eq, ih, List.flatMap_cons, List.find?_append]
      cases (divisors.map fun divisor => (series, divisor.1)).find? table.declaredEmpty with
      | some names => rfl
      | none =>
          cases (rest.flatMap fun series => divisors.map fun divisor => (series, divisor.1)).find?
            table.declaredEmpty <;> rfl

theorem results_divisorsOf (table : Table) (config : ChartConfig) :
    table.results config.dispersion (table.divisorsOf config.baseline) table.series =
      outcome table.resultsFault? (table.summaryOf config).results := by
  have names : (table.series.flatMap fun series =>
      (table.divisorsOf config.baseline).map fun divisor => (series, divisor.1)) =
        table.groupNames := by
    simp [groupNames, divisorsOf, Function.comp_def]
  rw [results_eq, names, resultsFault?]
  simp only [summaryOf, divisorsOf, List.filterMap_map]
  rfl

/-- A table is summarized exactly if it has no fault under the configuration. -/
theorem summarize_eq (table : Table) (config : ChartConfig) :
    table.summarize config =
      outcome (table.summaryFault? config) (table.summaryOf config) := by
  have results := table.results_divisorsOf config
  rw [summarize, divisors_eq, summaryFault?]
  cases table.divisorsFault? config.baseline with
  | some fault => rfl
  | none =>
      simp only [Option.none_or, outcome, bind, Except.bind] at results ⊢
      rw [results]
      cases table.resultsFault? <;> rfl

/-- A table has a summary exactly if there is no fault, and it is made group by group. -/
theorem summarize_eq_ok_iff {config : ChartConfig} {summary : Summary} :
    table.summarize config = .ok summary ↔
      table.summaryFault? config = none ∧ summary = table.summaryOf config := by
  rw [summarize_eq]
  cases table.summaryFault? config <;> simp [outcome, eq_comm]

/-- A table has no summary exactly if there is a fault, which is what is reported. -/
theorem summarize_eq_error_iff {config : ChartConfig} {error : Error} :
    table.summarize config = .error error ↔ table.summaryFault? config = some error := by
  rw [summarize_eq]
  cases table.summaryFault? config <;> simp [outcome]

theorem series_summaryOf (table : Table) (config : ChartConfig) :
    (table.summaryOf config).series = table.series := by
  simp [Summary.series, summaryOf, Function.comp_def]

section Lookup

variable {config : ChartConfig}

theorem entryIn?_eq (table : Table) (config : ChartConfig) (series benchmark : String) :
    table.entryIn? config series benchmark =
      (table.samples? series benchmark).map fun samples =>
        ⟨benchmark, samples.length, aggregateOf config.dispersion samples
          (config.baseline.map fun baseline => table.meanOf baseline benchmark)⟩ := rfl

theorem benchmark_of_entryIn? {entry : SummaryEntry}
    (made : table.entryIn? config series benchmark = some entry) :
    entry.benchmark = benchmark := by
  rcases Option.map_eq_some_iff.mp made with ⟨samples, _, rfl⟩
  rfl

/-- The results of a series are found under its name, with an entry for each of its groups. -/
theorem find?_results_summaryOf (listed : series ∈ table.series) :
    (table.summaryOf config).results.find? (·.name == series) =
      some ⟨series, table.benchmarks.filterMap (table.entryIn? config series)⟩ := by
  cases found : (table.summaryOf config).results.find? (·.name == series) with
  | none =>
      have absent := List.find?_eq_none.mp found _ (List.mem_map_of_mem listed)
      exact absurd (beq_self_eq_true series) absent
  | some result =>
      rcases List.mem_map.mp (List.mem_of_find?_eq_some found) with ⟨name, _, rfl⟩
      have same : name = series := beq_iff_eq.mp (List.find?_some found :)
      rw [same]

/-- The entry of a benchmark is found under its name, if the group was declared. -/
theorem find?_entryIn? (listed : benchmark ∈ table.benchmarks) :
    (table.benchmarks.filterMap (table.entryIn? config series)).find? (·.benchmark == benchmark) =
      table.entryIn? config series benchmark := by
  rw [List.find?_filterMap]
  cases found : table.benchmarks.find? fun name =>
      (table.entryIn? config series name).any (·.benchmark == benchmark) with
  | none =>
      have absent := List.find?_eq_none.mp found benchmark listed
      cases made : table.entryIn? config series benchmark with
      | none => rfl
      | some entry => simp [made, benchmark_of_entryIn? made] at absent
  | some name =>
      have present := List.find?_some found
      rcases (Option.any_eq_true _ _).mp present with ⟨entry, made, isNamed⟩
      have same : name = benchmark := by
        rw [← benchmark_of_entryIn? made]
        exact beq_iff_eq.mp isNamed
      rw [Option.bind_some, same]

/-- A summary answers for a group that is listed with its own mean and error bar. -/
theorem get?_summaryOf (config : ChartConfig) (seriesListed : series ∈ table.series)
    (benchmarkListed : benchmark ∈ table.benchmarks) :
    (table.summaryOf config).get? series benchmark =
      (table.entryIn? config series benchmark).map (·.aggregate) := by
  rw [Summary.get?, find?_results_summaryOf seriesListed]
  simp only [Option.bind_eq_bind, Option.bind_some, find?_entryIn? benchmarkListed]
  cases table.entryIn? config series benchmark <;> rfl

end Lookup

end SampleChart.Table
