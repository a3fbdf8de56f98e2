import SampleChart.Proofs.Summary.Outcome
import SampleChart.Proofs.Table.Reachable

/-!
# The faults of a summary

Summarizing can fail in four ways, and `Faults` has a constructor for each with what has to hold
before it is the one that is reported. The baseline comes first: a group without samples is only
reported when the baseline is sound in every benchmark. A group that was never declared is a fault
of the baseline and of nothing else.
-/

namespace SampleChart.Table

/-- The baseline has samples in a benchmark, with a mean that can be divided by. -/
def SoundIn (table : Table) (baseline benchmark : String) : Prop :=
  ∃ samples mean, table.samples? baseline benchmark = some samples ∧
    Statistics.mean? samples = some mean ∧ (mean == 0) = false ∧ mean.isFinite = true

/-- The baseline of a configuration, if there is one, is a series that is sound everywhere. -/
def HasSoundBaseline (table : Table) (config : ChartConfig) : Prop :=
  ∀ baseline, config.baseline = some baseline →
    baseline ∈ table.series ∧ ∀ benchmark ∈ table.benchmarks, table.SoundIn baseline benchmark

/-- What is reported of a table under a configuration. -/
inductive Faults (table : Table) (config : ChartConfig) : Error → Prop
  | unlisted {baseline : String} (asked : config.baseline = some baseline)
      (absent : baseline ∉ table.series) :
      Faults table config (.baselineNotFound baseline none)
  | missing {baseline benchmark : String} {before after : List String}
      (asked : config.baseline = some baseline) (listed : baseline ∈ table.series)
      (cut : table.benchmarks = before ++ benchmark :: after)
      (sound : ∀ earlier ∈ before, table.SoundIn baseline earlier)
      (noSamples : table.samples? baseline benchmark = none ∨
        table.samples? baseline benchmark = some []) :
      Faults table config (.baselineNotFound baseline (some benchmark))
  | degenerate {baseline benchmark : String} {before after : List String} {samples : List Float}
      {mean : Float} (asked : config.baseline = some baseline) (listed : baseline ∈ table.series)
      (cut : table.benchmarks = before ++ benchmark :: after)
      (sound : ∀ earlier ∈ before, table.SoundIn baseline earlier)
      (declared : table.samples? baseline benchmark = some samples)
      (averaged : Statistics.mean? samples = some mean)
      (unusable : (mean == 0) = true ∨ mean.isFinite = false) :
      Faults table config (.degenerateBaseline baseline benchmark mean)
  | emptied {series benchmark : String} {before after : List (String × String)}
      (sound : table.HasSoundBaseline config)
      (cut : table.groupNames = before ++ (series, benchmark) :: after)
      (filled : ∀ earlier ∈ before, table.samples? earlier.1 earlier.2 ≠ some [])
      (noSamples : table.samples? series benchmark = some []) :
      Faults table config (.emptySeries series benchmark)

variable {table : Table} {config : ChartConfig} {baseline series benchmark : String}
  {error : Error}

theorem mean?_eq_some_iff {samples : List Float} {mean : Float} :
    Statistics.mean? samples = some mean ↔
      samples ≠ [] ∧ Statistics.runningMean samples = mean := by
  cases samples <;> simp [Statistics.mean?]

theorem meanOf_of_declared {samples : List Float}
    (declared : table.samples? series benchmark = some samples) :
    table.meanOf series benchmark = Statistics.runningMean samples := by
  rw [meanOf, samplesOrNone, declared, Option.getD_some]

theorem baselineFault?_eq_none_iff :
    table.baselineFault? baseline benchmark = none ↔ table.SoundIn baseline benchmark := by
  rw [baselineFault?, SoundIn]
  cases declared : table.samples? baseline benchmark with
  | none => simp [samplesOrNone, declared]
  | some samples =>
      by_cases noSamples : samples = []
      · simp [samplesOrNone, declared, noSamples, Statistics.mean?]
      · simp [samplesOrNone, declared, noSamples, mean?_eq_some_iff, meanOf_of_declared declared]

/-- A baseline is at fault where it has no samples, and where their mean is zero or not finite. -/
theorem baselineFault?_eq_some_iff :
    table.baselineFault? baseline benchmark = some error ↔
      ((table.samples? baseline benchmark = none ∨ table.samples? baseline benchmark = some []) ∧
          .baselineNotFound baseline (some benchmark) = error) ∨
        ∃ samples mean, table.samples? baseline benchmark = some samples ∧
          Statistics.mean? samples = some mean ∧ ((mean == 0) = true ∨ mean.isFinite = false) ∧
          .degenerateBaseline baseline benchmark mean = error := by
  rw [baselineFault?]
  cases declared : table.samples? baseline benchmark with
  | none => simp [samplesOrNone, declared]
  | some samples =>
      by_cases noSamples : samples = []
      · simp [samplesOrNone, declared, noSamples, Statistics.mean?]
      · simp [samplesOrNone, declared, noSamples, mean?_eq_some_iff, meanOf_of_declared declared]

/-- No fault is found in the divisors exactly if the baseline is sound, or none is asked for. -/
theorem divisorsFault?_eq_none_iff (agrees : table.Agrees) :
    table.divisorsFault? config.baseline = none ↔ table.HasSoundBaseline config := by
  rw [HasSoundBaseline]
  cases config.baseline with
  | none => simp [divisorsFault?]
  | some baseline =>
      by_cases listed : baseline ∈ table.series
      · simp [divisorsFault?, agrees baseline, listed, baselineFault?_eq_none_iff]
      · simp [divisorsFault?, agrees baseline, listed]

theorem declaredEmpty_iff {names : String × String} :
    table.declaredEmpty names = true ↔ table.samples? names.1 names.2 = some [] := by
  simp [declaredEmpty]

theorem mem_groupNames_iff :
    (series, benchmark) ∈ table.groupNames ↔
      series ∈ table.series ∧ benchmark ∈ table.benchmarks := by
  simp [groupNames]

/-- No fault is found in the results exactly if no group at all was declared without samples. -/
theorem resultsFault?_eq_none_iff (wellFormed : table.WellFormed) :
    table.resultsFault? = none ↔
      ∀ series benchmark, table.samples? series benchmark ≠ some [] := by
  simp only [resultsFault?, Option.map_eq_none_iff, List.find?_eq_none, declaredEmpty_iff]
  constructor
  · intro filled series benchmark noSamples
    have listed := wellFormed.listed_of_isSome (by rw [noSamples, Option.isSome_some])
    exact filled (series, benchmark) (mem_groupNames_iff.mpr listed) noSamples
  · intro filled names _
    exact filled names.1 names.2

/-- The fault in the results is the first group in the order of the names that has no samples. -/
theorem resultsFault?_eq_some_iff :
    table.resultsFault? = some error ↔
      ∃ before series benchmark after,
        table.groupNames = before ++ (series, benchmark) :: after ∧
          (∀ earlier ∈ before, table.samples? earlier.1 earlier.2 ≠ some []) ∧
          table.samples? series benchmark = some [] ∧ error = .emptySeries series benchmark := by
  rw [resultsFault?, Option.map_eq_some_iff]
  constructor
  · rintro ⟨⟨series, benchmark⟩, found, rfl⟩
    rcases List.find?_eq_some_iff_append.mp found with ⟨noSamples, before, after, cut, filled⟩
    refine ⟨before, series, benchmark, after, cut, ?_, declaredEmpty_iff.mp noSamples, rfl⟩
    intro earlier member isEmpty
    simpa [declaredEmpty_iff.mpr isEmpty] using filled earlier member
  · rintro ⟨before, series, benchmark, after, cut, filled, noSamples, rfl⟩
    refine ⟨(series, benchmark), ?_, rfl⟩
    apply List.find?_eq_some_iff_append.mpr
    refine ⟨declaredEmpty_iff.mpr noSamples, before, after, cut, ?_⟩
    intro earlier member
    rw [Bool.not_eq_true', Bool.eq_false_iff, Ne, declaredEmpty_iff]
    exact filled earlier member

/-- A baseline that is no series is reported first, and otherwise the first benchmark in which it is
at fault. -/
theorem divisorsFault?_eq_some_iff (agrees : table.Agrees)
    (asked : config.baseline = some baseline) :
    table.divisorsFault? config.baseline = some error ↔
      (baseline ∉ table.series ∧ error = .baselineNotFound baseline none) ∨
        (baseline ∈ table.series ∧ ∃ before benchmark after,
          table.benchmarks = before ++ benchmark :: after ∧
            table.baselineFault? baseline benchmark = some error ∧
            ∀ earlier ∈ before, table.SoundIn baseline earlier) := by
  rw [asked]
  by_cases listed : baseline ∈ table.series
  · simp [divisorsFault?, agrees baseline, listed, List.findSome?_eq_some_iff,
      baselineFault?_eq_none_iff]
  · simp [divisorsFault?, agrees baseline, listed, eq_comm]

/-- What is reported is a fault of the table under the configuration, and every such fault is
reported. -/
theorem summaryFault?_eq_some_iff (agrees : table.Agrees) :
    table.summaryFault? config = some error ↔ table.Faults config error := by
  rw [summaryFault?, Option.or_eq_some_iff, divisorsFault?_eq_none_iff agrees,
    resultsFault?_eq_some_iff]
  constructor
  · rintro (ofBaseline | ⟨sound, before, series, benchmark, after, cut, filled, noSamples, rfl⟩)
    · cases asked : config.baseline with
      | none => simp [asked, divisorsFault?] at ofBaseline
      | some baseline =>
          rcases (divisorsFault?_eq_some_iff agrees asked).mp ofBaseline with
            ⟨absent, rfl⟩ | ⟨listed, before, benchmark, after, cut, fault, sound⟩
          · exact Faults.unlisted asked absent
          · rcases baselineFault?_eq_some_iff.mp fault with
              ⟨noSamples, rfl⟩ | ⟨samples, mean, declared, averaged, unusable, rfl⟩
            · exact Faults.missing asked listed cut sound noSamples
            · exact Faults.degenerate asked listed cut sound declared averaged unusable
    · exact Faults.emptied sound cut filled noSamples
  · intro faults
    cases faults with
    | unlisted asked absent =>
        exact Or.inl ((divisorsFault?_eq_some_iff agrees asked).mpr (Or.inl ⟨absent, rfl⟩))
    | missing asked listed cut sound noSamples =>
        have fault := baselineFault?_eq_some_iff.mpr (Or.inl ⟨noSamples, rfl⟩)
        exact Or.inl ((divisorsFault?_eq_some_iff agrees asked).mpr
          (Or.inr ⟨listed, _, _, _, cut, fault, sound⟩))
    | degenerate asked listed cut sound declared averaged unusable =>
        have fault := baselineFault?_eq_some_iff.mpr
          (Or.inr ⟨_, _, declared, averaged, unusable, rfl⟩)
        exact Or.inl ((divisorsFault?_eq_some_iff agrees asked).mpr
          (Or.inr ⟨listed, _, _, _, cut, fault, sound⟩))
    | emptied sound cut filled noSamples =>
        exact Or.inr ⟨sound, _, _, _, _, cut, filled, noSamples, rfl⟩

theorem hasSoundBaseline_of_summarize {summary : Summary} (agrees : table.Agrees)
    (summarized : table.summarize config = .ok summary) :
    table.HasSoundBaseline config := by
  have noFault := (summarize_eq_ok_iff.mp summarized).1
  rw [summaryFault?, Option.or_eq_none_iff, divisorsFault?_eq_none_iff agrees] at noFault
  exact noFault.1

/-- Each entry counts the samples of a declared group. -/
theorem exists_samples_of_entry {entry : SummaryEntry}
    (present : entry ∈ table.benchmarks.filterMap (table.entryIn? config series)) :
    ∃ samples, table.samples? series entry.benchmark = some samples ∧
      entry.samples = samples.length := by
  rcases List.mem_filterMap.mp present with ⟨benchmark, _, made⟩
  rcases Option.map_eq_some_iff.mp made with ⟨samples, declared, rfl⟩
  exact ⟨samples, declared, rfl⟩

/-- What becomes of a summary. It fails with an error if and only if that error is the fault of the
table, it succeeds if and only if the baseline is sound and no declared group is empty, and then
every entry stands for a group with samples. -/
theorem summarize_outcome (reachable : table.Reachable) (config : ChartConfig) :
    (∀ error, table.summarize config = .error error ↔ table.Faults config error) ∧
      ((∃ summary, table.summarize config = .ok summary) ↔
        table.HasSoundBaseline config ∧
          ∀ series benchmark, table.samples? series benchmark ≠ some []) ∧
      ∀ summary, table.summarize config = .ok summary →
        ∀ result ∈ summary.results, ∀ entry ∈ result.entries,
          ∃ samples, table.samples? result.name entry.benchmark = some samples ∧
            samples ≠ [] ∧ entry.samples = samples.length := by
  have agrees := reachable.wellFormed.agrees
  have noFault : table.summaryFault? config = none ↔
      table.HasSoundBaseline config ∧
        ∀ series benchmark, table.samples? series benchmark ≠ some [] := by
    rw [summaryFault?, Option.or_eq_none_iff, divisorsFault?_eq_none_iff agrees,
      resultsFault?_eq_none_iff reachable.wellFormed]
  refine ⟨?_, ?_, ?_⟩
  · intro error
    rw [summarize_eq_error_iff, summaryFault?_eq_some_iff agrees]
  · simp only [summarize_eq_ok_iff, exists_and_left, exists_eq, and_true]
    exact noFault
  · intro summary summarized result isResult entry isEntry
    rcases summarize_eq_ok_iff.mp summarized with ⟨sound, rfl⟩
    rcases List.mem_map.mp isResult with ⟨series, _, rfl⟩
    rcases exists_samples_of_entry isEntry with ⟨samples, declared, size⟩
    refine ⟨samples, declared, ?_, size⟩
    rintro rfl
    exact (noFault.mp sound).2 series entry.benchmark declared

/-- A baseline with a mean of zero is reported before a group without samples. -/
theorem summarize_degenerate_and_empty :
    ∃ table, parse .headered "a b\n# x a\n# x b\n0\n" = .ok table ∧
      table.samples? "a" "x" = some [] ∧
      table.summarize (.normalized "b") = .error (.degenerateBaseline "b" "x" 0) := by
  have groups :
      ((parse .headered "a b\n# x a\n# x b\n0\n").toOption.map fun table =>
        (table.series, table.benchmarks, table.samples? "a" "x", table.samples? "b" "x")) =
        some (["a", "b"], ["x"], some [], some [0]) := by decide +kernel
  rcases exists_ok_of_toOption_map groups with ⟨table, parsed, seen⟩
  simp only [Prod.mk.injEq] at seen
  rcases seen with ⟨series, benchmarks, isEmpty, declared⟩
  refine ⟨table, parsed, isEmpty, ?_⟩
  apply ((summarize_outcome (.parsed parsed) (.normalized "b")).1 _).mpr
  have listed : "b" ∈ table.series := by simp [series]
  have cut : table.benchmarks = [] ++ "x" :: [] := benchmarks
  have averaged : Statistics.mean? [(0 : Float)] = some 0 := by decide +kernel
  exact Faults.degenerate rfl listed cut (by simp) declared averaged
    (Or.inl (by decide +kernel))

end SampleChart.Table
