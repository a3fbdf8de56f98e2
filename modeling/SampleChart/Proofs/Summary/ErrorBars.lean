import SampleChart.Proofs.Statistics.Spread
import SampleChart.Proofs.Summary.Coverage

/-!
# Error bars

The error bar of a group is the spread of as many numbers as the group has samples: the samples
themselves, or the samples over the mean of the baseline. No group of a summary is without samples,
so there is an error bar wherever one is asked for. The sign of the baseline does not matter. It
changes the sign of every number that the spread is taken of, but the spread comes out of squares.
-/

namespace SampleChart.Table

variable {table : Table} {config : ChartConfig} {summary : Summary} {series benchmark : String}

theorem declared_ne_nil (summarized : table.summarize config = .ok summary)
    (seriesListed : series ∈ table.series) (benchmarkListed : benchmark ∈ table.benchmarks) :
    table.samples? series benchmark ≠ some [] := by
  have noFault := (summarize_eq_ok_iff.mp summarized).1
  rw [summaryFault?, Option.or_eq_none_iff, resultsFault?, Option.map_eq_none_iff,
    List.find?_eq_none] at noFault
  intro noSamples
  have listed := mem_groupNames_iff.mpr ⟨seriesListed, benchmarkListed⟩
  exact noFault.2 (series, benchmark) listed (declaredEmpty_iff.mpr noSamples)

/-- The error bar of an entry is a spread of as many numbers as its group has samples. -/
theorem exists_measured_of_mem_entries (summarized : table.summarize config = .ok summary) :
    ∀ result ∈ summary.results, ∀ entry ∈ result.entries,
      ∃ samples measured, table.samples? result.name entry.benchmark = some samples ∧
        samples ≠ [] ∧ measured.length = samples.length ∧
        entry.aggregate.error = (config.dispersion.spread? measured).map ErrorBar.symmetric := by
  rcases summarize_eq_ok_iff.mp summarized with ⟨_, isSummary⟩
  intro result isResult entry isEntry
  rw [isSummary] at isResult
  rcases List.mem_map.mp isResult with ⟨series, listed, rfl⟩
  rcases entryIn?_of_mem_entries isEntry with ⟨benchmarkListed, made⟩
  have filled := declared_ne_nil summarized listed benchmarkListed
  rw [entryIn?_eq] at made
  rcases Option.map_eq_some_iff.mp made with ⟨samples, declared, isEntry⟩
  have nonempty : samples ≠ [] := by
    rintro rfl
    exact filled declared
  rw [← isEntry]
  cases config.baseline with
  | none => exact ⟨samples, samples, declared, nonempty, rfl, rfl⟩
  | some baseline =>
      exact ⟨samples, Statistics.normalize samples (table.meanOf baseline entry.benchmark),
        declared, nonempty, List.length_map _, rfl⟩

/-- An entry of a summary has an error bar exactly if a dispersion is asked for. It reaches as far
down as up, and how far that is is not negative, unless it is no number. Around the mean of a single
sample it does not reach at all. -/
theorem error_bars (summarized : table.summarize config = .ok summary) :
    ∀ result ∈ summary.results, ∀ entry ∈ result.entries,
      ∃ samples, table.samples? result.name entry.benchmark = some samples ∧
        (entry.aggregate.error.isSome = true ↔ config.dispersion ≠ .none) ∧
        ∀ error, entry.aggregate.error = some error →
          error.lower = error.upper ∧ (error.upper.isNaN = true ∨ 0 ≤ error.upper) ∧
            (samples.length = 1 → error.upper = 0) := by
  intro result isResult entry isEntry
  rcases exists_measured_of_mem_entries summarized result isResult entry isEntry with
    ⟨samples, measured, declared, filled, sameLength, isError⟩
  have measuredFilled : measured ≠ [] := by
    rw [← List.length_pos_iff, sameLength]
    exact List.length_pos_iff.mpr filled
  rw [isError]
  refine ⟨samples, declared, ?_, ?_⟩
  · rw [Option.isSome_map]
    exact Dispersion.isSome_spread?_iff measuredFilled
  · intro error present
    rcases Option.map_eq_some_iff.mp present with ⟨reach, spread, rfl⟩
    refine ⟨rfl, (Dispersion.unsigned_of_spread? spread).isNaN_or_nonneg, ?_⟩
    intro single
    rcases List.length_eq_one_iff.mp (sameLength.trans single) with ⟨sample, rfl⟩
    exact Dispersion.eq_zero_of_spread?_singleton spread

/-- A negative baseline makes a negative mean, but no negative error bar. -/
theorem error_bars_of_negative_baseline :
    ∃ table summary, parse .keyed "# x\na 1\na 3\nb -2\n" = .ok table ∧
      table.summarize (.normalized "b") = .ok summary ∧
      (summary.get? "a" "x").map (·.mean) = some (-1) ∧
      ∀ result ∈ summary.results, ∀ entry ∈ result.entries, ∃ error,
        entry.aggregate.error = some error ∧ error.lower = error.upper ∧
          (error.upper.isNaN = true ∨ 0 ≤ error.upper) := by
  have means :
      ((parse .keyed "# x\na 1\na 3\nb -2\n" >>= fun table =>
          table.summarize (.normalized "b")).toOption.map fun summary =>
        (summary.get? "a" "x").map (·.mean)) = some (some (-1)) := by decide +kernel
  rcases exists_ok_of_toOption_map means with ⟨summary, run, mean⟩
  rcases bind_eq_ok_iff.mp run with ⟨table, parsed, summarized⟩
  refine ⟨table, summary, parsed, summarized, mean, ?_⟩
  intro result isResult entry isEntry
  rcases error_bars summarized result isResult entry isEntry with ⟨_, _, present, bars⟩
  rcases Option.isSome_iff_exists.mp (present.mpr (by decide)) with ⟨error, isError⟩
  exact ⟨error, isError, (bars error isError).1, (bars error isError).2.1⟩

end SampleChart.Table
