import Mathlib.Data.List.Find
import SampleChart.Proofs.Reading.Names
import SampleChart.Proofs.Summary.Faults
import SampleChart.Proofs.Table.Derivation

/-!
# Summaries with derived series

Sums that are added to a table change nothing that its summary said before. A fault is searched for
in the groups of the old series first, and none is found behind them, since a sum has samples in all
of its groups. An entry is made of its own group and the mean of the baseline, and both are still
what they were, unless the baseline is itself one of the sums.

So the names in a summary stand in the order of the text, and the names of the sums stand behind
them in the order in which they were asked for.
-/

namespace SampleChart.Table

variable {start table : Table} {added : List String} {config : ChartConfig}
  {series baseline benchmark : String}

theorem samplesOrNone_of_enlarges (enlarges : start.Enlarges added table)
    (listed : series ∈ start.series) (benchmark : String) :
    table.samplesOrNone series benchmark = start.samplesOrNone series benchmark := by
  rw [samplesOrNone, samplesOrNone, enlarges.samples?_eq series listed]

theorem meanOf_of_enlarges (enlarges : start.Enlarges added table)
    (listed : series ∈ start.series) (benchmark : String) :
    table.meanOf series benchmark = start.meanOf series benchmark := by
  rw [meanOf, meanOf, samplesOrNone_of_enlarges enlarges listed]

theorem baselineFault?_of_enlarges (enlarges : start.Enlarges added table)
    (listed : baseline ∈ start.series) (benchmark : String) :
    table.baselineFault? baseline benchmark = start.baselineFault? baseline benchmark := by
  rw [baselineFault?, baselineFault?, samplesOrNone_of_enlarges enlarges listed,
    meanOf_of_enlarges enlarges listed]

theorem divisorsFault?_of_enlarges (startAgrees : start.Agrees) (agrees : table.Agrees)
    (enlarges : start.Enlarges added table) (sameBenchmarks : table.benchmarks = start.benchmarks)
    (notAdded : ∀ baseline, config.baseline = some baseline → baseline ∉ added) :
    table.divisorsFault? config.baseline = start.divisorsFault? config.baseline := by
  cases asked : config.baseline with
  | none => rfl
  | some baseline =>
      by_cases listed : baseline ∈ start.series
      · have stillListed : baseline ∈ table.series := by
          rw [enlarges.series_eq]
          exact List.mem_append_left added listed
        have sameFault : table.baselineFault? baseline = start.baselineFault? baseline :=
          funext (baselineFault?_of_enlarges enlarges listed)
        simp only [divisorsFault?, startAgrees baseline, agrees baseline, listed, stillListed,
          if_true, sameBenchmarks, sameFault]
      · have stillMissing : baseline ∉ table.series := by
          rw [enlarges.series_eq, List.mem_append, not_or]
          exact ⟨listed, notAdded baseline asked⟩
        simp only [divisorsFault?, startAgrees baseline, agrees baseline, listed, stillMissing,
          if_false]

theorem resultsFault?_of_enlarges (enlarges : start.Enlarges added table)
    (sameBenchmarks : table.benchmarks = start.benchmarks) :
    table.resultsFault? = start.resultsFault? := by
  have names : table.groupNames = start.groupNames ++
      added.flatMap fun series => start.benchmarks.map fun benchmark => (series, benchmark) := by
    rw [groupNames, groupNames, enlarges.series_eq, sameBenchmarks, List.flatMap_append]
  have ofOld : start.groupNames.find? table.declaredEmpty =
      start.groupNames.find? start.declaredEmpty := by
    apply List.find?_congr
    rintro ⟨series, benchmark⟩ present
    have listed := (mem_groupNames_iff.mp present).1
    rw [declaredEmpty, declaredEmpty, enlarges.samples?_eq series listed]
  have ofNew : (added.flatMap fun series => start.benchmarks.map fun benchmark =>
      (series, benchmark)).find? table.declaredEmpty = none := by
    apply List.find?_eq_none.mpr
    intro group present isEmpty
    rcases List.mem_flatMap.mp present with ⟨series, isAdded, inSeries⟩
    rcases List.mem_map.mp inSeries with ⟨benchmark, _, rfl⟩
    exact enlarges.filled series isAdded benchmark (declaredEmpty_iff.mp isEmpty)
  rw [resultsFault?, resultsFault?, names, List.find?_append, ofOld, ofNew, Option.or_none]

theorem summaryFault?_of_enlarges (startAgrees : start.Agrees) (agrees : table.Agrees)
    (enlarges : start.Enlarges added table) (sameBenchmarks : table.benchmarks = start.benchmarks)
    (notAdded : ∀ baseline, config.baseline = some baseline → baseline ∉ added) :
    table.summaryFault? config = start.summaryFault? config := by
  rw [summaryFault?, summaryFault?, resultsFault?_of_enlarges enlarges sameBenchmarks,
    divisorsFault?_of_enlarges startAgrees agrees enlarges sameBenchmarks notAdded]

theorem entryIn?_of_enlarges (enlarges : start.Enlarges added table)
    (sound : start.HasSoundBaseline config) (listed : series ∈ start.series)
    (benchmark : String) :
    table.entryIn? config series benchmark = start.entryIn? config series benchmark := by
  rw [entryIn?_eq, entryIn?_eq, enlarges.samples?_eq series listed]
  cases asked : config.baseline with
  | none => rfl
  | some baseline =>
      have baselineListed := (sound baseline asked).1
      rw [Option.map_some, Option.map_some, meanOf_of_enlarges enlarges baselineListed]

theorem summaryOf_of_enlarges (enlarges : start.Enlarges added table)
    (sameBenchmarks : table.benchmarks = start.benchmarks)
    (sound : start.HasSoundBaseline config) :
    table.summaryOf config =
      { start.summaryOf config with
        results := (start.summaryOf config).results ++ added.map fun series =>
          ⟨series, start.benchmarks.filterMap (table.entryIn? config series)⟩ } := by
  have ofOld : (start.series.map fun series =>
      (⟨series, start.benchmarks.filterMap (table.entryIn? config series)⟩ : SeriesSummary)) =
        (start.summaryOf config).results := by
    apply List.map_congr_left
    intro series listed
    have sameEntries : table.entryIn? config series = start.entryIn? config series :=
      funext (entryIn?_of_enlarges enlarges sound listed)
    rw [sameEntries]
  rw [summaryOf, sameBenchmarks, enlarges.series_eq, List.map_append, ofOld]
  rfl

/-- Sums add their own series to a summary and do nothing else to it. The table with them can be
summarized if and only if the table without them can, it fails with the same error, and the results
of the sums stand behind the others in the order of the sums. The baseline must not be a sum. -/
theorem summarize_deriveSeries {derivation : ChartConfig} {result : Table}
    (reachable : table.Reachable) (derived : derivation.deriveSeries table = .ok result)
    (notAdded : ∀ baseline, config.baseline = some baseline →
      baseline ∉ derivation.sums.map (·.name)) :
    ((∃ summary, result.summarize config = .ok summary) ↔
      ∃ summary, table.summarize config = .ok summary) ∧
    (∀ error, result.summarize config = .error error ↔ table.summarize config = .error error) ∧
    ∀ summary, table.summarize config = .ok summary → ∃ added,
      result.summarize config = .ok { summary with results := summary.results ++ added } ∧
        added.map (·.name) = derivation.sums.map (·.name) := by
  have wellFormed := reachable.wellFormed
  have resultFormed := wellFormed.addSums derived
  have enlarges := enlarges_of_addSums wellFormed derived
  have sameBenchmarks := benchmarks_addSums derived
  have sameFault := summaryFault?_of_enlarges wellFormed.agrees resultFormed.agrees enlarges
    sameBenchmarks notAdded
  refine ⟨?_, ?_, ?_⟩
  · simp only [summarize_eq_ok_iff, sameFault, exists_and_left, exists_eq]
  · intro error
    rw [summarize_eq_error_iff, summarize_eq_error_iff, sameFault]
  · intro summary summarized
    have sound := hasSoundBaseline_of_summarize wellFormed.agrees summarized
    rcases summarize_eq_ok_iff.mp summarized with ⟨noFault, rfl⟩
    have extended := summaryOf_of_enlarges enlarges sameBenchmarks sound
    refine ⟨_, summarize_eq_ok_iff.mpr ⟨sameFault.trans noFault, extended.symm⟩, ?_⟩
    simp [Function.comp_def]

/-- A sum with an infinite mean beside a summary relative to a series of the text. -/
theorem summarize_deriveSeries_of_overflowing_sum :
    ∃ table result summary added,
      parse .keyed "# x\na 1e308\nb 1e308\n" = .ok table ∧
        { ChartConfig.grouped with sums := [⟨"total", ["a", "b"]⟩] }.deriveSeries table =
          .ok result ∧
        table.summarize (.normalized "a") = .ok summary ∧
        result.summarize (.normalized "a") =
          .ok { summary with results := summary.results ++ added } ∧
        added.map (·.name) = ["total"] := by
  have benchmarks :
      ((parse .keyed "# x\na 1e308\nb 1e308\n").toOption.map fun table =>
        (({ ChartConfig.grouped with sums := [⟨"total", ["a", "b"]⟩] }.deriveSeries
            table).toOption.map Table.series,
          (table.summarize (.normalized "a")).toOption.map (·.benchmarks))) =
        some (some ["a", "b", "total"], some ["x"]) := by decide +kernel
  rcases exists_ok_of_toOption_map benchmarks with ⟨table, parsed, seen⟩
  rcases Prod.mk.inj seen with ⟨ofSums, ofSummary⟩
  rcases exists_ok_of_toOption_map ofSums with ⟨result, derived, _⟩
  rcases exists_ok_of_toOption_map ofSummary with ⟨summary, summarized, _⟩
  have notAdded : ∀ baseline, (ChartConfig.normalized "a").baseline = some baseline →
      baseline ∉ ["total"] := by
    rintro _ ⟨⟩
    simp
  rcases (summarize_deriveSeries (.parsed parsed) derived notAdded).2.2 summary summarized with
    ⟨added, extended, names⟩
  exact ⟨table, result, summary, added, parsed, derived, summarized, extended, names⟩

/-- The names of a text come through to its summary in their order. The benchmarks are those of the
markers, with or without samples, and the series are those that the layout takes from the text and
then the sums. -/
theorem summarize_names {layout : Layout} {text : String} {result : Table} {summary : Summary}
    (parsed : parse layout text = .ok table) (derived : config.deriveSeries table = .ok result)
    (summarized : result.summarize config = .ok summary) :
    summary.benchmarks = Line.benchmarkNames (Line.contents text) ∧
      summary.series =
        Line.seriesNames (Line.settledLayout layout (Line.contents text)) (Line.contents text) ++
          config.sums.map (·.name) := by
  have lists := lists_of_parse parsed
  have enlarges := enlarges_of_addSums (Reachable.parsed parsed).wellFormed derived
  rcases summarize_eq_ok_iff.mp summarized with ⟨_, rfl⟩
  constructor
  · exact (benchmarks_addSums derived).trans lists.benchmarks_eq
  · rw [series_summaryOf, enlarges.series_eq, lists.series_eq]

/-- Markers that come again, a benchmark without samples, and a series with a late first line. -/
theorem summarize_names_of_repeated_markers :
    ∃ table result summary,
      parse .auto "# y\nb 1\n# z\n# x\na 2\nb 3\n# y\nc 4\n" = .ok table ∧
        { ChartConfig.grouped with sums := [⟨"sum", ["b"]⟩, ⟨"all", ["sum"]⟩] }.deriveSeries table =
          .ok result ∧
        result.summarize
          { ChartConfig.grouped with sums := [⟨"sum", ["b"]⟩, ⟨"all", ["sum"]⟩] } = .ok summary ∧
        summary.benchmarks = ["y", "z", "x"] ∧ summary.series = ["b", "a", "c", "sum", "all"] := by
  have succeeds :
      ((parse .auto "# y\nb 1\n# z\n# x\na 2\nb 3\n# y\nc 4\n").toOption.map fun table =>
        ({ ChartConfig.grouped with sums := [⟨"sum", ["b"]⟩, ⟨"all", ["sum"]⟩] }.deriveSeries
            table).toOption.map fun result : Table =>
          (result.summarize { ChartConfig.grouped with
            sums := [⟨"sum", ["b"]⟩, ⟨"all", ["sum"]⟩] }).toOption.map fun _ => ()) =
        some (some (some ())) := by decide +kernel
  rcases exists_ok_of_toOption_map succeeds with ⟨table, parsed, ofSums⟩
  rcases exists_ok_of_toOption_map ofSums with ⟨result, derived, ofSummary⟩
  rcases exists_ok_of_toOption_map ofSummary with ⟨summary, summarized, _⟩
  rcases summarize_names parsed derived summarized with ⟨benchmarks_eq, series_eq⟩
  refine ⟨table, result, summary, parsed, derived, summarized, ?_, ?_⟩
  · rw [benchmarks_eq]
    decide +kernel
  · rw [series_eq]
    decide +kernel

end SampleChart.Table
