import SampleChart.Proofs.Summary.Faults

/-!
# What a summary covers

A summary has one entry for every group of its table and nothing besides. It is asked by name, and
of the series and the entries with the names that are asked for it takes the first. The answer is
about the group that is meant: an entry is made of its table and its two names alone, and as no
name is listed twice no other entry has them. `aggregateAlone` is the mean and the error bar of one
group without a summary around it, and a summary answers with nothing else.
-/

namespace SampleChart.Table

/-- The mean and the error bar of one group, relative to the mean of the baseline in the same
benchmark if there is a baseline. -/
def aggregateAlone (table : Table) (config : ChartConfig) (series benchmark : String) :
    Except Error Aggregate := do
  let divisor ← config.baseline.mapM fun baseline => table.mean baseline benchmark
  table.aggregate config.dispersion series benchmark (table.samplesOrNone series benchmark) divisor

variable {table : Table} {config : ChartConfig} {series benchmark : String} {summary : Summary}

theorem filled_of_summarize (wellFormed : table.WellFormed)
    (summarized : table.summarize config = .ok summary) (series benchmark : String) :
    table.samples? series benchmark ≠ some [] := by
  have noFault := (summarize_eq_ok_iff.mp summarized).1
  rw [summaryFault?, Option.or_eq_none_iff, resultsFault?_eq_none_iff wellFormed] at noFault
  exact noFault.2 series benchmark

theorem mean_of_soundIn {baseline : String} (sound : table.SoundIn baseline benchmark) :
    table.mean baseline benchmark = .ok (table.meanOf baseline benchmark) := by
  rcases sound with ⟨samples, mean, declared, averaged, _⟩
  have filled := (mean?_eq_some_iff.mp averaged).1
  rw [mean_eq, samplesOrNone, declared, Option.getD_some, if_neg filled]

theorem aggregateAlone_eq {samples : List Float} (sound : table.HasSoundBaseline config)
    (benchmarkListed : benchmark ∈ table.benchmarks)
    (declared : table.samples? series benchmark = some samples) (filled : samples ≠ []) :
    table.aggregateAlone config series benchmark =
      .ok (aggregateOf config.dispersion samples
        (config.baseline.map fun baseline => table.meanOf baseline benchmark)) := by
  have divisor : (config.baseline.mapM fun baseline => table.mean baseline benchmark) =
      .ok (config.baseline.map fun baseline => table.meanOf baseline benchmark) := by
    cases asked : config.baseline with
    | none => rfl
    | some baseline =>
        have soundIn := (sound baseline asked).2 benchmark benchmarkListed
        simp [mean_of_soundIn soundIn]
  rw [aggregateAlone, divisor, samplesOrNone, declared, Option.getD_some]
  exact (aggregate_eq _ declared).trans (if_neg filled)

theorem map_benchmark_entries (table : Table) (config : ChartConfig) (series : String)
    (benchmarks : List String) :
    (benchmarks.filterMap (table.entryIn? config series)).map (·.benchmark) =
      benchmarks.filter fun benchmark => (table.samples? series benchmark).isSome := by
  induction benchmarks with
  | nil => rfl
  | cons benchmark rest ih =>
      cases declared : table.samples? series benchmark with
      | none => simp [entryIn?_eq, declared, ih]
      | some samples => simp [entryIn?_eq, declared, ih]

theorem entryIn?_of_mem_entries {entry : SummaryEntry}
    (isEntry : entry ∈ table.benchmarks.filterMap (table.entryIn? config series)) :
    entry.benchmark ∈ table.benchmarks ∧
      table.entryIn? config series entry.benchmark = some entry := by
  rcases List.mem_filterMap.mp isEntry with ⟨benchmark, listed, made⟩
  rcases benchmark_of_entryIn? made with rfl
  exact ⟨listed, made⟩

theorem exists_entry_of_get? {aggregate : Aggregate}
    (answered : summary.get? series benchmark = some aggregate) :
    ∃ result ∈ summary.results, result.name = series ∧
      ∃ entry ∈ result.entries, entry.benchmark = benchmark ∧ entry.aggregate = aggregate := by
  simp only [Summary.get?, Option.bind_eq_bind, Option.bind_eq_some_iff] at answered
  rcases answered with ⟨result, foundResult, entry, foundEntry, same⟩
  have resultNamed : result.name = series := by simpa using List.find?_some foundResult
  have entryNamed : entry.benchmark = benchmark := by simpa using List.find?_some foundEntry
  exact ⟨result, List.mem_of_find?_eq_some foundResult, resultNamed,
    entry, List.mem_of_find?_eq_some foundEntry, entryNamed, Option.some.inj same⟩

/-- A summary answers for the groups of its table and for no others. -/
theorem get?_summaryOf_eq (wellFormed : table.WellFormed) (config : ChartConfig)
    (series benchmark : String) :
    (table.summaryOf config).get? series benchmark =
      (table.entryIn? config series benchmark).map (·.aggregate) := by
  by_cases listed : series ∈ table.series ∧ benchmark ∈ table.benchmarks
  · exact get?_summaryOf config listed.1 listed.2
  · rw [entryIn?_eq, wellFormed.samples?_eq_none listed, Option.map_none, Option.map_none,
      Option.eq_none_iff_forall_ne_some]
    intro aggregate answered
    rcases exists_entry_of_get? answered with ⟨result, isResult, rfl, entry, isEntry, rfl, _⟩
    rcases List.mem_map.mp isResult with ⟨series, seriesListed, rfl⟩
    exact listed ⟨seriesListed, (entryIn?_of_mem_entries isEntry).1⟩

/-- A summary covers its table exactly. It lists the same benchmarks and the same series, a series
has one entry for each of its groups in the order of the benchmarks, and asking for a group gives
its own mean and error bar, which are also those in its entry. -/
theorem summarize_covers (reachable : table.Reachable)
    (summarized : table.summarize config = .ok summary) :
    summary.benchmarks = table.benchmarks ∧ summary.series = table.series ∧
      (∀ result ∈ summary.results,
        result.entries.map (·.benchmark) = table.benchmarks.filter (fun benchmark =>
          (table.samples? result.name benchmark).isSome) ∧
        (result.entries.map (·.benchmark)).Nodup ∧
        ∀ entry ∈ result.entries,
          (∃ samples, table.samples? result.name entry.benchmark = some samples ∧
            entry.samples = samples.length ∧ 0 < entry.samples) ∧
          summary.get? result.name entry.benchmark = some entry.aggregate) ∧
      ∀ series benchmark,
        ((summary.get? series benchmark).isSome ↔ (table.samples? series benchmark).isSome) ∧
        ∀ aggregate, summary.get? series benchmark = some aggregate →
          table.aggregateAlone config series benchmark = .ok aggregate := by
  have wellFormed := reachable.wellFormed
  have sound := hasSoundBaseline_of_summarize wellFormed.agrees summarized
  have filled := filled_of_summarize wellFormed summarized
  rcases summarize_eq_ok_iff.mp summarized with ⟨_, rfl⟩
  refine ⟨rfl, ?_, ?_, ?_⟩
  · simp [Summary.series, summaryOf, Function.comp_def]
  · intro result isResult
    rcases List.mem_map.mp isResult with ⟨series, listed, rfl⟩
    refine ⟨map_benchmark_entries table config series table.benchmarks, ?_, ?_⟩
    · rw [map_benchmark_entries]
      exact wellFormed.benchmarks_nodup.filter _
    · intro entry isEntry
      rcases entryIn?_of_mem_entries isEntry with ⟨benchmarkListed, made⟩
      rcases exists_samples_of_entry isEntry with ⟨samples, declared, size⟩
      refine ⟨⟨samples, declared, size, ?_⟩, ?_⟩
      · rw [size, List.length_pos_iff]
        rintro rfl
        exact filled series entry.benchmark declared
      · rw [get?_summaryOf config listed benchmarkListed, made, Option.map_some]
  · intro series benchmark
    rw [get?_summaryOf_eq wellFormed, entryIn?_eq]
    constructor
    · simp
    · intro aggregate answered
      cases declared : table.samples? series benchmark with
      | none => simp [declared] at answered
      | some samples =>
          have listed := wellFormed.listed_of_isSome (by rw [declared, Option.isSome_some])
          have nonempty : samples ≠ [] := by
            rintro rfl
            exact filled series benchmark declared
          rw [declared] at answered
          rw [aggregateAlone_eq sound listed.2 declared nonempty]
          exact congrArg Except.ok (Option.some.inj answered)

/-- Where a series has no group the summary has no answer, also in front of groups that it has. -/
theorem summarize_covers_sparse_table :
    ∃ table summary,
      parse .headered "a b\n# x a\n1\n# y b\n2\n# y b\n4\n" = .ok table ∧
        table.summarize .grouped = .ok summary ∧
        summary.get? "b" "x" = none ∧
        ∃ aggregate, summary.get? "b" "y" = some aggregate ∧
          table.aggregateAlone .grouped "b" "y" = .ok aggregate := by
  have groups :
      ((parse .headered "a b\n# x a\n1\n# y b\n2\n# y b\n4\n").toOption.map fun table =>
        (table.samples? "b" "x", table.samples? "b" "y",
          (table.summarize .grouped).toOption.map (·.benchmarks))) =
        some (none, some [2, 4], some ["x", "y"]) := by decide +kernel
  rcases exists_ok_of_toOption_map groups with ⟨table, parsed, seen⟩
  simp only [Prod.mk.injEq] at seen
  rcases seen with ⟨missing, declared, ofSummary⟩
  rcases exists_ok_of_toOption_map ofSummary with ⟨summary, summarized, _⟩
  have answers := (summarize_covers (.parsed parsed) summarized).2.2.2
  have present := (answers "b" "y").1.mpr (by rw [declared, Option.isSome_some])
  rcases Option.isSome_iff_exists.mp present with ⟨aggregate, answered⟩
  refine ⟨table, summary, parsed, summarized, ?_, aggregate, answered, ?_⟩
  · rw [← Option.not_isSome_iff_eq_none, (answers "b" "x").1, missing]
    simp
  · exact (answers "b" "y").2 aggregate answered

end SampleChart.Table
