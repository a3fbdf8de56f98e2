import Mathlib.Algebra.BigOperators.Group.List.Lemmas
import Mathlib.Algebra.GroupWithZero.Nat
import SampleChart.Proofs.Decimal.Places
import SampleChart.Proofs.Summary.Coverage
import SampleChart.Summary.Listing

/-!
# What a listing shows

A summary is kept series by series and shown benchmark by benchmark, and the listing finds what it
shows by asking for names. `rows` are the entries as they are kept, and the listing is told by them
alone: under a benchmark stand the rows that belong to it, in the order in which they are kept. As
no benchmark is listed twice and no series has two entries for one benchmark, the rows under all
benchmarks are all rows, each of them once. A line is spelled out in `seriesLine_eq`, and what its
numbers denote is told by `Decimal.fixed_of_finite`.
-/

namespace SampleChart

open scoped List in
/-- Items that are sorted out by distinct names are the items with one of the names. -/
theorem flatMap_filter_perm {α : Type} {name : α → String} {names : List String} {items : List α}
    (distinct : names.Nodup) :
    (names.flatMap fun key => items.filter (name · = key)).Perm
      (items.filter (name · ∈ names)) := by
  induction names with
  | nil => simp
  | cons key rest ih =>
      rcases List.nodup_cons.mp distinct with ⟨fresh, restDistinct⟩
      have ofKey : (items.filter (name · ∈ key :: rest)).filter (name · = key) =
          items.filter (name · = key) := by
        rw [List.filter_filter]
        apply List.filter_congr
        intro item _
        grind
      have ofRest : ((items.filter (name · ∈ key :: rest)).filter fun item =>
          !decide (name item = key)) = items.filter (name · ∈ rest) := by
        rw [List.filter_filter]
        apply List.filter_congr
        intro item _
        grind
      calc (key :: rest).flatMap (fun key => items.filter (name · = key))
          ~ items.filter (name · = key) ++ rest.flatMap fun key => items.filter (name · = key) := by
            rw [List.flatMap_cons]
        _ ~ items.filter (name · = key) ++ items.filter (name · ∈ rest) :=
            (ih restDistinct).append_left _
        _ ~ items.filter (name · ∈ key :: rest) := by
            rw [← ofKey, ← ofRest]
            exact List.filter_append_perm _ _

/-- A text is filled up with blanks, and a text that is long enough stays as it is. -/
theorem padRight_eq (width : Nat) (text : String) :
    padRight width text = text ++ String.ofList (List.replicate (width - text.length) ' ') := by
  rw [padRight, String.ofList_append, String.ofList_toList, String.length_toList]

theorem Aggregate.text_eq (aggregate : Aggregate) :
    aggregate.text = Decimal.fixed 4 aggregate.mean ++
      aggregate.error.elim "" fun error => " ± " ++ Decimal.fixed 4 error.upper := by
  rw [text]
  cases aggregate.error <;> simp [String.append_assoc]

namespace Summary

/-- A line has the name of a series, filled up to twenty-four characters, and the mean with four
places, followed by the upper half of the error bar if there is one. -/
theorem seriesLine_eq (series : String) (aggregate : Aggregate) :
    seriesLine series aggregate =
      series ++ String.ofList (List.replicate (24 - series.length) ' ') ++ ": " ++
        Decimal.fixed 4 aggregate.mean ++
          aggregate.error.elim "" fun error => " ± " ++ Decimal.fixed 4 error.upper := by
  rw [seriesLine, padRight_eq, Aggregate.text_eq, ← String.append_assoc]
  rfl

/-- The entries of a summary as they are kept, each with its series. -/
def rows (summary : Summary) : List (String × SummaryEntry) :=
  summary.results.flatMap fun result => result.entries.map fun entry => (result.name, entry)

/-- The rows of a benchmark. -/
def rowsIn (summary : Summary) (benchmark : String) : List (String × SummaryEntry) :=
  summary.rows.filter (·.2.benchmark = benchmark)

end Summary

namespace Table

variable {table : Table} {config : ChartConfig} {series benchmark : String} {summary : Summary}

theorem filter_entries_eq_nil {benchmarks : List String} (absent : benchmark ∉ benchmarks) :
    (benchmarks.filterMap (table.entryIn? config series)).filter (·.benchmark = benchmark) =
      [] := by
  rw [List.filter_eq_nil_iff]
  intro entry isEntry isNamed
  rcases List.mem_filterMap.mp isEntry with ⟨listed, present, made⟩
  rw [← of_decide_eq_true isNamed, benchmark_of_entryIn? made] at absent
  exact absent present

/-- Of the entries of a series one is that of a benchmark, if it has a group in it. -/
theorem filter_entries {benchmarks : List String} (distinct : benchmarks.Nodup)
    (listed : benchmark ∈ benchmarks) :
    (benchmarks.filterMap (table.entryIn? config series)).filter (·.benchmark = benchmark) =
      (table.entryIn? config series benchmark).toList := by
  rcases List.append_of_mem listed with ⟨before, after, rfl⟩
  have notBefore : benchmark ∉ before := by
    intro inBefore
    exact (List.nodup_append.mp distinct).2.2 benchmark inBefore benchmark List.mem_cons_self rfl
  have notAfter : benchmark ∉ after :=
    (List.nodup_cons.mp (List.nodup_append.mp distinct).2.1).1
  rw [List.filterMap_append, List.filter_append, filter_entries_eq_nil notBefore, List.nil_append,
    List.filterMap_cons]
  cases made : table.entryIn? config series benchmark with
  | none => exact filter_entries_eq_nil notAfter
  | some entry =>
      simp [benchmark_of_entryIn? made, filter_entries_eq_nil notAfter]

/-- The rows of a benchmark are those of the series with a group in it. -/
theorem rowsIn_summaryOf (distinct : table.benchmarks.Nodup) (config : ChartConfig)
    (listed : benchmark ∈ table.benchmarks) :
    (table.summaryOf config).rowsIn benchmark =
      table.series.filterMap fun series =>
        (table.entryIn? config series benchmark).map fun entry => (series, entry) := by
  simp only [Summary.rowsIn, Summary.rows, summaryOf, List.flatMap_map]
  induction table.series with
  | nil => rfl
  | cons series rest ih =>
      rw [List.flatMap_cons, List.filter_append, ih, List.filterMap_cons, List.filter_map]
      have own : (table.benchmarks.filterMap (table.entryIn? config series)).filter
          ((fun row : String × SummaryEntry => decide (row.2.benchmark = benchmark)) ∘
            fun entry => (series, entry)) =
          (table.entryIn? config series benchmark).toList :=
        filter_entries distinct listed
      rw [own]
      cases table.entryIn? config series benchmark <;> rfl

theorem benchmarkLines_summaryOf (distinct : table.benchmarks.Nodup) (config : ChartConfig)
    (listed : benchmark ∈ table.benchmarks) :
    (table.summaryOf config).benchmarkLines benchmark =
      ("=== " ++ benchmark ++ " ===") ::
        ((table.summaryOf config).rowsIn benchmark).map fun (series, entry) =>
          Summary.seriesLine series entry.aggregate := by
  rw [Summary.benchmarkLines, series_summaryOf, rowsIn_summaryOf distinct config listed,
    List.map_filterMap]
  congr 1
  apply List.filterMap_congr
  intro series seriesListed
  rw [get?_summaryOf config seriesListed listed, Option.map_map, Option.map_map]
  rfl

theorem any_entries_eq_isSome (listed : benchmark ∈ table.benchmarks) :
    (table.benchmarks.filterMap (table.entryIn? config series)).any (·.benchmark = benchmark) =
      (table.entryIn? config series benchmark).isSome := by
  rw [Bool.eq_iff_iff, List.any_eq_true, Option.isSome_iff_exists]
  constructor
  · rintro ⟨entry, isEntry, isNamed⟩
    rw [← of_decide_eq_true isNamed]
    exact ⟨entry, (entryIn?_of_mem_entries isEntry).2⟩
  · rintro ⟨entry, made⟩
    exact ⟨entry, List.mem_filterMap.mpr ⟨benchmark, listed, made⟩,
      decide_eq_true (benchmark_of_entryIn? made)⟩

theorem series_rowsIn_summaryOf (distinct : table.benchmarks.Nodup) (config : ChartConfig)
    (listed : benchmark ∈ table.benchmarks) :
    ((table.summaryOf config).rowsIn benchmark).map (·.1) =
      ((table.summaryOf config).results.filter fun result =>
        result.entries.any (·.benchmark = benchmark)).map (·.name) := by
  rw [rowsIn_summaryOf distinct config listed, summaryOf]
  dsimp only
  induction table.series with
  | nil => rfl
  | cons series rest ih =>
      rw [List.filterMap_cons, List.map_cons, List.filter_cons, any_entries_eq_isSome listed]
      cases table.entryIn? config series benchmark with
      | none => exact ih
      | some entry => exact congrArg (series :: ·) ih

/-- The rows under the benchmarks of a table are all rows of its summary. -/
theorem perm_rows_summaryOf (distinct : table.benchmarks.Nodup) (config : ChartConfig) :
    (table.benchmarks.flatMap (table.summaryOf config).rowsIn).Perm
      (table.summaryOf config).rows := by
  have covered : ∀ row ∈ (table.summaryOf config).rows, row.2.benchmark ∈ table.benchmarks := by
    intro row isRow
    rcases List.mem_flatMap.mp isRow with ⟨result, isResult, ofResult⟩
    rcases List.mem_map.mp isResult with ⟨series, _, rfl⟩
    rcases List.mem_map.mp ofResult with ⟨entry, isEntry, rfl⟩
    exact (entryIn?_of_mem_entries isEntry).1
  have all := List.filter_eq_self.mpr fun row isRow => decide_eq_true (covered row isRow)
  rw [← all]
  exact flatMap_filter_perm distinct

/-- The listing of a summary, line by line. A line names the baseline if there is one. Then each
benchmark has a line, and below it one for every series that has an entry in it, in the order of the
series: the name, blanks up to twenty-four characters, and the numbers of this entry. No entry is
left out, and none is shown twice or elsewhere. -/
theorem text_of_summarize (reachable : table.Reachable)
    (summarized : table.summarize config = .ok summary) :
    summary.text = String.join
      (((config.baseline.map fun baseline => "(relative to " ++ baseline ++ ")").toList ++
        table.benchmarks.flatMap fun benchmark =>
          ("=== " ++ benchmark ++ " ===") ::
            (summary.rowsIn benchmark).map fun (series, entry) =>
              series ++ String.ofList (List.replicate (24 - series.length) ' ') ++ ": " ++
                Decimal.fixed 4 entry.aggregate.mean ++
                  entry.aggregate.error.elim "" fun error =>
                    " ± " ++ Decimal.fixed 4 error.upper).map (· ++ "\n")) ∧
      (∀ benchmark ∈ table.benchmarks, (summary.rowsIn benchmark).map (·.1) =
        (summary.results.filter fun result =>
          result.entries.any (·.benchmark = benchmark)).map (·.name)) ∧
      (table.benchmarks.flatMap summary.rowsIn).Perm summary.rows ∧
      summary.lines.length = (if config.baseline.isSome then 1 else 0) + table.benchmarks.length +
        (summary.results.map (·.entries.length)).sum := by
  have distinct := reachable.wellFormed.benchmarks_nodup
  rcases summarize_eq_ok_iff.mp summarized with ⟨_, rfl⟩
  have perm := perm_rows_summaryOf distinct config
  have lines_eq : (table.summaryOf config).lines =
      (config.baseline.map fun baseline => "(relative to " ++ baseline ++ ")").toList ++
        table.benchmarks.flatMap fun benchmark =>
          ("=== " ++ benchmark ++ " ===") ::
            ((table.summaryOf config).rowsIn benchmark).map fun (series, entry) =>
              Summary.seriesLine series entry.aggregate := by
    rw [Summary.lines]
    congr 1
    apply List.flatMap_congr
    intro benchmark listed
    exact benchmarkLines_summaryOf distinct config listed
  refine ⟨?_, ?_, perm, ?_⟩
  · simp only [Summary.text, lines_eq, Summary.seriesLine_eq]
  · intro benchmark listed
    exact series_rowsIn_summaryOf distinct config listed
  · have count := perm.length_eq
    rw [Summary.rows, List.length_flatMap, List.length_flatMap] at count
    simp only [List.length_map] at count
    have headers : (table.benchmarks.map fun _ => 1).sum = table.benchmarks.length := by simp
    have relative : (config.baseline.map fun baseline =>
        "(relative to " ++ baseline ++ ")").toList.length =
          if config.baseline.isSome then 1 else 0 := by
      cases config.baseline <;> rfl
    rw [lines_eq, List.length_append, List.length_flatMap, relative]
    simp only [List.length_cons, List.length_map, List.sum_map_add, count, headers]
    omega

/-- Of two series one has no group in the first benchmark, and the markers are not in the order of
the legend. -/
theorem text_of_summarize_sparse_table :
    ∃ table summary,
      parse .headered "a b\n# x a\n1\n# y b\n2\n# y a\n4\n" = .ok table ∧
        table.summarize (.normalized "a") = .ok summary ∧
        (summary.rowsIn "x").map (·.1) = ["a"] ∧ (summary.rowsIn "y").map (·.1) = ["a", "b"] ∧
        (["x", "y"].flatMap summary.rowsIn).Perm summary.rows ∧ summary.lines.length = 6 ∧
        summary.text =
          "(relative to a)\n" ++
          "=== x ===\n" ++
          "a                       : 1.0000 ± 0.0000\n" ++
          "=== y ===\n" ++
          "a                       : 1.0000 ± 0.0000\n" ++
          "b                       : 0.5000 ± 0.0000\n" := by
  have entries :
      ((parse .headered "a b\n# x a\n1\n# y b\n2\n# y a\n4\n").toOption.map fun table =>
        (table.benchmarks, (table.summarize (.normalized "a")).toOption.map fun summary =>
          (summary.results.map (·.entries.length), ["x", "y"].map fun benchmark =>
            (summary.results.filter fun result =>
              result.entries.any (·.benchmark = benchmark)).map (·.name)))) =
        some (["x", "y"], some ([2, 1], [["a"], ["a", "b"]])) := by decide +kernel
  have shown :
      ((parse .headered "a b\n# x a\n1\n# y b\n2\n# y a\n4\n").toOption.bind fun table =>
        (table.summarize (.normalized "a")).toOption.map Summary.text) =
        some ("(relative to a)\n=== x ===\na                       : 1.0000 ± 0.0000\n" ++
          "=== y ===\na                       : 1.0000 ± 0.0000\n" ++
          "b                       : 0.5000 ± 0.0000\n") := by decide +kernel
  rcases exists_ok_of_toOption_map entries with ⟨table, parsed, seen⟩
  rcases Prod.mk.inj seen with ⟨benchmarks, ofSummary⟩
  rcases exists_ok_of_toOption_map ofSummary with ⟨summary, summarized, results⟩
  simp only [Prod.mk.injEq, List.map_cons, List.map_nil, List.cons.injEq, and_true] at results
  rcases results with ⟨lengths, ofX, ofY⟩
  rcases text_of_summarize (.parsed parsed) summarized with ⟨_, series_eq, perm, count⟩
  rw [benchmarks] at series_eq perm count
  rw [parsed, Except.toOption, Option.bind_some, summarized] at shown
  refine ⟨table, summary, parsed, summarized, ?_, ?_, perm, ?_, Option.some.inj shown⟩
  · rw [series_eq "x" (by simp), ofX]
  · rw [series_eq "y" (by simp), ofY]
  · rw [count, lengths]
    rfl

end Table

end SampleChart
