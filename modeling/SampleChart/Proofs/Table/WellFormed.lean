import Mathlib.Data.List.Nodup
import SampleChart.Proofs.Stages
import SampleChart.Table.Sum

/-!
# Well-formed tables

A table keeps its series twice, in a list and as the names of its sheets, and its benchmarks beside
the groups, and nothing in its type says that these agree. `WellFormed` says so: no name is listed
twice, the series with a sheet are those that are listed, and every group belongs to a benchmark
that is listed. Listing a name never hurts; samples need both of their names to be listed before,
since they open sheets and groups but list nothing; and a sum brings its own name along.
-/

namespace SampleChart

/-- A group is opened for a benchmark that has none. -/
theorem Group.map_benchmark_extend (benchmark : String) (samples : List Float)
    (groups : List Group) :
    (extend benchmark samples groups).map (·.benchmark) =
      if benchmark ∈ groups.map (·.benchmark) then groups.map (·.benchmark)
      else groups.map (·.benchmark) ++ [benchmark] := by
  induction groups with
  | nil => rfl
  | cons group rest ih =>
      by_cases here : group.benchmark = benchmark
      · simp [extend, here]
      · rw [extend, if_neg (by simpa using here)]
        simp only [List.map_cons, ih, List.mem_cons, Ne.symm here, false_or]
        split <;> rfl

namespace Sheet

/-- A sheet is opened for a series that has none. -/
theorem map_series_extend (series benchmark : String) (samples : List Float)
    (sheets : List Sheet) :
    (extend series benchmark samples sheets).map (·.series) =
      if series ∈ sheets.map (·.series) then sheets.map (·.series)
      else sheets.map (·.series) ++ [series] := by
  induction sheets with
  | nil => rfl
  | cons sheet rest ih =>
      by_cases here : sheet.series = series
      · simp [extend, here]
      · rw [extend, if_neg (by simpa using here)]
        simp only [List.map_cons, ih, List.mem_cons, Ne.symm here, false_or]
        split <;> rfl

/-- What extending keeps of the groups of a sheet holds of all sheets. -/
theorem forall_mem_extend (Holds : List Group → Prop) (opened : Holds []) {benchmark : String}
    {samples : List Float}
    (kept : ∀ groups, Holds groups → Holds (Group.extend benchmark samples groups))
    (series : String) {sheets : List Sheet} (all : ∀ sheet ∈ sheets, Holds sheet.groups) :
    ∀ sheet ∈ extend series benchmark samples sheets, Holds sheet.groups := by
  induction sheets with
  | nil =>
      intro sheet isNew
      rcases List.mem_singleton.mp isNew with rfl
      exact kept [] opened
  | cons first rest ih =>
      rw [List.forall_mem_cons] at all
      rw [extend]
      split
      · exact List.forall_mem_cons.mpr ⟨kept first.groups all.1, all.2⟩
      · exact List.forall_mem_cons.mpr ⟨all.1, ih all.2⟩

end Sheet

namespace Table

/-- The series that have a sheet are those that are listed. -/
def Agrees (table : Table) : Prop :=
  ∀ series, table.containsSeries series = true ↔ series ∈ table.series

/-- Every name is listed once, sheets and list agree on the series, and every group that was
declared belongs to a listed benchmark. -/
structure WellFormed (table : Table) : Prop where
  benchmarks_nodup : table.benchmarks.Nodup
  series_nodup : table.series.Nodup
  agrees : table.Agrees
  benchmark_listed : ∀ series benchmark, (table.samples? series benchmark).isSome →
    benchmark ∈ table.benchmarks

@[simp]
theorem benchmarks_addSeries (table : Table) (series : String) :
    (table.addSeries series).benchmarks = table.benchmarks := by
  rw [addSeries]
  split <;> rfl

@[simp]
theorem series_addBenchmark (table : Table) (benchmark : String) :
    (table.addBenchmark benchmark).series = table.series := by
  rw [addBenchmark]
  split <;> rfl

@[simp]
theorem sheets_addBenchmark (table : Table) (benchmark : String) :
    (table.addBenchmark benchmark).sheets = table.sheets := by
  rw [addBenchmark]
  split <;> rfl

@[simp]
theorem series_extend (table : Table) (series benchmark : String) (samples : List Float) :
    (table.extend series benchmark samples).series = table.series := rfl

@[simp]
theorem benchmarks_extend (table : Table) (series benchmark : String) (samples : List Float) :
    (table.extend series benchmark samples).benchmarks = table.benchmarks := rfl

section Sheets

variable {table : Table} {series series' : String}

theorem containsSeries_iff_mem_sheets :
    table.containsSeries series = true ↔ series ∈ table.sheets.map (·.series) := by
  simp [containsSeries]

@[simp]
theorem containsSeries_addBenchmark (table : Table) (benchmark series : String) :
    (table.addBenchmark benchmark).containsSeries series = table.containsSeries series := by
  rw [containsSeries, sheets_addBenchmark, containsSeries]

theorem containsSeries_addSeries :
    (table.addSeries series).containsSeries series' = true ↔
      table.containsSeries series' = true ∨ series' = series := by
  rw [addSeries]
  split
  next present =>
    refine ⟨Or.inl, fun either => ?_⟩
    rcases either with old | rfl
    · exact old
    · exact present
  next =>
    simp only [containsSeries_iff_mem_sheets, List.map_append, List.mem_append, List.map_cons,
      List.map_nil, List.mem_singleton]

/-- Samples open a sheet for their series, be it listed or not. -/
theorem containsSeries_extend {benchmark : String} {samples : List Float} :
    (table.extend series benchmark samples).containsSeries series' = true ↔
      table.containsSeries series' = true ∨ series' = series := by
  simp only [containsSeries_iff_mem_sheets, extend, Sheet.map_series_extend]
  split
  next present =>
    refine ⟨Or.inl, fun either => ?_⟩
    rcases either with old | rfl
    · exact old
    · exact present
  next => simp

/-- A series with a group has a sheet. -/
theorem containsSeries_of_isSome {benchmark : String}
    (declared : (table.samples? series benchmark).isSome) : table.containsSeries series = true := by
  by_contra absent
  rw [samples?, groups?_eq_none_iff.mpr (Bool.eq_false_iff.mpr absent)] at declared
  cases declared

theorem addSeries_of_contains (present : table.containsSeries series = true) :
    table.addSeries series = table := by
  rw [addSeries, if_pos present]

end Sheets

namespace Agrees

variable {table : Table} {series series' : String}

theorem empty : Table.empty.Agrees := by
  simp [Agrees, containsSeries, Table.empty]

theorem contains_eq_false_iff (agrees : table.Agrees) :
    table.containsSeries series = false ↔ series ∉ table.series := by
  rw [← Bool.not_eq_true, agrees series]

theorem mem_series_addSeries (agrees : table.Agrees) :
    series' ∈ (table.addSeries series).series ↔ series' ∈ table.series ∨ series' = series := by
  rw [Table.addSeries]
  split
  next present =>
    have listed := (agrees series).mp present
    refine ⟨Or.inl, fun either => ?_⟩
    rcases either with old | rfl
    · exact old
    · exact listed
  next => simp

theorem addSeries (agrees : table.Agrees) (series : String) : (table.addSeries series).Agrees := by
  intro series'
  rw [containsSeries_addSeries, agrees.mem_series_addSeries, agrees series']

theorem addSeries_of_mem (agrees : table.Agrees) (listed : series ∈ table.series) :
    table.addSeries series = table :=
  addSeries_of_contains ((agrees series).mpr listed)

theorem foldl_addSeries (agrees : table.Agrees) (names : List String) :
    (names.foldl Table.addSeries table).Agrees := by
  induction names generalizing table with
  | nil => exact agrees
  | cons name rest ih => exact ih (agrees.addSeries name)

theorem mem_series_foldl_addSeries (agrees : table.Agrees) {names : List String} :
    series ∈ (names.foldl Table.addSeries table).series ↔
      series ∈ table.series ∨ series ∈ names := by
  induction names generalizing table with
  | nil => simp
  | cons name rest ih =>
      rw [List.foldl_cons, ih (agrees.addSeries name), agrees.mem_series_addSeries, List.mem_cons,
        or_assoc]

theorem addBenchmark (agrees : table.Agrees) (benchmark : String) :
    (table.addBenchmark benchmark).Agrees := by
  intro series
  rw [containsSeries_addBenchmark, series_addBenchmark, agrees series]

/-- Samples of a series that is listed open no sheet that the list lacks. -/
theorem extend (agrees : table.Agrees) (listed : series ∈ table.series) (benchmark : String)
    (samples : List Float) : (table.extend series benchmark samples).Agrees := by
  intro series'
  rw [containsSeries_extend, series_extend, agrees series']
  refine ⟨fun either => ?_, Or.inl⟩
  rcases either with old | rfl
  · exact old
  · exact listed

end Agrees

@[simp]
theorem samples?_foldl_addSeries (table : Table) (names : List String) (series benchmark : String) :
    (names.foldl addSeries table).samples? series benchmark = table.samples? series benchmark := by
  induction names generalizing table with
  | nil => rfl
  | cons name rest ih => simp [ih]

namespace WellFormed

variable {table : Table}

theorem empty : Table.empty.WellFormed where
  benchmarks_nodup := List.nodup_nil
  series_nodup := List.nodup_nil
  agrees := Agrees.empty
  benchmark_listed := by simp [samples?, Sheet.groups?, Table.empty]

/-- Listing a series keeps a table well formed, also if it is listed already. -/
theorem addSeries (wellFormed : table.WellFormed) (series : String) :
    (table.addSeries series).WellFormed where
  benchmarks_nodup := by simpa using wellFormed.benchmarks_nodup
  series_nodup := by
    rw [Table.addSeries]
    split
    next => exact wellFormed.series_nodup
    next absent =>
        rw [wellFormed.agrees] at absent
        exact wellFormed.series_nodup.append (List.nodup_singleton series) (by simpa using absent)
  agrees := wellFormed.agrees.addSeries series
  benchmark_listed := by simpa using wellFormed.benchmark_listed

theorem foldl_addSeries (wellFormed : table.WellFormed) (names : List String) :
    (names.foldl Table.addSeries table).WellFormed := by
  induction names generalizing table with
  | nil => exact wellFormed
  | cons name rest ih => exact ih (wellFormed.addSeries name)

/-- Listing a benchmark keeps a table well formed, also if it is listed already. -/
theorem addBenchmark (wellFormed : table.WellFormed) (benchmark : String) :
    (table.addBenchmark benchmark).WellFormed where
  benchmarks_nodup := by
    rw [Table.addBenchmark]
    split
    next => exact wellFormed.benchmarks_nodup
    next absent =>
        exact wellFormed.benchmarks_nodup.append (List.nodup_singleton benchmark)
          (by simpa using absent)
  series_nodup := by simpa using wellFormed.series_nodup
  agrees := wellFormed.agrees.addBenchmark benchmark
  benchmark_listed series benchmark' declared := by
    rw [samples?_addBenchmark] at declared
    exact mem_benchmarks_addBenchmark.mpr
      (Or.inl (wellFormed.benchmark_listed series benchmark' declared))

/-- Samples may be added where both names are listed. -/
theorem extend (wellFormed : table.WellFormed) {series benchmark : String}
    (seriesListed : series ∈ table.series) (benchmarkListed : benchmark ∈ table.benchmarks)
    (samples : List Float) : (table.extend series benchmark samples).WellFormed where
  benchmarks_nodup := wellFormed.benchmarks_nodup
  series_nodup := wellFormed.series_nodup
  agrees := wellFormed.agrees.extend seriesListed benchmark samples
  benchmark_listed series' benchmark' declared := by
    rw [samples?_extend] at declared
    split at declared
    next here => exact here.2 ▸ benchmarkListed
    next => exact wellFormed.benchmark_listed series' benchmark' declared

/-- A group that was ever declared belongs to a listed series and a listed benchmark. -/
theorem listed_of_isSome (wellFormed : table.WellFormed) {series benchmark : String}
    (declared : (table.samples? series benchmark).isSome) :
    series ∈ table.series ∧ benchmark ∈ table.benchmarks :=
  ⟨(wellFormed.agrees series).mp (containsSeries_of_isSome declared),
    wellFormed.benchmark_listed series benchmark declared⟩

theorem samples?_eq_none (wellFormed : table.WellFormed) {series benchmark : String}
    (unlisted : ¬(series ∈ table.series ∧ benchmark ∈ table.benchmarks)) :
    table.samples? series benchmark = none := by
  apply Option.not_isSome_iff_eq_none.mp
  intro declared
  exact unlisted (wellFormed.listed_of_isSome declared)

end WellFormed

section Sums

variable {table result : Table} {name : String} {parts : List String}

/-- The groups of a sum belong to the benchmarks that it goes through, in their order. -/
theorem sublist_of_sumGroups {benchmarks : List String} {groups : List Group}
    (summed : table.sumGroups parts benchmarks = .ok groups) :
    (groups.map (·.benchmark)).Sublist benchmarks := by
  induction benchmarks generalizing groups with
  | nil =>
      simp only [sumGroups, Except.ok.injEq] at summed
      simp [← summed]
  | cons benchmark rest ih =>
      simp only [sumGroups, bind_eq_ok_iff] at summed
      rcases summed with ⟨samples, _, others, restSummed, same⟩
      have sublist := ih restSummed
      rcases Except.ok.inj same with rfl
      cases samples with
      | none => exact sublist.cons benchmark
      | some sums => exact sublist.cons_cons benchmark

/-- A sum succeeds if its name has no sheet, its parts have one, and its groups can be added up.
Then it is listed behind the others and its sheet stands behind theirs. -/
theorem withSum_eq_ok_iff :
    table.withSum name parts = .ok result ↔
      table.containsSeries name = false ∧ (∀ part ∈ parts, table.containsSeries part = true) ∧
        ∃ groups, table.sumGroups parts table.benchmarks = .ok groups ∧
          result = { table with
            series := table.series ++ [name], sheets := table.sheets ++ [⟨name, groups⟩] } := by
  rw [withSum]
  cases taken : table.containsSeries name with
  | true => simp
  | false =>
      rw [if_neg Bool.false_ne_true]
      cases missing : parts.find? fun part => !table.containsSeries part with
      | some part =>
          have absent : table.containsSeries part = false := by
            simpa using List.find?_some missing
          have present := List.mem_of_find?_eq_some missing
          simp only [reduceCtorEq, true_and, false_iff, not_and]
          intro allKnown
          simp [allKnown part present] at absent
      | none =>
          have allKnown : ∀ part ∈ parts, table.containsSeries part = true := by
            simpa using missing
          simp only [bind_eq_ok_iff, true_and]
          constructor
          · rintro ⟨groups, summed, same⟩
            exact ⟨allKnown, groups, summed, (Except.ok.inj same).symm⟩
          · rintro ⟨_, groups, summed, rfl⟩
            exact ⟨groups, summed, rfl⟩

/-- Where sheets and list agree, a sum goes by the list. -/
theorem Agrees.withSum_eq_ok_iff (agrees : table.Agrees) :
    table.withSum name parts = .ok result ↔
      name ∉ table.series ∧ (∀ part ∈ parts, part ∈ table.series) ∧
        ∃ groups, table.sumGroups parts table.benchmarks = .ok groups ∧
          result = { table with
            series := table.series ++ [name], sheets := table.sheets ++ [⟨name, groups⟩] } := by
  rw [Table.withSum_eq_ok_iff, agrees.contains_eq_false_iff]
  simp only [agrees _]

/-- A sum has its own groups, and those of the other series are as before. -/
theorem samples?_withSum {groups : List Group} (fresh : table.containsSeries name = false)
    (series benchmark : String) :
    { table with
        series := table.series ++ [name]
        sheets := table.sheets ++ [⟨name, groups⟩] : Table }.samples? series benchmark =
      if series = name then Group.samples? benchmark groups
      else table.samples? series benchmark := by
  rw [samples?, samples?, Sheet.groups?_append_singleton]
  by_cases isNew : series = name
  · rw [isNew, groups?_eq_none_iff.mpr fresh, if_pos rfl, if_pos rfl]
    rfl
  · rw [if_neg (Ne.symm isNew), if_neg isNew, Option.or_none]

theorem Agrees.withSum (agrees : table.Agrees) (summed : table.withSum name parts = .ok result) :
    result.Agrees := by
  rcases Table.withSum_eq_ok_iff.mp summed with ⟨_, _, groups, _, rfl⟩
  intro series
  have sameIff := agrees series
  simp only [containsSeries_iff_mem_sheets, List.map_append, List.mem_append] at sameIff ⊢
  rw [sameIff]
  simp

/-- A sum brings along both its name and its sheet. -/
theorem WellFormed.withSum (wellFormed : table.WellFormed)
    (summed : table.withSum name parts = .ok result) : result.WellFormed := by
  have resultAgrees := wellFormed.agrees.withSum summed
  rcases Table.withSum_eq_ok_iff.mp summed with ⟨fresh, _, groups, sums, rfl⟩
  refine ⟨wellFormed.benchmarks_nodup, ?_, resultAgrees, ?_⟩
  · have unlisted := wellFormed.agrees.contains_eq_false_iff.mp fresh
    exact wellFormed.series_nodup.append (List.nodup_singleton name) (by simpa using unlisted)
  · intro series benchmark declared
    rw [samples?_withSum fresh] at declared
    split at declared
    next =>
      rw [Group.samples?, Option.isSome_map, List.find?_isSome] at declared
      rcases declared with ⟨group, present, isNamed⟩
      have inBenchmarks := (sublist_of_sumGroups sums).subset (List.mem_map_of_mem present)
      rwa [beq_iff_eq.mp isNamed] at inBenchmarks
    next => exact wellFormed.benchmark_listed series benchmark declared

end Sums

end Table

end SampleChart
