import SampleChart.Proofs.Reading.Registers

/-!
# How a table grows

Reading a line does no more to a table than to list names and to put finite samples at the end of
groups. `Grows` says of two tables that the one comes from the other in this way. What never goes
away while a table grows, and what no growing can bring in, is proved from its constructors, and
`grows_of_readContents` says that everything that is read is such a growth.
-/

namespace SampleChart

/-- A name behind names that it is not among leaves them distinct. -/
theorem nodup_append_singleton {names : List String} (distinct : names.Nodup) (name : String) :
    (if name ∈ names then names else names ++ [name]).Nodup := by
  split
  next => exact distinct
  next absent => exact distinct.append (List.nodup_singleton name) (by simpa using absent)

namespace Table

/-- One table comes from another by listing names and by adding finite samples. -/
inductive Grows (start : Table) : Table → Prop
  | refl : Grows start start
  | addSeries {table : Table} (grows : Grows start table) (series : String) :
      Grows start (table.addSeries series)
  | addBenchmark {table : Table} (grows : Grows start table) (benchmark : String) :
      Grows start (table.addBenchmark benchmark)
  | extend {table : Table} (grows : Grows start table) (series benchmark : String)
      {samples : List Float} (finite : ∀ sample ∈ samples, sample.isFinite = true) :
      Grows start (table.extend series benchmark samples)

/-- All samples of a table are finite numbers. -/
def IsFinite (table : Table) : Prop :=
  ∀ series benchmark samples, table.samples? series benchmark = some samples →
    ∀ sample ∈ samples, sample.isFinite = true

/-- No series has two sheets, and no sheet has two groups of one benchmark. -/
structure StoresOnce (table : Table) : Prop where
  sheets_nodup : (table.sheets.map (·.series)).Nodup
  groups_nodup : ∀ sheet ∈ table.sheets, (sheet.groups.map (·.benchmark)).Nodup

theorem prefix_series_addSeries (table : Table) (series : String) :
    table.series <+: (table.addSeries series).series := by
  rw [addSeries]
  split
  · exact List.prefix_rfl
  · exact List.prefix_append _ _

theorem prefix_benchmarks_addBenchmark (table : Table) (benchmark : String) :
    table.benchmarks <+: (table.addBenchmark benchmark).benchmarks := by
  rw [addBenchmark]
  split
  · exact List.prefix_rfl
  · exact List.prefix_append _ _

namespace Grows

variable {start middle table : Table}

/-- What grows from a table that is itself grown grows from the first one. -/
theorem trans (first : start.Grows middle) (second : middle.Grows table) : start.Grows table := by
  induction second with
  | refl => exact first
  | addSeries _ series ih => exact ih.addSeries series
  | addBenchmark _ benchmark ih => exact ih.addBenchmark benchmark
  | extend _ series benchmark finite ih => exact ih.extend series benchmark finite

theorem foldl_addSeries (grows : start.Grows table) (names : List String) :
    start.Grows (names.foldl Table.addSeries table) := by
  induction names generalizing table with
  | nil => exact grows
  | cons name rest ih => exact ih (grows.addSeries name)

/-- Growing keeps the series in their order and puts new ones behind them. -/
theorem series_prefix (grows : start.Grows table) : start.series <+: table.series := by
  induction grows with
  | refl => exact List.prefix_rfl
  | addSeries _ series ih => exact ih.trans (prefix_series_addSeries _ series)
  | addBenchmark _ benchmark ih => simpa using ih
  | extend _ series benchmark finite ih => exact ih

/-- Growing keeps the benchmarks in their order and puts new ones behind them. -/
theorem benchmarks_prefix (grows : start.Grows table) :
    start.benchmarks <+: table.benchmarks := by
  induction grows with
  | refl => exact List.prefix_rfl
  | addSeries _ series ih => simpa using ih
  | addBenchmark _ benchmark ih => exact ih.trans (prefix_benchmarks_addBenchmark _ benchmark)
  | extend _ series benchmark finite ih => exact ih

/-- A group stays, and its samples stay in front. -/
theorem samples_prefix (grows : start.Grows table) {series benchmark : String}
    {samples : List Float} (declared : start.samples? series benchmark = some samples) :
    ∃ later, table.samples? series benchmark = some later ∧ samples <+: later := by
  induction grows with
  | refl => exact ⟨samples, declared, List.prefix_rfl⟩
  | addSeries _ name ih => simpa using ih
  | addBenchmark _ name ih => simpa using ih
  | extend _ name place finite ih =>
      rcases ih with ⟨later, present, front⟩
      rw [samples?_extend]
      split
      next here =>
          rcases here with ⟨rfl, rfl⟩
          rw [samplesOrNone, present, Option.getD_some]
          exact ⟨_, rfl, front.trans (List.prefix_append later _)⟩
      next => exact ⟨later, present, front⟩

/-- Growing brings no sample in that is not finite. -/
theorem isFinite (grows : start.Grows table) (finite : start.IsFinite) : table.IsFinite := by
  induction grows with
  | refl => exact finite
  | addSeries _ name ih => simpa [IsFinite] using ih
  | addBenchmark _ name ih => simpa [IsFinite] using ih
  | @extend table _ name place added isFinite ih =>
      intro series benchmark samples declared
      rw [samples?_extend] at declared
      split at declared
      next here =>
          rcases here with ⟨rfl, rfl⟩
          rcases Option.some.inj declared with rfl
          intro sample present
          rcases List.mem_append.mp present with old | new
          · cases before : table.samples? series benchmark with
            | none => simp [samplesOrNone, before] at old
            | some samples =>
                rw [samplesOrNone, before, Option.getD_some] at old
                exact ih series benchmark samples before sample old
          · exact isFinite sample new
      next => exact ih series benchmark samples declared

/-- No series has two sheets, and no benchmark two groups in a sheet. -/
theorem storesOnce (grows : start.Grows table) (once : start.StoresOnce) : table.StoresOnce := by
  induction grows with
  | refl => exact once
  | @addSeries table _ name ih =>
      rw [Table.addSeries]
      split
      next => exact ih
      next absent =>
        rw [containsSeries_iff_mem_sheets] at absent
        refine ⟨?_, ?_⟩
        · rw [List.map_append]
          exact ih.sheets_nodup.append (List.nodup_singleton name) (by simpa using absent)
        · exact List.forall_mem_append.mpr ⟨ih.groups_nodup, by simp⟩
  | @addBenchmark table _ name ih => exact ⟨by simpa using ih.1, by simpa using ih.2⟩
  | @extend table _ name place samples finite ih =>
      constructor
      case sheets_nodup =>
        rw [Table.extend, Sheet.map_series_extend]
        exact nodup_append_singleton ih.sheets_nodup name
      case groups_nodup =>
        refine Sheet.forall_mem_extend (fun groups => (groups.map (·.benchmark)).Nodup)
          List.nodup_nil ?_ name ih.groups_nodup
        intro groups distinct
        rw [Group.map_benchmark_extend]
        exact nodup_append_singleton distinct place

end Grows

end Table

namespace Reading

variable {reading result : Reading}

theorem grows_addRoles (reading : Reading) : reading.table.Grows reading.addRoles.table := by
  simp only [addRoles]
  split
  · exact Table.Grows.refl.foldl_addSeries Layout.roles
  · exact .refl

theorem grows_settle (reading : Reading) (fields : List String) :
    reading.table.Grows (reading.settle fields).table := by
  simp only [settle]
  split
  · exact grows_addRoles { reading with layout := Layout.detect fields }
  · exact .refl

/-- Every line that is read grows the table. -/
theorem Reads.grows {line : String} (reads : Reads reading line result) :
    reading.table.Grows result.table := by
  cases reads with
  | legend awaits isOther present notNumber => exact Table.Grows.refl.foldl_addSeries _
  | keyedMarker keyed isMarker => exact Table.Grows.refl.addBenchmark _
  | namedMarker notKeyed ready isMarker known =>
      exact (Table.Grows.refl.addBenchmark _).extend _ _ (by simp)
  | keyedSample keyed isOther placed split isNumber finite =>
      exact (Table.Grows.refl.addSeries _).extend _ _ (by simpa using finite)
  | namedSample notKeyed ready isOther placed named isNumber finite =>
      exact (Table.Grows.refl.addSeries _).extend _ _ (by simpa using finite)

/-- A table grows with all the lines that are read. -/
theorem grows_of_readContents {lines : List String}
    (read : reading.readContents lines = .ok result) : reading.table.Grows result.table := by
  refine holds_of_readContents (fun _ next => reading.table.Grows next.table) ?_ .refl read
  intro earlier before line next grows step
  have reads := readContent_eq_ok_iff.mp step
  exact (grows.trans (grows_settle before _)).trans reads.grows

theorem grows_of_readLines {number : Nat} {lines : List (Option String)}
    (read : reading.readLines number lines = .ok result) : reading.table.Grows result.table := by
  rcases exists_texts_of_readLines read with ⟨texts, rfl⟩
  exact grows_of_readContents (readLines_eq_ok_iff.mp read)

end Reading

/-- Whatever a text gives is grown from nothing. -/
theorem Table.grows_of_ofLines {layout : Layout} {lines : List (Option String)} {table : Table}
    (read : ofLines layout lines = .ok table) : Table.empty.Grows table := by
  rw [ofLines, map_eq_ok_iff] at read
  rcases read with ⟨reading, read, rfl⟩
  exact (Reading.grows_addRoles _).trans (Reading.grows_of_readLines read)

end SampleChart
