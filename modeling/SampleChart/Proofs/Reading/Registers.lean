import SampleChart.Proofs.Reading.Step
import SampleChart.Proofs.Table.WellFormed

/-!
# The registers of a reading

Besides its table a reading keeps the layout, whether the legend was read, and the benchmark and the
series of the last marker. `Coherent` is what ties these five together in every layout, also while
the choice of a layout is still open. It holds at the start, settling the layout keeps it, and so
does every line that can be read.

`Follows` relates a reading to the lines before it: the registers spell out the last marker, and
behind the legend of a headered file the listed series are the fields of that legend.
-/

namespace SampleChart.Reading

/-- What holds between the layout, the registers and the table of every reading. -/
structure Coherent (reading : Reading) : Prop where
  table_wellFormed : reading.table.WellFormed
  series_eq_none : reading.layout = .keyed → reading.series = none
  isSome_series : reading.layout ≠ .keyed → reading.series.isSome = reading.benchmark.isSome
  benchmark_listed : ∀ benchmark ∈ reading.benchmark, benchmark ∈ reading.table.benchmarks
  series_listed : ∀ series ∈ reading.series, series ∈ reading.table.series
  group_declared : ∀ series ∈ reading.series, ∀ benchmark ∈ reading.benchmark,
    (reading.table.samples? series benchmark).isSome
  roles_listed : reading.layout = .headerless → ∀ role ∈ Layout.roles, role ∈ reading.table.series
  /-- Nothing is known before the layout is settled and the legend, if there is one, is read. -/
  untouched : reading.layout = .auto ∨ reading.AwaitsLegend →
    reading.table = .empty ∧ reading.benchmark = none

theorem detect_ne_auto (fields : List String) : Layout.detect fields ≠ .auto := by
  rcases fields with _ | ⟨first, rest⟩
  · simp [Layout.detect]
  · simp only [Layout.detect]
    split
    · split <;> simp
    · simp

theorem layout_addRoles (reading : Reading) : reading.addRoles.layout = reading.layout := by
  simp only [addRoles]
  split <;> rfl

theorem layout_settle_ne_auto (reading : Reading) (fields : List String) :
    (reading.settle fields).layout ≠ .auto := by
  cases layout : reading.layout with
  | auto => simpa [settle, layout, layout_addRoles] using detect_ne_auto fields
  | headerless => simp [settle, layout]
  | headered => simp [settle, layout]
  | keyed => simp [settle, layout]

theorem coherent_addRoles {reading : Reading} (noTable : reading.table = .empty)
    (noBenchmark : reading.benchmark = none) (noSeries : reading.series = none) :
    reading.addRoles.Coherent := by
  by_cases headerless : reading.layout = .headerless
  · have roles : reading.addRoles =
        { reading with table := Layout.roles.foldl Table.addSeries .empty } := by
      simp [addRoles, headerless, noTable]
    rw [roles]
    constructor
    case table_wellFormed => exact Table.WellFormed.empty.foldl_addSeries Layout.roles
    case roles_listed =>
        intro _ role isRole
        exact Table.Agrees.empty.mem_series_foldl_addSeries.mpr (Or.inr isRole)
    all_goals simp [noBenchmark, noSeries, headerless, AwaitsLegend]
  · have unchanged : reading.addRoles = reading := by
      simp only [addRoles]
    rw [unchanged]
    constructor
    case table_wellFormed => exact noTable ▸ Table.WellFormed.empty
    all_goals simp [noTable, noBenchmark, noSeries, headerless]

theorem coherent_start (layout : Layout) : (start layout).Coherent :=
  coherent_addRoles rfl rfl rfl

theorem Coherent.settle {reading : Reading} (coherent : reading.Coherent) (fields : List String) :
    (reading.settle fields).Coherent := by
  by_cases settled : reading.layout = .auto
  · rcases coherent.untouched (Or.inl settled) with ⟨noTable, noBenchmark⟩
    have noSeries : reading.series = none := by
      simpa [settled, noBenchmark] using coherent.isSome_series
    simp only [Reading.settle, settled]
    exact coherent_addRoles noTable noBenchmark noSeries
  · rw [settle_of_ne_auto settled]
    exact coherent

/-- A marker may name only series that are listed. -/
theorem Coherent.listed_of_knows {reading : Reading} (coherent : reading.Coherent)
    {series : String} (known : reading.Knows series) : series ∈ reading.table.series := by
  cases layout : reading.layout with
  | headerless => exact coherent.roles_listed layout series (by simpa [Knows, layout] using known)
  | _ =>
      apply (coherent.table_wellFormed.agrees series).mp
      simpa [Knows, layout] using known

/-- Every line that can be read keeps the registers and the table together. -/
theorem Reads.coherent {reading result : Reading} {line : String}
    (reads : Reads reading line result) (settled : reading.layout ≠ .auto)
    (coherent : reading.Coherent) : result.Coherent := by
  cases reads with
  | legend awaits isOther present notNumber =>
      rcases coherent.untouched (Or.inr awaits) with ⟨_, noBenchmark⟩
      have noSeries : reading.series = none := by
        simpa [awaits.1, noBenchmark] using coherent.isSome_series
      constructor
      case table_wellFormed => exact coherent.table_wellFormed.foldl_addSeries _
      all_goals simp [noBenchmark, noSeries, awaits.1, AwaitsLegend]
  | @keyedMarker benchmark keyed isMarker =>
      constructor
      case table_wellFormed => exact coherent.table_wellFormed.addBenchmark benchmark
      case benchmark_listed => simp [Table.mem_benchmarks_addBenchmark]
      all_goals simp [keyed, AwaitsLegend]
  | @namedMarker benchmark series notKeyed ready isMarker known =>
      have listed := coherent.listed_of_knows known
      constructor
      case table_wellFormed =>
          exact (coherent.table_wellFormed.addBenchmark benchmark).extend (by simpa using listed)
            (Table.mem_benchmarks_addBenchmark.mpr (Or.inr rfl)) []
      case benchmark_listed => simp [Table.mem_benchmarks_addBenchmark]
      case group_declared => simp [Table.samples?_extend]
      case roles_listed => simpa using coherent.roles_listed
      case untouched =>
          rintro (isOpen | awaits)
          · exact absurd isOpen settled
          · exact absurd awaits ready
      all_goals simp [notKeyed, listed]
  | @keyedSample benchmark series number value keyed isOther placed split isNumber finite =>
      have listed := coherent.benchmark_listed benchmark placed
      constructor
      case table_wellFormed =>
          exact (coherent.table_wellFormed.addSeries series).extend
            (coherent.table_wellFormed.agrees.mem_series_addSeries.mpr (Or.inr rfl))
            (by simpa using listed) [value]
      case series_eq_none => exact coherent.series_eq_none
      case benchmark_listed => simpa using coherent.benchmark_listed
      all_goals simp [keyed, coherent.series_eq_none keyed, AwaitsLegend]
  | @namedSample benchmark series value notKeyed ready isOther placed named isNumber finite =>
      have benchmarkListed := coherent.benchmark_listed benchmark placed
      have seriesListed := coherent.series_listed series named
      rw [coherent.table_wellFormed.agrees.addSeries_of_mem seriesListed]
      constructor
      case table_wellFormed =>
          exact coherent.table_wellFormed.extend seriesListed benchmarkListed [value]
      case isSome_series => exact coherent.isSome_series
      case benchmark_listed => exact coherent.benchmark_listed
      case series_listed => exact coherent.series_listed
      case group_declared => simp [Table.samples?_extend, placed, named]
      case roles_listed => exact coherent.roles_listed
      case untouched =>
          rintro (isOpen | awaits)
          · exact absurd isOpen settled
          · exact absurd awaits ready
      case series_eq_none => exact coherent.series_eq_none

theorem coherent_of_readContents {layout : Layout} {lines : List String} {result : Reading}
    (read : (start layout).readContents lines = .ok result) : result.Coherent := by
  refine holds_of_readContents (fun _ reading => Coherent reading) ?_ (coherent_start layout) read
  intro earlier reading line next coherent step
  have reads := readContent_eq_ok_iff.mp step
  exact reads.coherent (layout_settle_ne_auto reading _) (coherent.settle _)

/-- The lines before a reading, in a layout that is settled from the start, show in it: its
registers spell out the last marker, and the series listed behind a legend are its fields. -/
structure Follows (layout : Layout) (earlier : List String) (reading : Reading) : Prop where
  coherent : reading.Coherent
  layout_eq : reading.layout = layout
  lastMarker_eq :
    Line.lastMarker? earlier = reading.benchmark.map fun benchmark =>
      benchmark :: reading.series.toList
  legendRead_iff : layout = .headered → (reading.legendRead = true ↔ earlier ≠ [])
  series_iff : layout = .headered → ∀ legend ∈ earlier.head?, ∀ series,
    series ∈ reading.table.series ↔ series ∈ Text.fields legend

theorem layout_start (layout : Layout) : (start layout).layout = layout :=
  layout_addRoles _

theorem follows_start (layout : Layout) : (start layout).Follows layout [] where
  coherent := coherent_start layout
  layout_eq := layout_start layout
  lastMarker_eq := by
    cases layout <;> simp [start, addRoles, Line.lastMarker?]
  legendRead_iff := by
    rintro rfl
    simp [start, addRoles]
  series_iff := by simp

theorem Reads.layout_eq {reading result : Reading} {line : String}
    (reads : Reads reading line result) : result.layout = reading.layout := by
  cases reads <;> rfl

theorem Follows.awaitsLegend_iff {layout : Layout} {earlier : List String} {reading : Reading}
    (follows : reading.Follows layout earlier) :
    reading.AwaitsLegend ↔ layout = .headered ∧ earlier = [] := by
  rw [AwaitsLegend, follows.layout_eq]
  apply and_congr_right
  intro headered
  have legend := follows.legendRead_iff headered
  cases read : reading.legendRead <;> simp_all

/-- Behind the legend a line leaves what is known of the legend as it is. -/
theorem Follows.append_of_ready {layout : Layout} {earlier : List String} {line : String}
    {reading result : Reading} (follows : reading.Follows layout earlier)
    (ready : ¬reading.AwaitsLegend) (coherent : result.Coherent)
    (sameLayout : result.layout = reading.layout)
    (sameLegend : result.legendRead = reading.legendRead)
    (sameSeries : layout = .headered → result.table.series = reading.table.series)
    (lastMarker : (Line.marker? line).or (Line.lastMarker? earlier) =
      result.benchmark.map fun benchmark => benchmark :: result.series.toList) :
    result.Follows layout (earlier ++ [line]) := by
  have known : layout = .headered → earlier ≠ [] := by
    intro headered none_earlier
    exact ready (follows.awaitsLegend_iff.mpr ⟨headered, none_earlier⟩)
  refine ⟨coherent, sameLayout.trans follows.layout_eq, ?_, ?_, ?_⟩
  · rw [Line.lastMarker?_append_singleton, lastMarker]
  · intro headered
    simp [sameLegend, follows.legendRead_iff headered, known headered]
  · intro headered legend isFirst series
    rw [List.head?_append_of_ne_nil _ (known headered)] at isFirst
    rw [sameSeries headered]
    exact follows.series_iff headered legend isFirst series

/-- Every line that can be read shows in the reading behind it. -/
theorem Follows.append_of_reads {layout : Layout} {earlier : List String} {line : String}
    {reading result : Reading} (follows : reading.Follows layout earlier)
    (explicit : layout ≠ .auto) (reads : Reads reading line result) :
    result.Follows layout (earlier ++ [line]) := by
  have layout_eq := follows.layout_eq
  have settled : reading.layout ≠ .auto := layout_eq ▸ explicit
  have coherent := reads.coherent settled follows.coherent
  have lastMarker := follows.lastMarker_eq
  cases reads with
  | legend awaits isOther present notNumber =>
      rcases follows.awaitsLegend_iff.mp awaits with ⟨headered, none_earlier⟩
      rcases follows.coherent.untouched (Or.inr awaits) with ⟨noTable, _⟩
      refine ⟨coherent, layout_eq, ?_, ?_, ?_⟩
      · rw [Line.lastMarker?_append_singleton, isOther, Option.none_or, lastMarker]
      · simp
      · intro _ legend isFirst series
        have same : line = legend := by simpa [none_earlier] using isFirst
        subst line
        have agrees : reading.table.Agrees := noTable ▸ Table.Agrees.empty
        rw [agrees.mem_series_foldl_addSeries, noTable]
        simp [Table.empty]
  | keyedMarker keyed isMarker =>
      apply follows.append_of_ready _ coherent rfl rfl
      · simp [← layout_eq, keyed]
      · simp [isMarker]
      · simp [AwaitsLegend, keyed]
  | namedMarker notKeyed ready isMarker known =>
      apply follows.append_of_ready ready coherent rfl rfl
      · simp
      · simp [isMarker]
  | keyedSample keyed isOther placed split isNumber finite =>
      apply follows.append_of_ready _ coherent rfl rfl
      · simp [← layout_eq, keyed]
      · simp [isOther, lastMarker]
      · simp [AwaitsLegend, keyed]
  | namedSample notKeyed ready isOther placed named isNumber finite =>
      apply follows.append_of_ready ready coherent rfl rfl
      · have agrees := follows.coherent.table_wellFormed.agrees
        simp [agrees.addSeries_of_mem (follows.coherent.series_listed _ named)]
      · simp [isOther, lastMarker]

/-- In a layout that is settled from the start, a line is read exactly along `Reads`. -/
theorem Follows.readContent_eq_ok_iff {layout : Layout} {earlier : List String} {line : String}
    {reading result : Reading} (follows : reading.Follows layout earlier)
    (explicit : layout ≠ .auto) :
    reading.readContent (Text.trim line) = .ok result ↔ Reads reading line result := by
  rw [Reading.readContent_eq_ok_iff, settle_of_ne_auto (follows.layout_eq ▸ explicit)]

/-- What every line keeps of a reading that follows the lines before it holds after a run. -/
theorem follows_and_holds_of_readContents {layout : Layout} {lines : List String} {result : Reading}
    (explicit : layout ≠ .auto) (Holds : List String → Reading → Prop)
    (preserved : ∀ earlier reading line next, reading.Follows layout earlier →
      Holds earlier reading → reading.Reads line next → Holds (earlier ++ [line]) next)
    (atStart : Holds [] (start layout))
    (read : (start layout).readContents lines = .ok result) :
    result.Follows layout lines ∧ Holds lines result := by
  refine holds_of_readContents
    (fun lines reading => Follows layout lines reading ∧ Holds lines reading) ?_
    ⟨follows_start layout, atStart⟩ read
  rintro earlier reading line next ⟨follows, holds⟩ step
  have reads := (follows.readContent_eq_ok_iff explicit).mp step
  exact ⟨follows.append_of_reads explicit reads,
    preserved earlier reading line next follows holds reads⟩

end SampleChart.Reading
