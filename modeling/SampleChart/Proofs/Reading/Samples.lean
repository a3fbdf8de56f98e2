import SampleChart.Proofs.Reading.Registers

/-!
# The samples of a parsed table

A table that is parsed from a text in one of the three layouts stores exactly what the lines of the
text say. A group is declared exactly if the lines declare it, and its samples are the values of the
numbers that the lines place in it, one by one and in the order of the lines. `Records` says this of
a table and the lines read so far; a marker declares at most one group, and a sample goes to the end
of one group and leaves all others as they are.
-/

namespace SampleChart

namespace Line

/-- Some lines declare a group: a marker names it or, in the keyed layout, a sample belongs to
it. -/
def Declares (layout : Layout) (lines : List String) (series benchmark : String) : Prop :=
  match layout with
  | .keyed => ∃ earlier line number, (earlier, line) ∈ withEarlier lines ∧ marker? line = none ∧
      lastMarker? earlier = some [benchmark] ∧ Text.fields line = [series, number]
  | _ => ∃ line ∈ lines, marker? line = some [benchmark, series]

variable {layout : Layout} {lines : List String} {line series benchmark : String}

theorem declares_named_iff (notKeyed : layout ≠ .keyed) :
    Declares layout lines series benchmark ↔
      ∃ line ∈ lines, marker? line = some [benchmark, series] := by
  cases layout <;> first | rfl | exact absurd rfl notKeyed

theorem declares_append_singleton_named_iff (notKeyed : layout ≠ .keyed) :
    Declares layout (lines ++ [line]) series benchmark ↔
      Declares layout lines series benchmark ∨ marker? line = some [benchmark, series] := by
  simp only [declares_named_iff notKeyed, List.mem_append, List.mem_singleton, or_and_right,
    exists_or, exists_eq_left]

theorem declares_append_singleton_keyed_iff :
    Declares .keyed (lines ++ [line]) series benchmark ↔
      Declares .keyed lines series benchmark ∨
        marker? line = none ∧ lastMarker? lines = some [benchmark] ∧
          ∃ number, Text.fields line = [series, number] := by
  simp only [Declares, mem_withEarlier_append_singleton, or_and_right, exists_or]
  apply or_congr_right
  constructor
  · rintro ⟨_, _, number, ⟨rfl, rfl⟩, isOther, last, split⟩
    exact ⟨isOther, last, number, split⟩
  · rintro ⟨isOther, last, number, split⟩
    exact ⟨_, _, number, ⟨rfl, rfl⟩, isOther, last, split⟩

theorem declares_of_lastMarker (notKeyed : layout ≠ .keyed)
    (last : lastMarker? lines = some [benchmark, series]) :
    Declares layout lines series benchmark := by
  have present := List.mem_of_getLast? last
  rcases List.mem_filterMap.mp present with ⟨line, member, isMarker⟩
  exact (declares_named_iff notKeyed).mpr ⟨line, member, isMarker⟩

theorem number?_of_place {earlier : List String} {number : String}
    (place : place? layout earlier line = some (series, benchmark, number))
    (series' benchmark' : String) :
    number? layout series' benchmark' earlier line =
      if series' = series ∧ benchmark' = benchmark then some number else none := by
  simp only [number?, place, eq_comm]

theorem place?_keyed {earlier : List String} {number : String} (isOther : marker? line = none)
    (last : lastMarker? earlier = some [benchmark]) (split : Text.fields line = [series, number]) :
    place? .keyed earlier line = some (series, benchmark, number) := by
  simp [place?, isOther, last, split]

theorem place?_named {earlier : List String} (notKeyed : layout ≠ .keyed)
    (isOther : marker? line = none) (last : lastMarker? earlier = some [benchmark, series]) :
    place? layout earlier line = some (series, benchmark, Text.trim line) := by
  cases layout <;> simp_all [place?]

theorem place?_of_marker {earlier rest : List String} (isMarker : marker? line = some rest) :
    place? layout earlier line = none := by
  simp [place?, isMarker]

theorem place?_of_lastMarker_none {earlier : List String} (noMarker : lastMarker? earlier = none) :
    place? layout earlier line = none := by
  cases isOther : marker? line <;> cases layout <;> simp [place?, isOther, noMarker]

end Line

namespace Table

/-- A table stores what some lines say: it has the groups that they declare, with the values of the
numbers that they place there. Apart from the legend, every line that is no marker has a place. -/
structure Records (layout : Layout) (lines : List String) (table : Table) : Prop where
  isSome_iff : ∀ series benchmark,
    (table.samples? series benchmark).isSome ↔ Line.Declares layout lines series benchmark
  numbers_eq : ∀ series benchmark,
    (Line.numbers layout lines series benchmark).map Decimal.float? =
      (table.samplesOrNone series benchmark).map some
  isSome_place : ∀ earlier line, (earlier, line) ∈ Line.withEarlier lines →
    Line.marker? line = none → (layout = .headered → earlier ≠ []) →
      (Line.place? layout earlier line).isSome

variable {layout : Layout} {lines : List String} {line : String} {table result : Table}

/-- A line that places nothing declares the groups that are new and leaves the samples. -/
theorem Records.append_of_place_none (records : table.Records layout lines)
    (noPlace : Line.place? layout lines line = none)
    (noSample : Line.marker? line = none → layout = .headered ∧ lines = [])
    (samples_eq : ∀ series benchmark,
      result.samplesOrNone series benchmark = table.samplesOrNone series benchmark)
    (isSome_iff : ∀ series benchmark, (result.samples? series benchmark).isSome ↔
      Line.Declares layout (lines ++ [line]) series benchmark) :
    result.Records layout (lines ++ [line]) := by
  refine ⟨isSome_iff, ?_, ?_⟩
  · intro series benchmark
    rw [Line.numbers_append_singleton, Line.number?, noPlace]
    simp [records.numbers_eq, samples_eq]
  · intro earlier other present isOther notLegend
    rcases Line.mem_withEarlier_append_singleton.mp present with old | ⟨rfl, rfl⟩
    · exact records.isSome_place earlier other old isOther notLegend
    · rcases noSample isOther with ⟨headered, none_earlier⟩
      exact absurd none_earlier (notLegend headered)

/-- A sample goes to the end of its group. -/
theorem Records.append_of_place {series benchmark number : String} {value : Float}
    (records : table.Records layout lines)
    (place : Line.place? layout lines line = some (series, benchmark, number))
    (isNumber : Decimal.float? number = some value)
    (declares_iff : ∀ series' benchmark',
      Line.Declares layout (lines ++ [line]) series' benchmark' ↔
        Line.Declares layout lines series' benchmark' ∨
          series' = series ∧ benchmark' = benchmark) :
    ((table.addSeries series).extend series benchmark [value]).Records layout
      (lines ++ [line]) := by
  constructor
  · intro series' benchmark'
    rw [declares_iff, ← records.isSome_iff, samples?_extend]
    by_cases here : series' = series ∧ benchmark' = benchmark <;> simp [here]
  · intro series' benchmark'
    rw [Line.numbers_append_singleton, Line.number?_of_place place, List.map_append,
      records.numbers_eq]
    simp only [samplesOrNone, samples?_extend]
    by_cases here : series' = series ∧ benchmark' = benchmark
    · rcases here with ⟨rfl, rfl⟩
      simp [isNumber]
    · simp [here]
  · intro earlier other present isOther notLegend
    rcases Line.mem_withEarlier_append_singleton.mp present with old | ⟨rfl, rfl⟩
    · exact records.isSome_place earlier other old isOther notLegend
    · simp [place]

/-- Every line that can be read keeps the table a record of the lines. -/
theorem Records.append_of_reads {reading next : Reading} (explicit : layout ≠ .auto)
    (follows : reading.Follows layout lines) (records : reading.table.Records layout lines)
    (reads : reading.Reads line next) : next.table.Records layout (lines ++ [line]) := by
  have lastMarker := follows.lastMarker_eq
  have layout_eq := follows.layout_eq
  have isSome_iff := records.isSome_iff
  cases reads with
  | legend awaits isOther present notNumber =>
      rcases follows.awaitsLegend_iff.mp awaits with ⟨headered, rfl⟩
      apply records.append_of_place_none (Line.place?_of_lastMarker_none rfl)
      · exact fun _ => ⟨headered, rfl⟩
      · simp [samplesOrNone]
      · intro series benchmark
        rw [Line.declares_append_singleton_named_iff (by simp [headered]), isOther]
        simpa using isSome_iff series benchmark
  | keyedMarker keyed isMarker =>
      rcases layout_eq.symm.trans keyed with rfl
      apply records.append_of_place_none (Line.place?_of_marker isMarker)
      · simp [isMarker]
      · simp [samplesOrNone]
      · intro series benchmark
        rw [Line.declares_append_singleton_keyed_iff, isMarker]
        simpa using isSome_iff series benchmark
  | @namedMarker benchmark series notKeyed ready isMarker known =>
      rw [layout_eq] at notKeyed
      apply records.append_of_place_none (Line.place?_of_marker isMarker)
      · simp [isMarker]
      · intro series' benchmark'
        by_cases here : series' = series ∧ benchmark' = benchmark <;>
          simp [samplesOrNone, samples?_extend, here]
      · intro series' benchmark'
        rw [Line.declares_append_singleton_named_iff notKeyed, isMarker, ← isSome_iff,
          samples?_extend]
        by_cases here : series' = series ∧ benchmark' = benchmark
        · simp [here]
        · have other : ¬(benchmark = benchmark' ∧ series = series') := by
            rintro ⟨rfl, rfl⟩
            exact here ⟨rfl, rfl⟩
          simp [here, other]
  | @keyedSample benchmark series number value keyed isOther placed split isNumber finite =>
      rcases layout_eq.symm.trans keyed with rfl
      rw [placed, follows.coherent.series_eq_none keyed] at lastMarker
      apply records.append_of_place (Line.place?_keyed isOther lastMarker split) isNumber
      intro series' benchmark'
      rw [Line.declares_append_singleton_keyed_iff, lastMarker, split]
      simp [isOther, eq_comm, and_comm]
  | @namedSample benchmark series value notKeyed ready isOther placed named isNumber finite =>
      rw [layout_eq] at notKeyed
      rw [placed, named] at lastMarker
      apply records.append_of_place (Line.place?_named notKeyed isOther lastMarker) isNumber
      intro series' benchmark'
      rw [Line.declares_append_singleton_named_iff notKeyed, isOther]
      simp only [reduceCtorEq, or_false, iff_self_or]
      rintro ⟨rfl, rfl⟩
      exact Line.declares_of_lastMarker notKeyed lastMarker

theorem records_start (layout : Layout) : (Reading.start layout).table.Records layout [] := by
  have nothing : ∀ series benchmark,
      (Reading.start layout).table.samples? series benchmark = none := by
    intro series benchmark
    cases layout with
    | headerless => exact samples?_foldl_addSeries _ _ series benchmark
    | _ => rfl
  constructor
  · intro series benchmark
    rw [nothing]
    cases layout <;> simp [Line.Declares]
  · intro series benchmark
    simp [samplesOrNone, nothing, Line.numbers]
  · simp

/-- What is read of a text in a layout that is settled from the start follows its lines. -/
theorem follows_of_readContents {reading : Reading} (explicit : layout ≠ .auto)
    (read : (Reading.start layout).readContents lines = .ok reading) :
    reading.Follows layout lines ∧ reading.table.Records layout lines := by
  refine Reading.follows_and_holds_of_readContents explicit
    (fun lines reading => Records layout lines reading.table) ?_ (records_start layout) read
  intro earlier before line next follows records reads
  exact records.append_of_reads explicit follows reads

/-- A parsed table stores exactly what the text says. A group is there if and only if the lines
declare it, its samples are the values of its numbers in the order of the lines, and no sample line
is without a group. -/
theorem samples?_of_parse {text : String} (explicit : layout ≠ .auto)
    (parsed : parse layout text = .ok table) :
    (∀ series benchmark,
      ((table.samples? series benchmark).isSome ↔
        Line.Declares layout (Line.contents text) series benchmark) ∧
      ∀ samples, table.samples? series benchmark = some samples →
        (Line.numbers layout (Line.contents text) series benchmark).map Decimal.float? =
          samples.map some) ∧
    ∀ earlier line later, Line.contents text = earlier ++ line :: later →
      Line.marker? line = none → (layout = .headered → earlier ≠ []) →
        (Line.place? layout earlier line).isSome := by
  rcases parse_eq_ok_iff.mp parsed with ⟨reading, read, rfl⟩
  rcases follows_of_readContents explicit read with ⟨_, records⟩
  constructor
  · intro series benchmark
    refine ⟨records.isSome_iff series benchmark, ?_⟩
    intro samples declared
    rw [records.numbers_eq, samplesOrNone, declared, Option.getD_some]
  · intro earlier line later cut
    exact records.isSome_place earlier line (Line.mem_withEarlier_iff.mpr ⟨later, cut⟩)

/-- A marker that comes again goes on where its group was left. -/
theorem samples?_of_repeated_marker :
    ∃ table, parse .headerless "# b offset\n1\n# b native\n2\n# b offset\n3\n" = .ok table ∧
      table.samples? "offset" "b" = some [1, 3] ∧
      (Line.numbers .headerless
          (Line.contents "# b offset\n1\n# b native\n2\n# b offset\n3\n") "offset" "b").map
        Decimal.float? = [some 1, some 3] := by
  have offsets :
      ((parse .headerless "# b offset\n1\n# b native\n2\n# b offset\n3\n").toOption.map
        fun table => table.samples? "offset" "b") = some (some [1, 3]) := by decide +kernel
  rcases exists_ok_of_toOption_map offsets with ⟨table, parsed, declared⟩
  exact ⟨table, parsed, declared,
    ((samples?_of_parse (by simp) parsed).1 "offset" "b").2 [1, 3] declared⟩

end Table

end SampleChart
