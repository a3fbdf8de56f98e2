import SampleChart.Proofs.Reading.Lines
import SampleChart.Proofs.Stages
import SampleChart.Table.Reading

/-!
# Steps of a reading

The relation `Reads` tells the five things that a line can do to a reading whose layout is settled:
it is the legend, a marker with or without a series, or a sample with or without a series of its
own. `readContent_eq_ok_iff` says that a line is read exactly along this relation, and
`readLines_eq_ok_iff` that reading the lines of a text is a fold over those that are not blank. All
that follows about readings is proved from these two and opens no reader again.
-/

namespace SampleChart.Reading

/-- The next line is the legend. -/
def AwaitsLegend (reading : Reading) : Prop :=
  reading.layout = .headered ∧ reading.legendRead = false

/-- A marker may name this series. -/
def Knows (reading : Reading) (series : String) : Prop :=
  match reading.layout with
  | .headerless => series ∈ Layout.roles
  | _ => reading.table.containsSeries series = true

/-- What a line that is not blank can do to a reading whose layout is settled. -/
inductive Reads : Reading → String → Reading → Prop
  | legend {reading : Reading} {line field : String} (awaits : reading.AwaitsLegend)
      (isOther : Line.marker? line = none) (present : field ∈ Text.fields line)
      (notNumber : Decimal.float? field = none) :
      Reads reading line { reading with
        legendRead := true
        table := (Text.fields line).foldl Table.addSeries reading.table }
  | keyedMarker {reading : Reading} {line benchmark : String} (keyed : reading.layout = .keyed)
      (isMarker : Line.marker? line = some [benchmark]) :
      Reads reading line { reading with
        table := reading.table.addBenchmark benchmark
        benchmark := some benchmark
        series := none }
  | namedMarker {reading : Reading} {line benchmark series : String}
      (notKeyed : reading.layout ≠ .keyed) (ready : ¬reading.AwaitsLegend)
      (isMarker : Line.marker? line = some [benchmark, series]) (known : reading.Knows series) :
      Reads reading line { reading with
        table := (reading.table.addBenchmark benchmark).extend series benchmark []
        benchmark := some benchmark
        series := some series }
  | keyedSample {reading : Reading} {line benchmark series number : String} {value : Float}
      (keyed : reading.layout = .keyed) (isOther : Line.marker? line = none)
      (placed : reading.benchmark = some benchmark) (split : Text.fields line = [series, number])
      (isNumber : Decimal.float? number = some value) (finite : value.isFinite = true) :
      Reads reading line { reading with
        table := (reading.table.addSeries series).extend series benchmark [value] }
  | namedSample {reading : Reading} {line benchmark series : String} {value : Float}
      (notKeyed : reading.layout ≠ .keyed) (ready : ¬reading.AwaitsLegend)
      (isOther : Line.marker? line = none) (placed : reading.benchmark = some benchmark)
      (named : reading.series = some series)
      (isNumber : Decimal.float? (Text.trim line) = some value) (finite : value.isFinite = true) :
      Reads reading line { reading with
        table := (reading.table.addSeries series).extend series benchmark [value] }

theorem readLegend_eq_ok_iff {reading result : Reading} {fields : List String} :
    reading.readLegend fields = .ok result ↔
      fields.head? ≠ some Layout.marker ∧ (∃ field ∈ fields, Decimal.float? field = none) ∧
        result = { reading with
          legendRead := true, table := fields.foldl Table.addSeries reading.table } := by
  rw [readLegend]
  split
  next isMarker => simp [isMarker]
  next isOther =>
      split
      next numbers =>
          simp only [List.all_eq_true, Option.isSome_iff_ne_none] at numbers
          simp only [reduceCtorEq, false_iff]
          rintro ⟨_, ⟨field, present, notNumber⟩, _⟩
          exact numbers field present notNumber
      next numbers =>
          have some_text : ∃ field ∈ fields, Decimal.float? field = none := by
            simpa using numbers
          simp only [Except.ok.injEq]
          exact ⟨fun same => ⟨isOther, some_text, same.symm⟩, fun facts => facts.2.2.symm⟩

theorem markedSeries_keyed {reading : Reading} (keyed : reading.layout = .keyed)
    (second : Option String) : reading.markedSeries second = .ok none := by
  rw [markedSeries.eq_def, keyed]

theorem markedSeries_eq_ok_iff {reading : Reading} (notKeyed : reading.layout ≠ .keyed)
    {series : String} {named : Option String} :
    reading.markedSeries (some series) = .ok named ↔
      reading.Knows series ∧ named = some series := by
  rw [markedSeries.eq_def, Knows]
  cases layout : reading.layout with
  | keyed => exact absurd layout notKeyed
  | headerless =>
      by_cases role : series ∈ Layout.roles <;> simp [role, eq_comm]
  | auto =>
      by_cases known : reading.table.containsSeries series = true <;> simp [known, eq_comm]
  | headered =>
      by_cases known : reading.table.containsSeries series = true <;> simp [known, eq_comm]

theorem readMarker_keyed_eq_ok_iff {reading result : Reading} (keyed : reading.layout = .keyed)
    {fields : List String} :
    reading.readMarker fields = .ok result ↔
      ∃ benchmark, fields = [benchmark] ∧
        result = { reading with
          table := reading.table.addBenchmark benchmark
          benchmark := some benchmark
          series := none } := by
  rw [readMarker.eq_def]
  rcases fields with _ | ⟨benchmark, _ | ⟨second, others⟩⟩
  · simp [keyed, Layout.markerFields]
  · simp [keyed, Layout.markerFields, markedSeries_keyed keyed, bind, Except.bind, pure,
      Except.pure, eq_comm]
  · simp [keyed, Layout.markerFields]

theorem readMarker_named_eq_ok_iff {reading result : Reading} (notKeyed : reading.layout ≠ .keyed)
    {fields : List String} :
    reading.readMarker fields = .ok result ↔
      ∃ benchmark series, fields = [benchmark, series] ∧ reading.Knows series ∧
        result = { reading with
          table := (reading.table.addBenchmark benchmark).extend series benchmark []
          benchmark := some benchmark
          series := some series } := by
  have two_fields : reading.layout.markerFields = 2 := by
    cases layout : reading.layout <;> simp_all [Layout.markerFields]
  rw [readMarker.eq_def, two_fields]
  rcases fields with _ | ⟨benchmark, _ | ⟨series, _ | ⟨third, others⟩⟩⟩
  · simp
  · simp
  · simp only [List.length_cons, List.length_nil, ne_eq, not_true_eq_false, if_false,
      List.head?_cons, bind_eq_ok_iff, markedSeries_eq_ok_iff notKeyed]
    constructor
    · rintro ⟨named, ⟨known, rfl⟩, same⟩
      exact ⟨benchmark, series, rfl, known, (Except.ok.inj same).symm⟩
    · rintro ⟨benchmark', series', same, known, rfl⟩
      have names : benchmark = benchmark' ∧ series = series' := by simpa using same
      rcases names with ⟨rfl, rfl⟩
      exact ⟨some series, ⟨known, rfl⟩, rfl⟩
  · simp

theorem sampleValue_eq_ok_iff {text : String} {value : Float} :
    sampleValue text = .ok value ↔ Decimal.float? text = some value ∧ value.isFinite = true := by
  rw [sampleValue]
  cases number : Decimal.float? text with
  | none => simp
  | some value' =>
      by_cases finite : value'.isFinite = true
      · simp only [finite, if_true, Except.ok.injEq, Option.some.injEq]
        exact ⟨fun same => ⟨same, same ▸ finite⟩, fun facts => facts.1⟩
      · simp only [finite, Option.some.injEq, Bool.false_eq_true, if_false, reduceCtorEq, false_iff]
        rintro ⟨rfl, finite'⟩
        exact finite finite'

theorem readSample_eq_ok_iff {reading result : Reading} {content : String} :
    reading.readSample content = .ok result ↔
      ∃ benchmark series number value, reading.benchmark = some benchmark ∧
        reading.sampleParts content = .ok (series, number) ∧
        Decimal.float? number = some value ∧ value.isFinite = true ∧
        result = { reading with
          table := (reading.table.addSeries series).extend series benchmark [value] } := by
  rw [readSample]
  cases placed : reading.benchmark with
  | none => simp
  | some benchmark =>
      simp only [bind_eq_ok_iff, sampleValue_eq_ok_iff, Prod.exists]
      constructor
      · rintro ⟨series, number, parts, value, ⟨isNumber, finite⟩, same⟩
        exact ⟨benchmark, series, number, value, rfl, parts, isNumber, finite,
          (Except.ok.inj same).symm⟩
      · rintro ⟨benchmark', series, number, value, same, parts, isNumber, finite, rfl⟩
        rcases Option.some.inj same with rfl
        exact ⟨series, number, parts, value, ⟨isNumber, finite⟩, rfl⟩

theorem sampleParts_keyed_eq_ok_iff {reading : Reading} (keyed : reading.layout = .keyed)
    {content series number : String} :
    reading.sampleParts content = .ok (series, number) ↔
      Text.fields content = [series, number] := by
  rw [sampleParts.eq_def, keyed]
  rcases Text.fields content with _ | ⟨first, _ | ⟨second, _ | ⟨third, others⟩⟩⟩ <;> simp

theorem sampleParts_named_eq_ok_iff {reading : Reading} (notKeyed : reading.layout ≠ .keyed)
    {content series number : String} :
    reading.sampleParts content = .ok (series, number) ↔
      reading.series = some series ∧ number = content := by
  rw [sampleParts.eq_def]
  cases named : reading.series <;> cases layout : reading.layout <;> simp_all [eq_comm]

/-- A line is read exactly along the relation `Reads`, once the layout is settled by its fields. -/
theorem readContent_eq_ok_iff {reading result : Reading} {line : String} :
    reading.readContent (Text.trim line) = .ok result ↔
      Reads (reading.settle (Text.fields line)) line result := by
  simp only [readContent, Text.fields_trim]
  generalize reading.settle (Text.fields line) = settled
  by_cases awaits : settled.layout = .headered ∧ settled.legendRead = false
  · rw [if_pos awaits, readLegend_eq_ok_iff]
    constructor
    · rintro ⟨isOther, ⟨field, present, notNumber⟩, rfl⟩
      exact .legend awaits (Line.marker?_eq_none_iff.mpr isOther) present notNumber
    · intro reads
      cases reads with
      | legend _ isOther present notNumber =>
          exact ⟨Line.marker?_eq_none_iff.mp isOther, ⟨_, present, notNumber⟩, rfl⟩
      | keyedMarker keyed => simp [awaits.1] at keyed
      | keyedSample keyed => simp [awaits.1] at keyed
      | namedMarker _ ready => exact absurd awaits ready
      | namedSample _ ready => exact absurd awaits ready
  · rw [if_neg awaits]
    cases marker : Line.marker? line with
    | some rest =>
        have split := Line.marker?_eq_some_iff.mp marker
        rw [split, if_pos List.head?_cons, List.tail_cons]
        by_cases keyed : settled.layout = .keyed
        · rw [readMarker_keyed_eq_ok_iff keyed]
          constructor
          · rintro ⟨benchmark, rfl, rfl⟩
            exact .keyedMarker keyed marker
          · intro reads
            cases reads <;> simp_all
        · rw [readMarker_named_eq_ok_iff keyed]
          constructor
          · rintro ⟨benchmark, series, rfl, known, rfl⟩
            exact .namedMarker keyed awaits marker known
          · intro reads
            cases reads <;> simp_all
    | none =>
        rw [if_neg (Line.marker?_eq_none_iff.mp marker), readSample_eq_ok_iff]
        by_cases keyed : settled.layout = .keyed
        · simp only [sampleParts_keyed_eq_ok_iff keyed, Text.fields_trim]
          constructor
          · rintro ⟨benchmark, series, number, value, placed, split, isNumber, finite, rfl⟩
            exact .keyedSample keyed marker placed split isNumber finite
          · intro reads
            cases reads <;> simp_all [AwaitsLegend]
        · simp only [sampleParts_named_eq_ok_iff keyed]
          constructor
          · rintro ⟨benchmark, series, number, value, placed, ⟨named, rfl⟩, isNumber, finite, rfl⟩
            exact .namedSample keyed awaits marker placed named isNumber finite
          · intro reads
            cases reads <;> simp_all [AwaitsLegend]

theorem settle_of_ne_auto {reading : Reading} (settled : reading.layout ≠ .auto)
    (fields : List String) : reading.settle fields = reading := by
  simp only [settle]

/-- Reads lines that are not blank. -/
def readContents (reading : Reading) (lines : List String) : Except LineFault Reading :=
  lines.foldlM (fun reading line => reading.readContent (Text.trim line)) reading

/-- What every line keeps holds after a run, of all the lines that were read. -/
theorem holds_of_readContents (Holds : List String → Reading → Prop)
    (preserved : ∀ earlier reading line next, Holds earlier reading →
      reading.readContent (Text.trim line) = .ok next → Holds (earlier ++ [line]) next)
    {reading result : Reading} {lines : List String} (start : Holds [] reading)
    (run : reading.readContents lines = .ok result) : Holds lines result :=
  holds_of_foldlM Holds preserved start run

theorem readLine_of_blank (reading : Reading) (number : Nat) {line : String}
    (blank : Line.isBlank line = true) : reading.readLine number (some line) = .ok reading := by
  simp only [Line.isBlank] at blank
  simp [readLine, blank]

/-- A line that is not blank is read by its trimmed text, and a fault comes with its number. -/
theorem readLine_of_written (reading : Reading) (number : Nat) {line : String}
    (written : Line.isBlank line = false) :
    reading.readLine number (some line) =
      (reading.readContent (Text.trim line)).mapError (.format number (Text.trim line)) := by
  simp only [Line.isBlank] at written
  simp only [readLine, written, Bool.false_eq_true, if_false]
  cases reading.readContent (Text.trim line) <;> rfl

theorem readLine_eq_ok_iff {reading result : Reading} {number : Nat} {line : String}
    (written : Line.isBlank line = false) :
    reading.readLine number (some line) = .ok result ↔
      reading.readContent (Text.trim line) = .ok result := by
  rw [readLine_of_written reading number written]
  cases reading.readContent (Text.trim line) <;> simp [Except.mapError]

/-- Reading lines is a fold over those that are not blank, whatever their numbers are. -/
theorem readLines_eq_ok_iff {reading result : Reading} {number : Nat} {lines : List String} :
    reading.readLines number (lines.map some) = .ok result ↔
      reading.readContents (lines.filter fun line => !Line.isBlank line) = .ok result := by
  induction lines generalizing reading number with
  | nil => simp [readLines, readContents, pure, Except.pure]
  | cons line rest ih =>
      cases blank : Line.isBlank line with
      | true =>
          simp only [List.map_cons, readLines, readLine_of_blank reading number blank, ih]
          simp [blank]
      | false =>
          rw [List.filter_cons_of_pos (by simp [blank]), readContents, List.foldlM_cons,
            bind_eq_ok_iff, List.map_cons, readLines]
          have same_step := @readLine_eq_ok_iff reading
          cases step : reading.readLine number (some line) with
          | error fault =>
              simp only [reduceCtorEq, false_iff, not_exists, not_and]
              intro next first
              simp [(same_step blank).mpr first] at step
          | ok next =>
              have first := (same_step blank).mp step
              simp [first, ih, readContents]

/-- Lines that can be read are all decoded. -/
theorem exists_texts_of_readLines {reading result : Reading} {number : Nat}
    {lines : List (Option String)} (read : reading.readLines number lines = .ok result) :
    ∃ texts : List String, lines = texts.map some := by
  induction lines generalizing reading number with
  | nil => exact ⟨[], rfl⟩
  | cons line rest ih =>
      rw [readLines] at read
      cases line with
      | none => simp [readLine] at read
      | some text =>
          cases step : reading.readLine number (some text) with
          | error fault => simp [step] at read
          | ok next =>
              simp only [step] at read
              rcases ih read with ⟨texts, rfl⟩
              exact ⟨text :: texts, rfl⟩

end SampleChart.Reading

namespace SampleChart.Table

/-- A text is parsed by reading its lines that are not blank. -/
theorem parse_eq_ok_iff {layout : Layout} {text : String} {table : Table} :
    parse layout text = .ok table ↔
      ∃ result, (Reading.start layout).readContents (Line.contents text) = .ok result ∧
        result.table = table := by
  simp only [parse, ofLines, map_eq_ok_iff, Reading.readLines_eq_ok_iff, Line.contents]

end SampleChart.Table
