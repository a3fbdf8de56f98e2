import SampleChart.Proofs.Reading.Registers

/-!
# The grammar of results files

Which texts can be parsed, said line by line. Two things are asked of a line besides its own form:
a marker may name only a series that is known, and a sample needs some marker before it. Both are
settled by the lines before it, so acceptance needs no table and no registers: `parse_isOk_iff`
gives the three languages of the three layouts.
-/

namespace SampleChart

namespace Line

/-- A text denotes a finite number. -/
def IsFinite (text : String) : Prop :=
  ∃ value, Decimal.float? text = some value ∧ value.isFinite = true

/-- There is a marker among some lines. -/
def HasMarker (lines : List String) : Prop :=
  ∃ line ∈ lines, (marker? line).isSome

/-- A marker that names a benchmark and a known series, or a sample behind some marker. -/
def FitsNamed (known : String → Prop) (earlier : List String) (line : String) : Prop :=
  (∃ benchmark series, marker? line = some [benchmark, series] ∧ known series) ∨
    marker? line = none ∧ IsFinite (Text.trim line) ∧ HasMarker earlier

/-- A marker that names a benchmark, or a sample with its series behind some marker. -/
def FitsKeyed (earlier : List String) (line : String) : Prop :=
  (∃ benchmark, marker? line = some [benchmark]) ∨
    marker? line = none ∧
      (∃ series number, Text.fields line = [series, number] ∧ IsFinite number) ∧
        HasMarker earlier

/-- A line that is no marker and has a field that is not a number. -/
def IsLegend (line : String) : Prop :=
  marker? line = none ∧ ∃ field ∈ Text.fields line, Decimal.float? field = none

theorem hasMarker_cons_iff {first : String} {rest : List String} (isOther : marker? first = none) :
    HasMarker (first :: rest) ↔ HasMarker rest := by
  simp [HasMarker, isOther]

end Line

namespace Reading

variable {layout : Layout} {earlier : List String} {line : String} {reading : Reading}

/-- There is a benchmark to which samples go exactly if there was a marker. -/
theorem Follows.isSome_benchmark_iff (follows : reading.Follows layout earlier) :
    reading.benchmark.isSome ↔ Line.HasMarker earlier := by
  rw [Line.HasMarker, ← Line.isSome_lastMarker?_iff, follows.lastMarker_eq, Option.isSome_map]

/-- Where a legend is awaited, exactly the lines of its form are read. -/
theorem exists_reads_legend_iff (awaits : reading.AwaitsLegend) :
    (∃ next, reading.Reads line next) ↔ Line.IsLegend line := by
  constructor
  · rintro ⟨next, reads⟩
    cases reads with
    | legend _ isOther present notNumber => exact ⟨isOther, _, present, notNumber⟩
    | keyedMarker keyed => simp [awaits.1] at keyed
    | keyedSample keyed => simp [awaits.1] at keyed
    | namedMarker _ ready => exact absurd awaits ready
    | namedSample _ ready => exact absurd awaits ready
  · rintro ⟨isOther, field, present, notNumber⟩
    exact ⟨_, .legend awaits isOther present notNumber⟩

theorem exists_reads_keyed_iff (follows : reading.Follows .keyed earlier) :
    (∃ next, reading.Reads line next) ↔ Line.FitsKeyed earlier line := by
  have keyed := follows.layout_eq
  rw [Line.FitsKeyed, ← follows.isSome_benchmark_iff]
  constructor
  · rintro ⟨next, reads⟩
    cases reads with
    | legend awaits => simp [awaits.1] at keyed
    | keyedMarker _ isMarker => exact Or.inl ⟨_, isMarker⟩
    | keyedSample _ isOther placed split isNumber finite =>
        exact Or.inr ⟨isOther, ⟨_, _, split, _, isNumber, finite⟩, by simp [placed]⟩
    | namedMarker notKeyed => exact absurd keyed notKeyed
    | namedSample notKeyed => exact absurd keyed notKeyed
  · rintro (⟨benchmark, isMarker⟩ | ⟨isOther, sample, placed⟩)
    · exact ⟨_, .keyedMarker keyed isMarker⟩
    · rcases sample with ⟨series, number, split, value, isNumber, finite⟩
      rcases Option.isSome_iff_exists.mp placed with ⟨benchmark, placed⟩
      exact ⟨_, .keyedSample keyed isOther placed split isNumber finite⟩

/-- A reading whose markers name a series goes on exactly with the lines that fit, the series that
it knows taken for granted. -/
theorem exists_reads_named_iff (follows : reading.Follows layout earlier)
    (notKeyed : layout ≠ .keyed) (ready : ¬reading.AwaitsLegend) :
    (∃ next, reading.Reads line next) ↔ Line.FitsNamed reading.Knows earlier line := by
  rw [← follows.layout_eq] at notKeyed
  rw [Line.FitsNamed, ← follows.isSome_benchmark_iff]
  constructor
  · rintro ⟨next, reads⟩
    cases reads with
    | legend awaits => exact absurd awaits ready
    | keyedMarker keyed => exact absurd keyed notKeyed
    | keyedSample keyed => exact absurd keyed notKeyed
    | namedMarker _ _ isMarker known => exact Or.inl ⟨_, _, isMarker, known⟩
    | namedSample _ _ isOther placed _ isNumber finite =>
        exact Or.inr ⟨isOther, ⟨_, isNumber, finite⟩, by simp [placed]⟩
  · rintro (⟨benchmark, series, isMarker, known⟩ | ⟨isOther, ⟨value, isNumber, finite⟩, placed⟩)
    · exact ⟨_, .namedMarker notKeyed ready isMarker known⟩
    · have named : reading.series.isSome := follows.coherent.isSome_series notKeyed ▸ placed
      rcases Option.isSome_iff_exists.mp placed with ⟨benchmark, placed⟩
      rcases Option.isSome_iff_exists.mp named with ⟨series, named⟩
      exact ⟨_, .namedSample notKeyed ready isOther placed named isNumber finite⟩

/-- Lines can be read one after the other exactly if each fits the lines before it. -/
theorem readContents_isOk_iff (Holds : List String → Reading → Prop)
    (Fits : List String → String → Prop) {before lines : List String} (explicit : layout ≠ .auto)
    (follows : ∀ {earlier reading}, Holds earlier reading → reading.Follows layout earlier)
    (preserved : ∀ {earlier reading line next},
      Holds earlier reading → reading.Reads line next → Holds (earlier ++ [line]) next)
    (fits : ∀ {earlier reading line},
      Holds earlier reading → ((∃ next, reading.Reads line next) ↔ Fits earlier line))
    (start : Holds before reading) :
    (∃ result, reading.readContents lines = .ok result) ↔
      ∀ earlier line later, lines = earlier ++ line :: later → Fits (before ++ earlier) line := by
  have reads_iff : ∀ earlier reading line next, Holds earlier reading →
      (reading.readContent (Text.trim line) = .ok next ↔ reading.Reads line next) := by
    intro earlier reading line next holds
    exact (follows holds).readContent_eq_ok_iff explicit
  refine foldlM_isOk_iff Holds Fits ?_ ?_ start
  · intro earlier reading line next holds step
    exact preserved holds ((reads_iff earlier reading line next holds).mp step)
  · intro earlier reading line holds
    rw [← fits holds]
    exact exists_congr fun next => reads_iff earlier reading line next holds

/-- The lines before a reading are a legend and what stands behind it. -/
def FollowsLegend (legend : String) (earlier : List String) (reading : Reading) : Prop :=
  reading.Follows .headered earlier ∧ ∃ between, earlier = legend :: between

theorem FollowsLegend.append_of_reads {legend : String} {next : Reading}
    (follows : reading.FollowsLegend legend earlier) (reads : reading.Reads line next) :
    next.FollowsLegend legend (earlier ++ [line]) := by
  rcases follows with ⟨follows, between, rfl⟩
  exact ⟨follows.append_of_reads (by simp) reads, between ++ [line], rfl⟩

/-- Behind a legend exactly the lines are read that fit with the fields of the legend as series. -/
theorem FollowsLegend.exists_reads_iff {legend : String} (isLegend : Line.IsLegend legend)
    (follows : reading.FollowsLegend legend earlier) :
    (∃ next, reading.Reads line next) ↔
      Line.FitsNamed (· ∈ Text.fields legend) earlier.tail line := by
  rcases follows with ⟨follows, between, rfl⟩
  have known_iff : ∀ series, reading.Knows series ↔ series ∈ Text.fields legend := by
    intro series
    have contains_iff := (follows.coherent.table_wellFormed.agrees series).trans
      (follows.series_iff rfl legend rfl series)
    simpa [Knows, follows.layout_eq] using contains_iff
  rw [exists_reads_named_iff follows (by simp) (by simp [follows.awaitsLegend_iff])]
  simp only [Line.FitsNamed, known_iff, Line.hasMarker_cons_iff isLegend.1, List.tail_cons]

theorem readContents_behind_legend_isOk_iff {legend : String} {rest : List String}
    (isLegend : Line.IsLegend legend) (follows : reading.Follows .headered [legend]) :
    (∃ result, reading.readContents rest = .ok result) ↔
      ∀ earlier line later, rest = earlier ++ line :: later →
        Line.FitsNamed (· ∈ Text.fields legend) earlier line :=
  readContents_isOk_iff (FollowsLegend legend)
    (fun earlier => Line.FitsNamed (· ∈ Text.fields legend) earlier.tail) (by simp)
    (fun followsLegend => followsLegend.1) FollowsLegend.append_of_reads
    (FollowsLegend.exists_reads_iff isLegend) ⟨follows, [], rfl⟩

end Reading

namespace Table

/-- Only the lines that are not blank decide whether a text is accepted. -/
theorem parse_isOk_iff_readContents (layout : Layout) (text : String) :
    (∃ table, parse layout text = .ok table) ↔
      ∃ reading, (Reading.start layout).readContents (Line.contents text) = .ok reading := by
  simp only [parse_eq_ok_iff]
  constructor
  · rintro ⟨table, reading, read, _⟩
    exact ⟨reading, read⟩
  · rintro ⟨reading, read⟩
    exact ⟨reading.table, reading, read, rfl⟩

/-- A keyed text is accepted exactly if each line fits the lines before it. -/
theorem parse_keyed_isOk_iff (text : String) :
    (∃ table, parse .keyed text = .ok table) ↔
      ∀ earlier line later, Line.contents text = earlier ++ line :: later →
        Line.FitsKeyed earlier line := by
  rw [parse_isOk_iff_readContents]
  exact Reading.readContents_isOk_iff (Reading.Follows .keyed) Line.FitsKeyed (by simp) id
    (fun follows reads => follows.append_of_reads (by simp) reads)
    Reading.exists_reads_keyed_iff (Reading.follows_start .keyed)

/-- A text without a legend is accepted exactly if each line fits the lines before it, with the two
roles as series. -/
theorem parse_headerless_isOk_iff (text : String) :
    (∃ table, parse .headerless text = .ok table) ↔
      ∀ earlier line later, Line.contents text = earlier ++ line :: later →
        Line.FitsNamed (fun role => role = "offset" ∨ role = "native") earlier line := by
  rw [parse_isOk_iff_readContents]
  refine Reading.readContents_isOk_iff (Reading.Follows .headerless) _ (by simp) id
    (fun follows reads => follows.append_of_reads (by simp) reads) ?_
    (Reading.follows_start .headerless)
  intro earlier reading line follows
  rw [Reading.exists_reads_named_iff follows (by simp)
    (by simp [follows.awaitsLegend_iff])]
  simp [Line.FitsNamed, Reading.Knows, follows.layout_eq, Layout.roles]

/-- A text with a legend is accepted if it is blank, or exactly if its first line is a legend and
each other line fits. -/
theorem parse_headered_isOk_iff (text : String) :
    (∃ table, parse .headered text = .ok table) ↔
      Line.contents text = [] ∨
        ∃ legend rest, Line.contents text = legend :: rest ∧ Line.IsLegend legend ∧
          ∀ earlier line later, rest = earlier ++ line :: later →
            Line.FitsNamed (· ∈ Text.fields legend) earlier line := by
  rw [parse_isOk_iff_readContents]
  have atStart := Reading.follows_start .headered
  have awaits : (Reading.start .headered).AwaitsLegend := by
    simp [atStart.awaitsLegend_iff]
  cases contents : Line.contents text with
  | nil => simp [Reading.readContents, pure, Except.pure]
  | cons legend rest =>
      simp only [Reading.readContents, List.foldlM_cons, bind_eq_ok_iff, reduceCtorEq, false_or]
      constructor
      · rintro ⟨result, next, first, others⟩
        have reads := (atStart.readContent_eq_ok_iff (by simp)).mp first
        have isLegend := (Reading.exists_reads_legend_iff awaits).mp ⟨next, reads⟩
        have follows := atStart.append_of_reads (by simp) reads
        exact ⟨legend, rest, rfl, isLegend,
          (Reading.readContents_behind_legend_isOk_iff isLegend follows).mp ⟨result, others⟩⟩
      · rintro ⟨legend', rest', cut, isLegend, fits⟩
        rcases List.cons.inj cut with ⟨rfl, rfl⟩
        rcases (Reading.exists_reads_legend_iff awaits).mpr isLegend with ⟨next, reads⟩
        have follows := atStart.append_of_reads (by simp) reads
        rcases (Reading.readContents_behind_legend_isOk_iff isLegend follows).mpr fits
          with ⟨result, others⟩
        exact ⟨result, next, (atStart.readContent_eq_ok_iff (by simp)).mpr reads, others⟩

/-- The three languages. A headerless file consists of markers with one of the two roles and of
samples behind some marker; a keyed file of markers with a benchmark alone and of samples with their
series; and a headered file is blank or opens with a legend, and then has markers with a series of
the legend and samples behind some marker. -/
theorem parse_isOk_iff (text : String) :
    ((∃ table, parse .headerless text = .ok table) ↔
      ∀ earlier line later, Line.contents text = earlier ++ line :: later →
        Line.FitsNamed (fun role => role = "offset" ∨ role = "native") earlier line) ∧
    ((∃ table, parse .keyed text = .ok table) ↔
      ∀ earlier line later, Line.contents text = earlier ++ line :: later →
        Line.FitsKeyed earlier line) ∧
    ((∃ table, parse .headered text = .ok table) ↔
      Line.contents text = [] ∨
        ∃ legend rest, Line.contents text = legend :: rest ∧ Line.IsLegend legend ∧
          ∀ earlier line later, rest = earlier ++ line :: later →
            Line.FitsNamed (· ∈ Text.fields legend) earlier line) :=
  ⟨parse_headerless_isOk_iff text, parse_keyed_isOk_iff text, parse_headered_isOk_iff text⟩

end Table

end SampleChart
