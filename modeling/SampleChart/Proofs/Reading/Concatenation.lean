import SampleChart.Proofs.Reading.Names
import SampleChart.Proofs.Reading.Samples
import SampleChart.Proofs.Text.Cuts

/-!
# Concatenation of results files

Two files of one layout can be put behind each other, and the data of the whole is that of the two:
names that are new come behind the others, and the samples of a group behind those that it has.

A file is read in the state that the one before it leaves, so this is not said of the readings but
of the lines. What a line means hangs on the lines before it through the last marker only, and in a
file that is accepted no sample comes before the first marker. So no line of the second file looks
back into the first (`numbers_append`, `declares_append`). A legend stands in front of both files
and is not repeated; `Opens` tells what a layout has there.
-/

namespace SampleChart

namespace Line

variable {layout : Layout} {first second lines opening earlier : List String} {line : String}

theorem contents_eq_cutBetween (text : String) :
    contents text =
      ((Text.cutBetween '\n' text.toList).map String.ofList).filter fun line => !isBlank line := by
  rw [contents, Text.lines]
  rcases Text.cutBetween_eq_cutAfter '\n' text.toList with same | ended
  · rw [same]
  · have blank : isBlank (String.ofList []) = true := by decide
    simp [ended, blank]

/-- Where two texts are joined by a line feed, no line is lost or made that is not blank. -/
theorem contents_append (first second : String) :
    contents (first ++ "\n" ++ second) = contents first ++ contents second := by
  have joined : (first ++ "\n" ++ second).toList = first.toList ++ '\n' :: second.toList := by
    simp
  simp only [contents_eq_cutBetween, joined, Text.cutBetween_append, List.map_append,
    List.filter_append]

theorem contents_of_line (single : '\n' ∉ line.toList) (written : isBlank line = false) :
    contents line = [line] := by
  rw [contents_eq_cutBetween, Text.cutBetween_of_not_mem single]
  simp [written]

theorem lastMarker?_append (earlier later : List String) :
    lastMarker? (earlier ++ later) = (lastMarker? later).or (lastMarker? earlier) := by
  simp [lastMarker?, List.getLast?_append]

theorem withEarlier_append (first second : List String) :
    withEarlier (first ++ second) =
      withEarlier first ++
        (withEarlier second).map fun (earlier, line) => (first ++ earlier, line) := by
  induction first with
  | nil => simp
  | cons line rest ih => simp [withEarlier_cons, ih]

theorem place?_congr {left right : List String} (same : lastMarker? left = lastMarker? right)
    (layout : Layout) (line : String) : place? layout left line = place? layout right line := by
  simp only [place?, same]

/-- Every line that is no marker has a place. -/
def Placed (layout : Layout) (lines : List String) : Prop :=
  ∀ earlier line, (earlier, line) ∈ withEarlier lines → marker? line = none →
    (place? layout earlier line).isSome

/-- A line with a place has a marker before it, so no line further up changes what it means. -/
theorem lastMarker?_append_of_placed (isPlaced : (place? layout earlier line).isSome)
    (before : List String) : lastMarker? (before ++ earlier) = lastMarker? earlier := by
  rw [lastMarker?_append]
  cases last : lastMarker? earlier with
  | none => simp [place?_of_lastMarker_none last] at isPlaced
  | some marker => rfl

theorem place?_append (isPlaced : marker? line = none → (place? layout earlier line).isSome)
    (before : List String) :
    place? layout (before ++ earlier) line = place? layout earlier line := by
  cases isMarker : marker? line with
  | some rest => rw [place?_of_marker isMarker, place?_of_marker isMarker]
  | none => exact place?_congr (lastMarker?_append_of_placed (isPlaced isMarker) before) layout line

/-- The numbers of two files are those of the first and then those of the second. -/
theorem numbers_append (first : List String) (placed : Placed layout second)
    (series benchmark : String) :
    numbers layout (first ++ second) series benchmark =
      numbers layout first series benchmark ++ numbers layout second series benchmark := by
  simp only [numbers, withEarlier_append, List.filterMap_append, List.filterMap_map]
  congr 1
  apply List.filterMap_congr
  rintro ⟨earlier, line⟩ present
  simp only [Function.comp_apply, number?, place?_append (placed earlier line present)]

/-- Two files declare what either of them does. -/
theorem declares_append (placed : Placed layout second) (series benchmark : String) :
    Declares layout (first ++ second) series benchmark ↔
      Declares layout first series benchmark ∨ Declares layout second series benchmark := by
  by_cases keyed : layout = .keyed
  · subst layout
    have same_marker : ∀ earlier line, (earlier, line) ∈ withEarlier second →
        marker? line = none → lastMarker? (first ++ earlier) = lastMarker? earlier :=
      fun earlier line present isOther =>
        lastMarker?_append_of_placed (placed earlier line present isOther) first
    simp only [Declares, withEarlier_append, List.mem_append, List.mem_map, Prod.exists,
      Prod.mk.injEq, or_and_right, exists_or]
    apply or_congr_right
    constructor
    · rintro ⟨_, _, number, ⟨earlier, line, present, rfl, rfl⟩, isOther, last, split⟩
      rw [same_marker earlier line present isOther] at last
      exact ⟨earlier, line, number, present, isOther, last, split⟩
    · rintro ⟨earlier, line, number, present, isOther, last, split⟩
      rw [← same_marker earlier line present isOther] at last
      exact ⟨_, _, number, ⟨earlier, line, present, rfl, rfl⟩, isOther, last, split⟩
  · simp only [declares_named_iff keyed, List.mem_append, or_and_right, exists_or]

/-- What stands in front of the markers and samples: a legend in the headered layout, and nothing in
the other two. -/
inductive Opens : Layout → List String → Prop
  | nothing {layout : Layout} (noLegend : layout = .headerless ∨ layout = .keyed) : Opens layout []
  | legend {line : String} (isOther : marker? line = none) : Opens .headered [line]

namespace Opens

theorem ne_auto (opens : Opens layout opening) : layout ≠ .auto := by
  cases opens with
  | nothing noLegend => rcases noLegend with rfl | rfl <;> simp
  | legend isOther => simp

theorem lastMarker?_append (opens : Opens layout opening) (lines : List String) :
    lastMarker? (opening ++ lines) = lastMarker? lines := by
  cases opens with
  | nothing noLegend => rfl
  | legend isOther => simp [lastMarker?, isOther]

theorem numbers_append (opens : Opens layout opening) (lines : List String)
    (series benchmark : String) :
    numbers layout (opening ++ lines) series benchmark = numbers layout lines series benchmark := by
  cases opens with
  | nothing noLegend => rfl
  | @legend line isOther =>
      have no_number : number? .headered series benchmark [] line = none := by
        rw [number?, place?_of_lastMarker_none rfl]
      have same_number : ∀ earlier other,
          number? .headered series benchmark (line :: earlier) other =
            number? .headered series benchmark earlier other := by
        intro earlier other
        have same_marker : lastMarker? (line :: earlier) = lastMarker? earlier :=
          lastMarker?_append (.legend isOther) earlier
        simp only [number?, place?_congr same_marker]
      simp [numbers, withEarlier_cons, no_number, same_number]

theorem declares_append (opens : Opens layout opening) (lines : List String)
    (series benchmark : String) :
    Declares layout (opening ++ lines) series benchmark ↔
      Declares layout lines series benchmark := by
  cases opens with
  | nothing noLegend => rfl
  | legend isOther => simp [Declares, isOther]

theorem placed_of_records {table : Table} (opens : Opens layout opening)
    (records : table.Records layout (opening ++ lines)) : Placed layout lines := by
  intro earlier line present isOther
  have withOpening : (opening ++ earlier, line) ∈ withEarlier (opening ++ lines) := by
    rw [withEarlier_append]
    exact List.mem_append_right _ (List.mem_map.mpr ⟨(earlier, line), present, rfl⟩)
  have behind : layout = .headered → opening ++ earlier ≠ [] := by
    cases opens with
    | nothing noLegend => rcases noLegend with rfl | rfl <;> simp
    | legend isOther => simp
  have isPlaced := records.isSome_place _ _ withOpening isOther behind
  rwa [place?_congr (opens.lastMarker?_append earlier)] at isPlaced

end Opens

end Line

theorem eraseDups_append_eq (left right : List String) :
    (left ++ right).eraseDups =
      left.eraseDups ++ right.eraseDups.filter fun name => name ∉ left.eraseDups := by
  induction right using List.reverseRecOn with
  | nil => simp
  | append_singleton before name ih =>
      rw [← List.append_assoc, eraseDups_append_singleton, eraseDups_append_singleton, ih]
      by_cases inLeft : name ∈ left <;> by_cases inBefore : name ∈ before <;>
        simp [inLeft, inBefore]

namespace Line

variable {layout : Layout} {opening : List String}

theorem Opens.benchmarkNames_append (opens : Opens layout opening) (first second : List String) :
    benchmarkNames (opening ++ (first ++ second)) =
      benchmarkNames (opening ++ first) ++
        (benchmarkNames (opening ++ second)).filter
          fun name => name ∉ benchmarkNames (opening ++ first) := by
  have no_name : opening.filterMap (fun line => (marker? line).bind List.head?) = [] := by
    cases opens with
    | nothing noLegend => rfl
    | legend isOther => simp [isOther]
  simp only [benchmarkNames, List.filterMap_append, no_name, List.nil_append, eraseDups_append_eq]

theorem Opens.seriesNames_append (opens : Opens layout opening) (first second : List String) :
    seriesNames layout (opening ++ (first ++ second)) =
      seriesNames layout (opening ++ first) ++
        (seriesNames layout (opening ++ second)).filter
          fun name => name ∉ seriesNames layout (opening ++ first) := by
  cases opens with
  | nothing noLegend =>
      rcases noLegend with rfl | rfl
      · rfl
      · simp only [seriesNames, List.nil_append, List.filterMap_append]
        exact eraseDups_append_eq _ _
  | legend isOther => simp [seriesNames]

/-- Where a line may stand in a file, it may stand behind another file too. -/
theorem fits_append {Fits : List String → String → Prop} (first : List String)
    {second : List String}
    (mono : ∀ before earlier line, Fits earlier line → Fits (before ++ earlier) line)
    (firstFits : ∀ earlier line later, first = earlier ++ line :: later → Fits earlier line)
    (secondFits : ∀ earlier line later, second = earlier ++ line :: later → Fits earlier line) :
    ∀ earlier line later, first ++ second = earlier ++ line :: later → Fits earlier line := by
  intro earlier line later cut
  rcases List.append_eq_append_iff.mp cut with ⟨between, rfl, cutSecond⟩ | ⟨between, cutFirst, rest⟩
  · exact mono first between line (secondFits between line later cutSecond)
  · rcases between with _ | ⟨head, tail⟩
    · simp only [List.append_nil] at cutFirst
      subst cutFirst
      have fits := secondFits [] line later rest.symm
      simpa using mono first [] line fits
    · rcases List.cons.inj rest with ⟨rfl, _⟩
      exact firstFits earlier line tail cutFirst

theorem HasMarker.append {earlier : List String} (hasMarker : HasMarker earlier)
    (before : List String) : HasMarker (before ++ earlier) := by
  rcases hasMarker with ⟨line, present, isMarker⟩
  exact ⟨line, List.mem_append_right before present, isMarker⟩

theorem FitsNamed.append {known : String → Prop} (before earlier : List String) (line : String)
    (fits : FitsNamed known earlier line) : FitsNamed known (before ++ earlier) line := by
  rcases fits with isMarker | ⟨isOther, finite, hasMarker⟩
  · exact Or.inl isMarker
  · exact Or.inr ⟨isOther, finite, hasMarker.append before⟩

theorem FitsKeyed.append (before earlier : List String) (line : String)
    (fits : FitsKeyed earlier line) : FitsKeyed (before ++ earlier) line := by
  rcases fits with isMarker | ⟨isOther, split, hasMarker⟩
  · exact Or.inl isMarker
  · exact Or.inr ⟨isOther, split, hasMarker.append before⟩

end Line

namespace Table

/-- A table holds the data of one table and then those of another: the names that the other lists
and the one does not come behind, a group is there if either has it, and its samples are those of
the one and then those of the other. -/
structure Joins (first second table : Table) : Prop where
  benchmarks_eq : table.benchmarks =
    first.benchmarks ++ second.benchmarks.filter fun benchmark => benchmark ∉ first.benchmarks
  series_eq : table.series =
    first.series ++ second.series.filter fun series => series ∉ first.series
  isSome_iff : ∀ series benchmark, (table.samples? series benchmark).isSome ↔
    (first.samples? series benchmark).isSome ∨ (second.samples? series benchmark).isSome
  samples_eq : ∀ series benchmark, table.samplesOrNone series benchmark =
    first.samplesOrNone series benchmark ++ second.samplesOrNone series benchmark

variable {layout : Layout} {opening firstLines secondLines : List String}
  {firstTable secondTable table : Table}

/-- The numbers in the lines are what the samples are told by, so that numbers which are put
together put the samples together. -/
theorem Records.joins (opens : Line.Opens layout opening)
    (first : firstTable.Records layout (opening ++ firstLines))
    (second : secondTable.Records layout (opening ++ secondLines))
    (whole : table.Records layout (opening ++ (firstLines ++ secondLines)))
    (firstLists : firstTable.Lists layout (opening ++ firstLines))
    (secondLists : secondTable.Lists layout (opening ++ secondLines))
    (lists : table.Lists layout (opening ++ (firstLines ++ secondLines))) :
    firstTable.Joins secondTable table := by
  have placed := opens.placed_of_records second
  constructor
  case benchmarks_eq =>
      rw [lists.benchmarks_eq, firstLists.benchmarks_eq, secondLists.benchmarks_eq]
      exact opens.benchmarkNames_append firstLines secondLines
  case series_eq =>
      rw [lists.series_eq, firstLists.series_eq, secondLists.series_eq]
      exact opens.seriesNames_append firstLines secondLines
  case isSome_iff =>
      intro series benchmark
      rw [whole.isSome_iff, first.isSome_iff, second.isSome_iff]
      simp only [opens.declares_append, Line.declares_append placed]
  case samples_eq =>
      intro series benchmark
      have numbers_eq := Line.numbers_append firstLines placed series benchmark
      rw [← opens.numbers_append (firstLines ++ secondLines), ← opens.numbers_append firstLines,
        ← opens.numbers_append secondLines] at numbers_eq
      have samples_eq := congrArg (List.map Decimal.float?) numbers_eq
      rw [List.map_append, whole.numbers_eq, first.numbers_eq, second.numbers_eq,
        ← List.map_append] at samples_eq
      exact List.map_injective_iff.mpr (fun _ _ => Option.some.inj) samples_eq

theorem records_and_lists_of_parse {text : String} {lines : List String}
    (explicit : layout ≠ .auto) (contents : Line.contents text = lines)
    (parsed : parse layout text = .ok table) :
    table.Records layout lines ∧ table.Lists layout lines := by
  subst contents
  rcases parse_eq_ok_iff.mp parsed with ⟨reading, read, rfl⟩
  exact ⟨(follows_of_readContents explicit read).2, lists_of_explicit_parse explicit parsed⟩

/-- The table of a text with the lines of two others holds their data. -/
theorem joins_of_parse {first second whole : String} (opens : Line.Opens layout opening)
    (firstContents : Line.contents first = opening ++ firstLines)
    (secondContents : Line.contents second = opening ++ secondLines)
    (wholeContents : Line.contents whole = opening ++ (firstLines ++ secondLines))
    (firstParsed : parse layout first = .ok firstTable)
    (secondParsed : parse layout second = .ok secondTable)
    (parsed : parse layout whole = .ok table) : firstTable.Joins secondTable table := by
  rcases records_and_lists_of_parse opens.ne_auto firstContents firstParsed with
    ⟨firstRecords, firstLists⟩
  rcases records_and_lists_of_parse opens.ne_auto secondContents secondParsed with
    ⟨secondRecords, secondLists⟩
  rcases records_and_lists_of_parse opens.ne_auto wholeContents parsed with ⟨records, lists⟩
  exact firstRecords.joins opens secondRecords records firstLists secondLists lists

theorem exists_parse_append {first second : String}
    (noLegend : layout = .headerless ∨ layout = .keyed)
    (firstParsed : ∃ table, parse layout first = .ok table)
    (secondParsed : ∃ table, parse layout second = .ok table) :
    ∃ table, parse layout (first ++ "\n" ++ second) = .ok table := by
  rcases noLegend with rfl | rfl
  · rw [parse_headerless_isOk_iff] at firstParsed secondParsed ⊢
    rw [Line.contents_append]
    exact Line.fits_append _ Line.FitsNamed.append firstParsed secondParsed
  · rw [parse_keyed_isOk_iff] at firstParsed secondParsed ⊢
    rw [Line.contents_append]
    exact Line.fits_append _ Line.FitsKeyed.append firstParsed secondParsed

theorem exists_parse_headered_iff {text legend : String} {rest : List String}
    (contents : Line.contents text = legend :: rest) :
    (∃ table, parse .headered text = .ok table) ↔
      Line.IsLegend legend ∧ ∀ earlier line later, rest = earlier ++ line :: later →
        Line.FitsNamed (· ∈ Text.fields legend) earlier line := by
  rw [parse_headered_isOk_iff, contents]
  constructor
  · rintro (blank | ⟨legend', rest', cut, isLegend, fits⟩)
    · cases blank
    · rcases List.cons.inj cut with ⟨rfl, rfl⟩
      exact ⟨isLegend, fits⟩
  · rintro ⟨isLegend, fits⟩
    exact Or.inr ⟨legend, rest, rfl, isLegend, fits⟩

/-- Files of one layout that are accepted are accepted behind each other, and give the data of the
first and then those of the second. In the headered layout both stand behind the one legend, whose
fields are the series of all three tables. -/
theorem parse_append (first second : String) :
    (∀ layout, layout = .headerless ∨ layout = .keyed → ∀ firstTable secondTable,
      parse layout first = .ok firstTable → parse layout second = .ok secondTable →
        ∃ table, parse layout (first ++ "\n" ++ second) = .ok table ∧
          firstTable.Joins secondTable table) ∧
    ∀ legend, Line.isBlank legend = false → '\n' ∉ legend.toList → ∀ firstTable secondTable,
      parse .headered (legend ++ "\n" ++ first) = .ok firstTable →
      parse .headered (legend ++ "\n" ++ second) = .ok secondTable →
        ∃ table, parse .headered (legend ++ "\n" ++ first ++ "\n" ++ second) = .ok table ∧
          firstTable.Joins secondTable table ∧ table.series = (Text.fields legend).eraseDups := by
  constructor
  · intro layout noLegend firstTable secondTable firstParsed secondParsed
    have opens : Line.Opens layout [] := .nothing noLegend
    rcases exists_parse_append noLegend ⟨firstTable, firstParsed⟩ ⟨secondTable, secondParsed⟩ with
      ⟨table, parsed⟩
    exact ⟨table, parsed, joins_of_parse opens rfl rfl (Line.contents_append first second)
      firstParsed secondParsed parsed⟩
  · intro legend written single firstTable secondTable firstParsed secondParsed
    have withLegend : ∀ text,
        Line.contents (legend ++ "\n" ++ text) = [legend] ++ Line.contents text := by
      intro text
      rw [Line.contents_append, Line.contents_of_line single written]
    have whole : Line.contents (legend ++ "\n" ++ first ++ "\n" ++ second) =
        [legend] ++ (Line.contents first ++ Line.contents second) := by
      rw [Line.contents_append, withLegend, List.append_assoc]
    rcases (exists_parse_headered_iff (withLegend first)).mp ⟨_, firstParsed⟩ with
      ⟨isLegend, firstFits⟩
    rcases (exists_parse_headered_iff (withLegend second)).mp ⟨_, secondParsed⟩ with
      ⟨_, secondFits⟩
    have opens : Line.Opens .headered [legend] := .legend isLegend.1
    have wholeFits := Line.fits_append (Line.contents first) Line.FitsNamed.append firstFits
      secondFits
    rcases (exists_parse_headered_iff whole).mpr ⟨isLegend, wholeFits⟩ with ⟨table, parsed⟩
    rcases records_and_lists_of_parse opens.ne_auto whole parsed with ⟨_, lists⟩
    exact ⟨table, parsed,
      joins_of_parse opens (withLegend first) (withLegend second) whole firstParsed secondParsed
        parsed,
      lists.series_eq⟩

/-- Two keyed files that share a benchmark and a series, and two headered ones behind a legend with
a repeated name. -/
theorem parse_append_of_shared_names :
    (∃ table, parse .keyed ("# b\ns 1\n# c\ns 2" ++ "\n" ++ "# b\ns 3\nt 4\n") = .ok table ∧
      table.samplesOrNone "s" "b" = [1, 3]) ∧
    ∃ table, parse .headered ("a b a" ++ "\n" ++ "# x a\n1" ++ "\n" ++ "# x b\n# x a\n2\n") =
      .ok table ∧ table.series = ["a", "b"] := by
  constructor
  · have firstSamples : ((parse .keyed "# b\ns 1\n# c\ns 2").toOption.map
        fun table => table.samplesOrNone "s" "b") = some [1] := by decide +kernel
    have secondSamples : ((parse .keyed "# b\ns 3\nt 4\n").toOption.map
        fun table => table.samplesOrNone "s" "b") = some [3] := by decide +kernel
    rcases exists_ok_of_toOption_map firstSamples with ⟨firstTable, firstParsed, one⟩
    rcases exists_ok_of_toOption_map secondSamples with ⟨secondTable, secondParsed, three⟩
    rcases (parse_append _ _).1 .keyed (Or.inr rfl) _ _ firstParsed secondParsed with
      ⟨table, parsed, joins⟩
    exact ⟨table, parsed, by rw [joins.samples_eq, one, three]; rfl⟩
  · have firstSeries : ((parse .headered ("a b a" ++ "\n" ++ "# x a\n1")).toOption.map
        fun table => table.series) = some ["a", "b"] := by decide +kernel
    have secondSeries : ((parse .headered ("a b a" ++ "\n" ++ "# x b\n# x a\n2\n")).toOption.map
        fun table => table.series) = some ["a", "b"] := by decide +kernel
    rcases exists_ok_of_toOption_map firstSeries with ⟨firstTable, firstParsed, _⟩
    rcases exists_ok_of_toOption_map secondSeries with ⟨secondTable, secondParsed, _⟩
    rcases (parse_append _ _).2 "a b a" (by decide +kernel) (by decide +kernel) _ _ firstParsed
      secondParsed with ⟨table, parsed, _, series_eq⟩
    exact ⟨table, parsed, series_eq.trans (by decide +kernel)⟩

end Table

end SampleChart
