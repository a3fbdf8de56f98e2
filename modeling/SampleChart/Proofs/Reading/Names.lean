import SampleChart.Proofs.Decimal.Numeral
import SampleChart.Proofs.Reading.Detection

/-!
# The names in a parsed table

While a text is read, a name is put behind the names that are listed already, unless it is one of
them. Told from the whole text, the benchmarks of a table are the names in its markers, each at the
place where it comes first. Where the series come from depends on the layout: the roles are listed
before any line, the fields of the legend with the first line, and the series of a keyed file one by
one with its samples, under whatever benchmark they come.
-/

namespace SampleChart

namespace Line

/-- The benchmarks that some markers name, each where it comes first. -/
def benchmarkNames (lines : List String) : List String :=
  (lines.filterMap fun line => (marker? line).bind List.head?).eraseDups

/-- The series that a line names in front of its sample. -/
def sampleSeries? (line : String) : Option String :=
  match marker? line with
  | some _ => none
  | none => (Text.fields line).head?

/-- The series of some lines in their order, in a layout that is settled. If the choice is still
open, there was no line to settle it. -/
def seriesNames : Layout → List String → List String
  | .headerless, _ => ["offset", "native"]
  | .headered, legend :: _ => (Text.fields legend).eraseDups
  | .headered, [] => []
  | .keyed, lines => (lines.filterMap sampleSeries?).eraseDups
  | .auto, _ => []

/-- The layout in which lines are read that are not blank. The first of them settles an open
choice. -/
def settledLayout : Layout → List String → Layout
  | .auto, first :: _ => Layout.detect (Text.fields first)
  | layout, _ => layout

theorem settledLayout_of_ne_auto {layout : Layout} (explicit : layout ≠ .auto)
    (lines : List String) : settledLayout layout lines = layout := by
  cases layout with
  | auto => exact absurd rfl explicit
  | headerless => rfl
  | headered => rfl
  | keyed => rfl

/-- Where markers name the series, no line behind the legend brings one in, and the legend stays the
first line. -/
theorem seriesNames_append_of_named {layout : Layout} {earlier : List String}
    (notKeyed : layout ≠ .keyed) (known : layout = .headered → earlier ≠ []) (line : String) :
    seriesNames layout (earlier ++ [line]) = seriesNames layout earlier := by
  cases layout with
  | auto => rfl
  | headerless => rfl
  | keyed => exact absurd rfl notKeyed
  | headered =>
      cases earlier with
      | nil => exact absurd rfl (known rfl)
      | cons legend rest => rfl

theorem mem_fields_of_mem_benchmarkNames {lines : List String} {name : String}
    (listed : name ∈ benchmarkNames lines) : ∃ line, name ∈ Text.fields line := by
  rw [benchmarkNames, List.mem_eraseDups, List.mem_filterMap] at listed
  rcases listed with ⟨line, _, isFirst⟩
  rcases Option.bind_eq_some_iff.mp isFirst with ⟨rest, isMarker, isHead⟩
  refine ⟨line, ?_⟩
  rw [marker?_eq_some_iff.mp isMarker]
  exact List.mem_cons_of_mem _ (List.mem_of_mem_head? isHead)

theorem mem_fields_of_mem_seriesNames {layout : Layout} {lines : List String} {name : String}
    (listed : name ∈ seriesNames layout lines) :
    name ∈ ["offset", "native"] ∨ ∃ line, name ∈ Text.fields line := by
  cases layout with
  | auto => cases listed
  | headerless => exact Or.inl listed
  | headered =>
      cases lines with
      | nil => cases listed
      | cons legend rest => exact Or.inr ⟨legend, List.mem_eraseDups.mp listed⟩
  | keyed =>
      rw [seriesNames, List.mem_eraseDups, List.mem_filterMap] at listed
      rcases listed with ⟨line, _, isSeries⟩
      rw [sampleSeries?] at isSeries
      split at isSeries
      · cases isSeries
      · exact Or.inr ⟨line, List.mem_of_mem_head? isSeries⟩

end Line

theorem eraseDups_append_singleton (names : List String) (name : String) :
    (names ++ [name]).eraseDups =
      if name ∈ names then names.eraseDups else names.eraseDups ++ [name] := by
  rw [List.eraseDups_append]
  by_cases present : name ∈ names
  · simp [List.removeAll, present]
  · simp [List.removeAll, present, List.eraseDups_cons]

namespace Table

variable {layout : Layout} {lines names : List String} {line : String} {table : Table}

theorem benchmarks_addBenchmark_of_eq (listed : table.benchmarks = names.eraseDups)
    (benchmark : String) :
    (table.addBenchmark benchmark).benchmarks = (names ++ [benchmark]).eraseDups := by
  rw [eraseDups_append_singleton, addBenchmark]
  by_cases present : benchmark ∈ names
  · simp [listed, present]
  · simp [listed, present]

theorem series_addSeries_of_eq (agrees : table.Agrees) (listed : table.series = names.eraseDups)
    (series : String) : (table.addSeries series).series = (names ++ [series]).eraseDups := by
  have known_iff := agrees series
  rw [listed, List.mem_eraseDups] at known_iff
  rw [eraseDups_append_singleton, addSeries]
  by_cases present : series ∈ names
  · simp [known_iff.mpr present, listed, present]
  · simp [mt known_iff.mp present, listed, present]

theorem series_foldl_addSeries_of_eq (agrees : table.Agrees)
    (listed : table.series = names.eraseDups) (more : List String) :
    (more.foldl addSeries table).series = (names ++ more).eraseDups := by
  induction more generalizing table names with
  | nil => simpa using listed
  | cons series rest ih =>
      have further := ih (agrees.addSeries series) (series_addSeries_of_eq agrees listed series)
      rwa [List.append_assoc, List.singleton_append] at further

theorem benchmarks_foldl_addSeries (table : Table) (more : List String) :
    (more.foldl addSeries table).benchmarks = table.benchmarks := by
  induction more generalizing table with
  | nil => rfl
  | cons series rest ih => rw [List.foldl_cons, ih, benchmarks_addSeries]

/-- A table lists the names that some lines bring in, in the order in which they come first. -/
structure Lists (layout : Layout) (lines : List String) (table : Table) : Prop where
  benchmarks_eq : table.benchmarks = Line.benchmarkNames lines
  series_eq : table.series = Line.seriesNames layout lines

theorem lists_start (layout : Layout) : (Reading.start layout).table.Lists layout [] := by
  constructor
  · cases layout <;> rfl
  · cases layout <;> rfl

/-- Every line that can be read brings in its names behind the others. -/
theorem Lists.append_of_reads {reading next : Reading} (follows : reading.Follows layout lines)
    (lists : reading.table.Lists layout lines) (reads : reading.Reads line next) :
    next.table.Lists layout (lines ++ [line]) := by
  have layout_eq := follows.layout_eq
  have benchmarks_eq := lists.benchmarks_eq
  have series_eq := lists.series_eq
  have known : ¬reading.AwaitsLegend → layout = .headered → lines ≠ [] := by
    intro ready headered noLines
    exact ready (follows.awaitsLegend_iff.mpr ⟨headered, noLines⟩)
  have agrees := follows.coherent.table_wellFormed.agrees
  rw [Line.benchmarkNames] at benchmarks_eq
  cases reads with
  | legend awaits isOther present notNumber =>
      rcases follows.awaitsLegend_iff.mp awaits with ⟨rfl, rfl⟩
      have noSeries : reading.table.series = ([] : List String).eraseDups := series_eq
      constructor
      · rw [benchmarks_foldl_addSeries, benchmarks_eq]
        simp [Line.benchmarkNames, isOther]
      · exact series_foldl_addSeries_of_eq agrees noSeries (Text.fields line)
  | @keyedMarker benchmark keyed isMarker =>
      rcases layout_eq.symm.trans keyed with rfl
      constructor
      · rw [benchmarks_addBenchmark_of_eq benchmarks_eq benchmark]
        simp [Line.benchmarkNames, isMarker]
      · rw [series_addBenchmark, series_eq]
        simp [Line.seriesNames, Line.sampleSeries?, isMarker]
  | @namedMarker benchmark series notKeyed ready isMarker isKnown =>
      rw [layout_eq] at notKeyed
      constructor
      · rw [benchmarks_extend, benchmarks_addBenchmark_of_eq benchmarks_eq benchmark]
        simp [Line.benchmarkNames, isMarker]
      · rw [series_extend, series_addBenchmark, series_eq]
        exact (Line.seriesNames_append_of_named notKeyed (known ready) line).symm
  | @keyedSample benchmark series number value keyed isOther placed split isNumber finite =>
      rcases layout_eq.symm.trans keyed with rfl
      constructor
      · rw [benchmarks_extend, benchmarks_addSeries, benchmarks_eq]
        simp [Line.benchmarkNames, isOther]
      · rw [series_extend, series_addSeries_of_eq agrees series_eq series]
        simp [Line.seriesNames, Line.sampleSeries?, isOther, split]
  | @namedSample benchmark series value notKeyed ready isOther placed named isNumber finite =>
      rw [layout_eq] at notKeyed
      rw [agrees.addSeries_of_mem (follows.coherent.series_listed series named)]
      constructor
      · rw [benchmarks_extend, benchmarks_eq]
        simp [Line.benchmarkNames, isOther]
      · rw [series_extend, series_eq]
        exact (Line.seriesNames_append_of_named notKeyed (known ready) line).symm

theorem lists_of_explicit_parse {text : String} (explicit : layout ≠ .auto)
    (parsed : parse layout text = .ok table) : table.Lists layout (Line.contents text) := by
  rcases parse_eq_ok_iff.mp parsed with ⟨reading, read, rfl⟩
  have holds := Reading.follows_and_holds_of_readContents explicit
    (fun lines reading => Lists layout lines reading.table)
    (fun _ _ _ _ follows lists reads => lists.append_of_reads follows reads)
    (lists_start layout) read
  exact holds.2

/-- A parsed table lists the names of its text, also where the choice of the layout was open. -/
theorem lists_of_parse {text : String} (parsed : parse layout text = .ok table) :
    table.Lists (Line.settledLayout layout (Line.contents text)) (Line.contents text) := by
  by_cases explicit : layout = .auto
  · subst layout
    cases contents : Line.contents text with
    | nil =>
        rw [parse_of_blank .auto contents] at parsed
        rcases Except.ok.inj parsed with rfl
        exact lists_start .auto
    | cons first rest =>
        rw [parse_auto_eq_parse_detect contents] at parsed
        have lists := lists_of_explicit_parse (Reading.detect_ne_auto _) parsed
        rwa [contents] at lists
  · rw [Line.settledLayout_of_ne_auto explicit]
    exact lists_of_explicit_parse explicit parsed

/-- A name in a parsed table has no blank. -/
theorem not_hasBlank_of_parse {text : String} (parsed : parse layout text = .ok table)
    {name : String} (listed : name ∈ table.benchmarks ∨ name ∈ table.series) :
    ¬Decimal.HasBlank name.toList := by
  rintro ⟨character, present, isBlank⟩
  have ofField {line : String} (isField : name ∈ Text.fields line) : False := by
    simp [Text.not_isBlank_of_mem_fields isField character present] at isBlank
  have lists := lists_of_parse parsed
  rw [lists.benchmarks_eq, lists.series_eq] at listed
  rcases listed with isBenchmark | isSeries
  · rcases Line.mem_fields_of_mem_benchmarkNames isBenchmark with ⟨line, isField⟩
    exact ofField isField
  · rcases Line.mem_fields_of_mem_seriesNames isSeries with isRole | ⟨line, isField⟩
    · have roles : ["offset", "native"].all fun role =>
          role.toList.all fun character => !Text.isBlank character := by decide
      have notBlank := List.all_eq_true.mp (List.all_eq_true.mp roles name isRole)
      simpa [isBlank] using notBlank character present
    · exact ofField isField

end Table

end SampleChart
