import SampleChart.Proofs.Chart.Data
import SampleChart.Proofs.Chart.Literals
import SampleChart.Proofs.Reading.Names

/-!
# Names in a script

The commands of a chart without a title have one literal for the path, one for each benchmark and
each label, and for every series that is drawn one for its name, besides the texts that are the same
in every script. They are read as they are meant as long as no name has a quote.
-/

namespace SampleChart.Chart

open Decimal (HasBlank)

/-- The slots of the commands that draw the bars of a series. -/
def barSlots (color : Color) (name : String) : List Slot :=
  [.fixed "-", .fixed "%float64", .fixed color.text, .name name]

/-- The slots of the commands that draw error bars, which have no name. -/
def errorSlots : List Slot :=
  [.fixed "-", .fixed "%float64", .fixed "black"]

/-- The slots of the commands that draw a series. -/
def seriesSlots (index : Nat) (result : SeriesSummary) : List Slot :=
  if result.entries.isEmpty then []
  else
    barSlots (seriesColor index) result.name ++
      if result.entries.any fun entry => entry.aggregate.error.isSome then errorSlots else []

/-- The slots of the commands that set up a figure without a title. -/
def setupSlots (summary : Summary) (config : ChartConfig) (path : String) : List Slot :=
  .path path :: summary.benchmarks.map .name ++
    [.fixed config.xLabel, .fixed config.yLabel, .fixed "Helvetica"]

/-- The slots of the commands of a chart without a title. -/
def scriptSlots (summary : Summary) (config : ChartConfig) (path : String) : List Slot :=
  setupSlots summary config path ++
    summary.results.zipIdx.flatMap fun (result, index) => seriesSlots index result

/-- The slots of the commands that draw an item. -/
def Item.slots : Item → List Slot
  | bars name color _ => barSlots color name
  | errorBars _ => errorSlots

section Layout

variable {summary : Summary} {config : ChartConfig}

theorem fits_fixed {text : String} (unquoted : '\'' ∉ text.toList) : (Slot.fixed text).Fits :=
  unquoted

/-- What follows the name of a benchmark is its place. -/
theorem laidOut_tic {benchmark : String} (fits : (Slot.name benchmark).Fits) (slot : Nat)
    {behind : String} (unquoted : '\'' ∉ behind.toList) :
    LaidOut (literal (escapeUnderscores benchmark) ++ " " ++ toString slot ++ behind)
      [.name benchmark] := by
  have gap : '\'' ∉ (" " ++ toString slot ++ behind).toList := by
    simp [Decimal.not_mem_toDigits, unquoted]
  have blank : HasBlank (" " ++ toString slot ++ behind).toList := ⟨' ', by simp, rfl⟩
  simpa [String.append_assoc, Slot.raw] using LaidOut.slot fits gap blank .nil

theorem laidOut_tics {benchmarks : List String}
    (fit : ∀ benchmark ∈ benchmarks, (Slot.name benchmark).Fits) :
    LaidOut (tics benchmarks) (benchmarks.map .name) := by
  cases benchmarks with
  | nil => exact .nil
  | cons first others =>
      have listed : LaidOut (", ".intercalate ((first :: others).zipIdx.map fun entry =>
          literal (escapeUnderscores entry.1) ++ " " ++ toString entry.2) ++ ")")
            ((first :: others).zipIdx.flatMap fun entry => [.name entry.1]) := by
        refine .intercalate (by simp) fun entry inList => ?_
        have fits := fit entry.1 (List.fst_mem_of_mem_zipIdx inList)
        exact ⟨laidOut_tic fits entry.2 (by decide), laidOut_tic fits entry.2 (by decide)⟩
      have names : ((first :: others).zipIdx.flatMap fun entry => [Slot.name entry.1]) =
          (first :: others).map .name := by
        rw [← List.map_eq_flatMap]
        conv_rhs => rw [← List.zipIdx_map_fst 0 (first :: others), List.map_map]
        rfl
      rw [names] at listed
      have opened : LaidOut ("(" ++ (_ ++ ")")) _ := .plain (by decide) listed
      rwa [← String.append_assoc] at opened

/-- A line with one text between quotes. -/
theorem laidOut_line (held : Slot) {command : String} (unquoted : '\'' ∉ command.toList)
    (fits : held.Fits) : LaidOut (command ++ literal held.raw ++ "\n") [held] :=
  .single held fits unquoted (by decide) ⟨'\n', by decide, rfl⟩

theorem laidOut_setup (path : String) (title : config.title = none)
    (xLabel : '\'' ∉ config.xLabel.toList) (yLabel : '\'' ∉ config.yLabel.toList)
    (fit : ∀ benchmark ∈ summary.benchmarks, (Slot.name benchmark).Fits) :
    LaidOut (String.join ((setup summary config path).map (· ++ "\n")))
      (setupSlots summary config path) := by
  have pathLine : LaidOut ("set output " ++ literal (doubleQuotes path) ++ "\n") [.path path] :=
    laidOut_line (.path path) (by decide) trivial
  have ticLine : LaidOut ("set xtics nomirror " ++ tics summary.benchmarks ++ "\n")
      (summary.benchmarks.map .name) := by
    have opened : LaidOut ("set xtics nomirror " ++ _) _ := .plain (by decide) (laidOut_tics fit)
    simpa using opened.append (.ofUnquoted (by decide))
  have xLine : LaidOut ("set xlabel " ++ literal config.xLabel ++ "\n") [.fixed config.xLabel] :=
    laidOut_line (.fixed config.xLabel) (by decide) xLabel
  have rangeLine :
      LaidOut ("set xrange " ++ horizontalRange summary.benchmarks.length ++ "\n") [] := by
    apply LaidOut.ofUnquoted
    unfold horizontalRange
    simp [Decimal.not_mem_plain]
  have yLine : LaidOut ("set ylabel " ++ literal config.yLabel ++ "\n") [.fixed config.yLabel] :=
    laidOut_line (.fixed config.yLabel) (by decide) yLabel
  have scaleLine : LaidOut (String.join
      ((if config.logScale then ["set logscale y"] else []).map (· ++ "\n"))) [] := by
    cases config.logScale
    · exact .nil
    · exact .ofUnquoted (by decide)
  have fontLine : LaidOut
      ("set terminal svg dynamic dashed size 1280, 720 font 'Helvetica'" ++ "\n")
      [.fixed "Helvetica"] := by
    have quoted : "set terminal svg dynamic dashed size 1280, 720 font 'Helvetica'" =
        "set terminal svg dynamic dashed size 1280, 720 font " ++ literal "Helvetica" := by decide
    rw [quoted]
    exact laidOut_line (.fixed "Helvetica") (by decide) (fits_fixed (by decide))
  have line (text : String) (unquoted : '\'' ∉ (text ++ "\n").toList) : LaidOut (text ++ "\n") [] :=
    .ofUnquoted unquoted
  have all := pathLine.append (ticLine.append (xLine.append (rangeLine.append
    ((line "set ytics nomirror " (by decide)).append (yLine.append (scaleLine.append
      ((line "set grid ytics" (by decide)).append
        ((line "set key on inside top right Left reverse " (by decide)).append
          (fontLine.append (line "unset bars" (by decide)))))))))))
  unfold setup
  simp only [title, Option.map_none, Option.toList_none, List.append_nil, List.map_append,
    List.map_cons, List.map_nil, String.join_append, String.join_cons, String.join_nil,
    String.append_empty, String.append_assoc] at all ⊢
  convert all using 1
  simp [setupSlots]

theorem laidOut_source (item : Item) :
    LaidOut item.source [.fixed "-", .fixed "%float64"] := by
  have mark : "'-' binary endian=little record=" =
      literal "-" ++ " binary endian=little record=" := by decide
  have format : " format='%float64' using " = " format=" ++ literal "%float64" ++ " using " := by
    decide
  have noQuote : '\'' ∉ item.fields := by
    cases item <;> simp [Item.fields]
  have count : LaidOut
      ("" ++ literal "-" ++ (" binary endian=little record=" ++ toString item.rows.length))
      [.fixed "-"] := by
    refine .single (.fixed "-") (fits_fixed (by decide)) (by decide) ?_ ⟨' ', by simp, rfl⟩
    simp [Decimal.not_mem_toDigits]
  have fields : LaidOut (" format=" ++ literal "%float64" ++ (" using " ++
      ":".intercalate ((List.range item.columns).map fun column => toString (column + 1))))
      [.fixed "%float64"] := by
    refine .single (.fixed "%float64") (fits_fixed (by decide)) (by decide) ?_
      ⟨' ', by simp, rfl⟩
    rw [String.toList_append, Item.toList_fields]
    simp [noQuote]
  have both : LaidOut _ [.fixed "-", .fixed "%float64"] := count.append fields
  unfold Item.source
  rw [mark, format]
  simpa only [String.append_assoc, String.empty_append] using both

/-- The text of an item ends in a name, so that the text behind it has to have a blank. -/
theorem laidOut_item (width : Float) {item : Item} {behind : String}
    (fits : ∀ name, .name name ∈ item.slots → (Slot.name name).Fits)
    (unquoted : '\'' ∉ behind.toList)
    (blank : HasBlank behind.toList) :
    LaidOut (item.text width ++ behind) item.slots := by
  cases item with
  | bars name color drawn =>
      have unquotedColor : '\'' ∉ color.text.toList :=
        color.not_mem_text (by decide) fun _ => Nat.digitChar_ne '\'' (by decide)
      have colored : LaidOut ((" with impulses lt 1 lw " ++ Decimal.plain.text width ++
          " lc rgb ") ++ literal color.text ++ " title ") [.fixed color.text] := by
        refine .single (.fixed color.text) unquotedColor ?_ (by decide)
          ⟨' ', by decide, rfl⟩
        simp [Decimal.not_mem_plain]
      have named : LaidOut ("" ++ literal (escapeUnderscores name) ++ behind) [.name name] :=
        .single (.name name) (fits name (by simp [Item.slots, barSlots])) (by decide) unquoted blank
      have whole : LaidOut _ (Item.bars name color drawn).slots :=
        (laidOut_source (.bars name color drawn)).append (colored.append named)
      unfold Item.text Item.drawing
      simpa only [String.append_assoc, String.empty_append] using whole
  | errorBars drawn =>
      have quoted : " with yerrorbars lt 1 lw 1.5 lc rgb 'black' ps 0.5 notitle" =
          " with yerrorbars lt 1 lw 1.5 lc rgb " ++ literal "black" ++ " ps 0.5 notitle" := by
        decide
      have colored : LaidOut (" with yerrorbars lt 1 lw 1.5 lc rgb " ++ literal "black" ++
          " ps 0.5 notitle") [.fixed "black"] :=
        .single (.fixed "black") (fits_fixed (by decide)) (by decide) (by decide)
          ⟨' ', by decide, rfl⟩
      have whole : LaidOut _ (Item.errorBars drawn).slots :=
        (laidOut_source (.errorBars drawn)).append (colored.append (.ofUnquoted unquoted))
      unfold Item.text Item.drawing
      rw [quoted]
      simpa only [String.append_assoc, String.empty_append] using whole

theorem mem_series_of_mem_items {item : Item} (isItem : item ∈ items summary) {name : String}
    (isName : .name name ∈ item.slots) : name ∈ summary.series := by
  rcases List.mem_flatMap.mp isItem with ⟨⟨series, index⟩, listed, ofSeries⟩
  have either := (List.mem_filter.mp ofSeries).1
  simp only [List.mem_cons, List.not_mem_nil, or_false] at either
  rcases either with rfl | rfl
  · have same : name = series := by simpa [Item.slots, barSlots] using isName
    rw [same]
    exact List.fst_mem_of_mem_zipIdx listed
  · simp [Item.slots, errorSlots] at isName

theorem laidOut_plotLine (fit : ∀ name ∈ summary.series, (Slot.name name).Fits) :
    LaidOut (plotLine summary) ((items summary).flatMap Item.slots) := by
  rw [plotLine]
  generalize barWidth summary.benchmarks.length summary.series.length = width
  cases listed : items summary with
  | nil =>
      cases summary.results.isEmpty
      · exact .ofUnquoted (show '\'' ∉ ("" ++ "\n").toList by decide)
      · exact .nil
  | cons first others =>
      have noResults : summary.results.isEmpty = false := by
        cases results : summary.results with
        | nil => simp [items, Summary.series, results] at listed
        | cons result others => rfl
      have drawn : LaidOut (", ".intercalate ((first :: others).map (Item.text width)) ++ "\n")
          ((first :: others).flatMap Item.slots) := by
        refine .intercalate (List.cons_ne_nil _ _) fun item isItem => ?_
        have fits := fun name isName =>
          fit name (mem_series_of_mem_items (listed ▸ isItem) isName)
        exact ⟨laidOut_item width fits (by decide) ⟨' ', by decide, rfl⟩,
          laidOut_item width fits (by decide) ⟨'\n', by decide, rfl⟩⟩
      have opened : LaidOut ("plot " ++ _) _ := .plain (by decide) drawn
      rw [noResults, ← String.append_assoc] at *
      exact opened

theorem laidOut_script (path : String) (title : config.title = none)
    (xLabel : '\'' ∉ config.xLabel.toList) (yLabel : '\'' ∉ config.yLabel.toList)
    (fit : ∀ name, name ∈ summary.benchmarks ∨ name ∈ summary.series → (Slot.name name).Fits) :
    LaidOut (script summary config path).commands
      (setupSlots summary config path ++ (items summary).flatMap Item.slots) := by
  rw [commands_script]
  exact (laidOut_setup path title xLabel yLabel fun name listed => fit name (Or.inl listed)).append
    (laidOut_plotLine fun name listed => fit name (Or.inr listed))

end Layout

section Drawn

theorem slots_ofBars (index : Nat) (name : String) (bars : List Bar) :
    (Item.ofBars name (seriesColor index) bars).flatMap Item.slots =
      if bars.isEmpty then []
      else
        barSlots (seriesColor index) name ++
          if bars.any fun bar => bar.aggregate.error.isSome then errorSlots else [] := by
  have noErrors := isEmpty_filterMap
    (fun bar : Bar => bar.aggregate.error.map fun error => (bar, error)) bars
  unfold Item.ofBars
  simp only [List.filter_cons, List.filter_nil, Item.rows, List.isEmpty_map, noErrors,
    Option.isSome_map]
  cases empty : bars.isEmpty
  · cases bars.any fun bar => bar.aggregate.error.isSome <;>
      simp [Item.slots]
  · rw [List.isEmpty_iff] at empty
    subst empty
    rfl

/-- In the chart of a summary of a table a series is drawn if it has an entry. -/
theorem slots_items_summaryOf {table : Table} (wellFormed : table.WellFormed)
    (config : ChartConfig) :
    (items (table.summaryOf config)).flatMap Item.slots =
      (table.summaryOf config).results.zipIdx.flatMap fun (result, index) =>
        seriesSlots index result := by
  rw [items, Summary.series, List.zipIdx_map, List.flatMap_map, List.flatMap_assoc]
  apply List.flatMap_congr
  rintro ⟨result, index⟩ listed
  have isResult := List.fst_mem_of_mem_zipIdx listed
  simp only [Prod.map_apply, id_eq, slots_ofBars, barsOf_eq_map,
    drawn_summaryOf wellFormed config isResult, List.map_map, List.isEmpty_map, List.any_map]
  rfl

end Drawn

theorem mem_seriesSlots_iff {index : Nat} {result : SeriesSummary} {name : String} :
    .name name ∈ seriesSlots index result ↔ result.entries ≠ [] ∧ result.name = name := by
  have noName (condition : Prop) [Decidable condition] :
      .name name ∉ if condition then errorSlots else [] := by
    split <;> simp [errorSlots]
  rw [seriesSlots]
  cases result.entries with
  | nil => simp
  | cons entry others =>
      simp only [List.isEmpty_cons, Bool.false_eq_true, if_false, List.mem_append, noName, or_false,
        barSlots, List.mem_cons, List.not_mem_nil, reduceCtorEq, false_or, Slot.name.injEq, ne_eq,
        not_false_eq_true, true_and]
      exact eq_comm

theorem mem_scriptSlots_iff {summary : Summary} {config : ChartConfig} {path name : String} :
    .name name ∈ scriptSlots summary config path ↔
      name ∈ summary.benchmarks ∨
        ∃ result ∈ summary.results, result.entries ≠ [] ∧ result.name = name := by
  simp only [scriptSlots, setupSlots, List.mem_append, List.mem_flatMap, mem_seriesSlots_iff,
    Prod.exists, List.mem_cons, List.mem_map, reduceCtorEq, Slot.name.injEq, exists_eq_right,
    false_or, or_false, List.not_mem_nil]
  constructor
  · rintro (listed | ⟨result, index, listed, drawn⟩)
    · exact Or.inl listed
    · exact Or.inr ⟨result, List.fst_mem_of_mem_zipIdx listed, drawn⟩
  · rintro (listed | ⟨result, isResult, drawn⟩)
    · exact Or.inl listed
    · rcases List.getElem_of_mem isResult with ⟨index, below, rfl⟩
      have numbered : (summary.results[index], index) ∈ summary.results.zipIdx :=
        List.mem_zipIdx_iff_getElem?.mpr (List.getElem?_eq_getElem below)
      exact Or.inr ⟨_, index, numbered, drawn⟩

section Parsed

variable {layout : Layout} {text : String} {table : Table} {config : ChartConfig}
  {summary : Summary}

theorem laidOut_of_parse (parsed : Table.parse layout text = .ok table)
    (summarized : table.summarize config = .ok summary) (title : config.title = none)
    (xLabel : config.xLabel = ChartConfig.benchmarkLabel)
    (yLabel : ∃ baseline, config.yLabel = ChartConfig.defaultYLabel baseline) (path : String) :
    LaidOut (script summary config path).commands (scriptSlots summary config path) := by
  rcases Table.summarize_eq_ok_iff.mp summarized with ⟨_, rfl⟩
  have fit (name : String) (listed : name ∈ (table.summaryOf config).benchmarks ∨
      name ∈ (table.summaryOf config).series) : (Slot.name name).Fits := by
    rw [Table.series_summaryOf] at listed
    exact Table.not_hasBlank_of_parse parsed listed
  have noQuoteX : '\'' ∉ config.xLabel.toList := by
    rw [xLabel]
    decide
  have noQuoteY : '\'' ∉ config.yLabel.toList := by
    rcases yLabel with ⟨_ | baseline, isDefault⟩
    · rw [isDefault]
      decide
    · rw [isDefault]
      exact (by decide : '\'' ∉ "Slowdown".toList)
  have laidOut := laidOut_script path title noQuoteX noQuoteY fit
  rwa [slots_items_summaryOf (Table.Reachable.parsed parsed).wellFormed] at laidOut

/-- The literals of the commands are the path, the names and the labels, and what stands in every
script, each as it is meant, exactly if no benchmark and no series that is drawn has a quote in its
name. -/
theorem literals_script (parsed : Table.parse layout text = .ok table)
    (summarized : table.summarize config = .ok summary) (title : config.title = none)
    (xLabel : config.xLabel = ChartConfig.benchmarkLabel)
    (yLabel : ∃ baseline, config.yLabel = ChartConfig.defaultYLabel baseline) (path : String) :
    (∃ contents, literals false (script summary config path).commands.toList = some contents ∧
        List.Forall₂ Slot.IsReadAs (scriptSlots summary config path) contents) ↔
      (∀ benchmark ∈ summary.benchmarks, '\'' ∉ benchmark.toList) ∧
        ∀ result ∈ summary.results, result.entries ≠ [] → '\'' ∉ result.name.toList := by
  have laidOut := laidOut_of_parse parsed summarized title xLabel yLabel path
  simp only [literals_iff_of_laidOut laidOut, mem_scriptSlots_iff]
  constructor
  · intro unquoted
    exact ⟨fun benchmark listed => unquoted benchmark (Or.inl listed),
      fun result isResult drawn => unquoted _ (Or.inr ⟨result, isResult, drawn, rfl⟩)⟩
  · rintro ⟨benchmarks, series⟩ name (listed | ⟨result, isResult, drawn, rfl⟩)
    · exact benchmarks name listed
    · exact series result isResult drawn

end Parsed

/-- Underscores in names are no hindrance. -/
theorem literals_script_underscores :
    ∃ table summary,
      Table.parse .auto "# bench_one\nset_one 1\n" = .ok table ∧
        table.summarize .grouped = .ok summary ∧
        ∃ contents,
          literals false (script summary .grouped "chart.svg").commands.toList = some contents ∧
            List.Forall₂ Slot.IsReadAs (scriptSlots summary .grouped "chart.svg") contents := by
  have summarizes :
      ((Table.parse .auto "# bench_one\nset_one 1\n").toOption.map fun table =>
        (table.summarize .grouped).toOption.map fun summary =>
          (summary.benchmarks, summary.series)) = some (some (["bench_one"], ["set_one"])) := by
    decide +kernel
  rcases exists_ok_of_toOption_map summarizes with ⟨table, parsed, ofSummary⟩
  rcases exists_ok_of_toOption_map ofSummary with ⟨summary, summarized, names⟩
  rcases Prod.mk.inj names with ⟨benchmarks, series⟩
  refine ⟨table, summary, parsed, summarized,
    (literals_script parsed summarized rfl rfl ⟨none, rfl⟩ "chart.svg").mpr ⟨?_, ?_⟩⟩
  · rw [benchmarks]
    decide
  · intro result isResult _
    have named : result.name ∈ summary.series := List.mem_map_of_mem isResult
    rw [series, List.mem_singleton] at named
    rw [named]
    decide

/-- A benchmark with a quote in its name breaks the script. -/
theorem not_literals_script_quote :
    ∃ table summary,
      Table.parse .auto "# it's\nset 1\n" = .ok table ∧
        table.summarize .grouped = .ok summary ∧
        ¬∃ contents,
          literals false (script summary .grouped "chart.svg").commands.toList = some contents ∧
            List.Forall₂ Slot.IsReadAs (scriptSlots summary .grouped "chart.svg") contents := by
  have summarizes :
      ((Table.parse .auto "# it's\nset 1\n").toOption.map fun table =>
        (table.summarize .grouped).toOption.map (·.benchmarks)) = some (some ["it's"]) := by
    decide +kernel
  rcases exists_ok_of_toOption_map summarizes with ⟨table, parsed, ofSummary⟩
  rcases exists_ok_of_toOption_map ofSummary with ⟨summary, summarized, benchmarks⟩
  refine ⟨table, summary, parsed, summarized, fun read => ?_⟩
  have laidOut := laidOut_of_parse parsed summarized rfl rfl ⟨none, rfl⟩ "chart.svg"
  have isBenchmark : .name "it's" ∈ scriptSlots summary .grouped "chart.svg" := by
    rw [mem_scriptSlots_iff, benchmarks]
    exact Or.inl List.mem_cons_self
  have unquoted := (literals_iff_of_laidOut laidOut).mp read "it's" isBenchmark
  exact unquoted (by decide)

end SampleChart.Chart
