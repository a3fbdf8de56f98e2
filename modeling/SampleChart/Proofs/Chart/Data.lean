import SampleChart.Proofs.Chart.PlotLine
import SampleChart.Proofs.Summary.Coverage

/-!
# The data of a chart

The data of a chart are those of the summary and nothing besides. Series by series they have a row
for every benchmark in which the summary has an answer, and behind these a row for every answer with
an error bar. The plot line announces just these rows, and nothing else is plotted, as long as the
names in it are read as names.
-/

namespace SampleChart.Chart

/-- The benchmarks in which a summary has an answer for a series, each by its position, with the
answers. -/
def drawn (summary : Summary) (series : String) : List (Nat × Aggregate) :=
  summary.benchmarks.zipIdx.filterMap fun (benchmark, slot) =>
    (summary.get? series benchmark).map fun aggregate => (slot, aggregate)

/-- The row of a bar. -/
def barRow (index seriesCount : Nat) : Nat × Aggregate → List Float
  | (slot, aggregate) => [barPosition slot index seriesCount, aggregate.mean]

/-- The row of an error bar, if there is one. -/
def errorRow? (index seriesCount : Nat) : Nat × Aggregate → Option (List Float)
  | (slot, aggregate) =>
      aggregate.error.map fun error =>
        [barPosition slot index seriesCount, aggregate.mean, aggregate.mean - error.lower,
          aggregate.mean + error.upper]

/-- The data of a series, given what is drawn of it. -/
def seriesBlocks (index seriesCount : Nat) (drawn : List (Nat × Aggregate)) : List Block :=
  if drawn.isEmpty then []
  else
    ⟨.impulses, drawn.map (barRow index seriesCount)⟩ ::
      if drawn.any fun bar => bar.2.error.isSome then
        [⟨.yErrorBars, drawn.filterMap (errorRow? index seriesCount)⟩]
      else []

/-- The line that lists the items, of which there is none without a series. -/
def plotLine (summary : Summary) : String :=
  if summary.results.isEmpty then ""
  else
    plotCommand (barWidth summary.benchmarks.length summary.series.length) (items summary) ++ "\n"

theorem mem_drawn_iff {summary : Summary} {series : String} {slot : Nat} {aggregate : Aggregate} :
    (slot, aggregate) ∈ drawn summary series ↔
      ∃ benchmark, summary.benchmarks[slot]? = some benchmark ∧
        summary.get? series benchmark = some aggregate := by
  simp only [drawn, List.mem_filterMap, Option.map_eq_some_iff, Prod.exists, Prod.mk.injEq,
    List.mem_zipIdx_iff_getElem?]
  constructor
  · rintro ⟨benchmark, _, listed, _, answered, rfl, rfl⟩
    exact ⟨benchmark, listed, answered⟩
  · rintro ⟨benchmark, listed, answered⟩
    exact ⟨benchmark, slot, listed, aggregate, answered, rfl, rfl⟩

theorem pairwise_drawn (summary : Summary) (series : String) :
    ((drawn summary series).map Prod.fst).Pairwise (· < ·) := by
  have increasing : summary.benchmarks.zipIdx.Pairwise fun left right => left.2 < right.2 := by
    rw [← List.pairwise_map, List.zipIdx_map_snd]
    exact List.pairwise_lt_range'
  rw [List.pairwise_map]
  apply List.Pairwise.filterMap _ _ increasing
  intro left right before _ isLeft _ isRight
  rcases Option.map_eq_some_iff.mp isLeft with ⟨_, _, rfl⟩
  rcases Option.map_eq_some_iff.mp isRight with ⟨_, _, rfl⟩
  exact before

theorem barsOf_eq_map (summary : Summary) (index : Nat) (name : String) :
    barsOf summary index name = (drawn summary name).map fun (slot, aggregate) =>
      ⟨barPosition slot index summary.series.length, aggregate⟩ := by
  rw [barsOf, drawn, List.map_filterMap]
  simp [Option.map_map, Function.comp_def]

theorem isEmpty_filterMap {α β : Type} (view : α → Option β) (items : List α) :
    (items.filterMap view).isEmpty = !items.any fun item => (view item).isSome := by
  induction items with
  | nil => rfl
  | cons item rest ih =>
      cases seen : view item with
      | none => simpa [seen] using ih
      | some value => simp [seen]

theorem isEmpty_errorRows (index seriesCount : Nat) (bars : List (Nat × Aggregate)) :
    (bars.filterMap (errorRow? index seriesCount)).isEmpty =
      !bars.any fun bar => bar.2.error.isSome := by
  rw [isEmpty_filterMap]
  simp [errorRow?]

/-- The items of a series are its data, of which none are without rows. -/
theorem block_ofBars (name : String) (color : Color) (index seriesCount : Nat)
    (bars : List (Nat × Aggregate)) :
    (Item.ofBars name color (bars.map fun (slot, aggregate) =>
        ⟨barPosition slot index seriesCount, aggregate⟩)).map Item.block =
      seriesBlocks index seriesCount bars := by
  have errorRows : (Item.errorBars ((bars.map fun (slot, aggregate) =>
      (⟨barPosition slot index seriesCount, aggregate⟩ : Bar)).filterMap fun bar =>
        bar.aggregate.error.map fun error => (bar, error))).rows =
      bars.filterMap (errorRow? index seriesCount) := by
    rw [Item.rows, List.filterMap_map, List.map_filterMap]
    simp only [Function.comp_apply, Option.map_map]
    rfl
  have noErrors := isEmpty_errorRows index seriesCount bars
  have barRows : (Item.bars name color (bars.map fun (slot, aggregate) =>
      ⟨barPosition slot index seriesCount, aggregate⟩)).rows =
        bars.map (barRow index seriesCount) := by
    rw [Item.rows, List.map_map]
    rfl
  rw [Item.ofBars, seriesBlocks]
  simp only [List.filter_cons, List.filter_nil, errorRows, barRows, noErrors, List.isEmpty_map]
  cases empty : bars.isEmpty
  · cases bars.any fun bar => bar.2.error.isSome <;>
      simp only [Item.block, Item.style, barRows, errorRows, Bool.not_true, Bool.not_false,
        Bool.false_eq_true, if_true, if_false, List.map_cons, List.map_nil]
  · rw [List.isEmpty_iff] at empty
    subst empty
    rfl

theorem blocks_items (summary : Summary) :
    (items summary).map Item.block =
      summary.series.zipIdx.flatMap fun (name, index) =>
        seriesBlocks index summary.series.length (drawn summary name) := by
  rw [items, List.map_flatMap]
  simp only [barsOf_eq_map, block_ofBars]

theorem commands_script (summary : Summary) (config : ChartConfig) (path : String) :
    (script summary config path).commands =
      String.join ((setup summary config path).map (· ++ "\n")) ++ plotLine summary := by
  unfold script plotLine
  dsimp only
  rw [List.map_append]
  cases summary.results.isEmpty <;> simp

/-- The script is the commands that set up the figure, the plot line and the data of the items. -/
theorem bytes_script (summary : Summary) (config : ChartConfig) (path : String) :
    (script summary config path).bytes.data.toList =
      (String.join ((setup summary config path).map (· ++ "\n"))).toUTF8.data.toList ++
        ((plotLine summary).toUTF8.data.toList ++
          ((items summary).flatMap Item.values).flatMap bytesOf) := by
  rw [Script.bytes, commands_script]
  simp [script]

/-- The commands in front of the plot line set something and plot nothing. -/
theorem forall_mem_setup (summary : Summary) (config : ChartConfig) (path : String) :
    ∀ command ∈ setup summary config path,
      "set ".toList <+: command.toList ∨ command = "unset bars" := by
  have sets (front rest : String) (opens : "set ".toList <+: front.toList) :
      "set ".toList <+: (front ++ rest).toList := by
    rw [String.toList_append]
    exact opens.trans (List.prefix_append _ _)
  have scale : ∀ command ∈ if config.logScale then ["set logscale y"] else [],
      "set ".toList <+: command.toList ∨ command = "unset bars" := by
    cases config.logScale <;> decide
  have title : ∀ command ∈ (config.title.map fun title =>
      "set title " ++ literal (escapeUnderscores title)).toList,
      "set ".toList <+: command.toList ∨ command = "unset bars" := by
    intro command isTitle
    rcases Option.map_eq_some_iff.mp (Option.mem_toList.mp isTitle) with ⟨title, _, rfl⟩
    exact Or.inl (sets _ _ (by decide))
  simp only [setup, List.forall_mem_append, List.forall_mem_cons, List.not_mem_nil, false_imp_iff,
    implies_true, and_true]
  refine ⟨⟨⟨⟨?_, title⟩, ?_, ?_, ?_, by decide, ?_⟩, scale⟩, by decide, by decide, by decide,
    by decide⟩
  all_goals exact Or.inl (sets _ _ (by decide))

/-- A name is drawn if there is a bar for it. -/
theorem drawn_ne_nil_of_mem_items {summary : Summary} {item : Item} (isItem : item ∈ items summary)
    {name : String} (isName : name ∈ item.name?) :
    name ∈ summary.series ∧ drawn summary name ≠ [] := by
  rcases List.mem_flatMap.mp isItem with ⟨⟨series, index⟩, listed, ofSeries⟩
  rcases List.mem_filter.mp ofSeries with ⟨either, nonempty⟩
  simp only [List.mem_cons, List.not_mem_nil, or_false] at either
  rcases either with rfl | rfl
  · rcases Option.some.inj isName with rfl
    refine ⟨List.fst_mem_of_mem_zipIdx listed, fun undrawn => ?_⟩
    simp [barsOf_eq_map, undrawn, Item.rows] at nonempty
  · cases isName

/-- In a summary of a table each entry is the answer for its series and its benchmark, so the bars
of a series are its entries. -/
theorem drawn_summaryOf {table : Table} (wellFormed : table.WellFormed) (config : ChartConfig)
    {result : SeriesSummary} (isResult : result ∈ (table.summaryOf config).results) :
    drawn (table.summaryOf config) result.name = result.entries.map fun entry =>
      ((table.summaryOf config).benchmarks.idxOf entry.benchmark, entry.aggregate) := by
  rcases List.mem_map.mp isResult with ⟨series, listed, rfl⟩
  have slots : table.benchmarks.zipIdx =
      table.benchmarks.map fun benchmark => (benchmark, table.benchmarks.idxOf benchmark) := by
    apply List.ext_getElem (by simp)
    intro slot below _
    simp [wellFormed.benchmarks_nodup.idxOf_getElem]
  simp only [drawn, Table.get?_summaryOf_eq wellFormed]
  change table.benchmarks.zipIdx.filterMap _ = _
  rw [slots, List.filterMap_map, List.map_filterMap]
  apply List.filterMap_congr
  intro benchmark _
  simp only [Function.comp_apply, Option.map_map]
  cases made : table.entryIn? config series benchmark with
  | none => rfl
  | some entry =>
      rw [← Table.benchmark_of_entryIn? made]
      rfl

/-- Behind the commands that set up the figure the bytes are a plot line and data. If no name that
is drawn has a quote or a line feed, the items that are read from the line announce just the rows of
the series, one after the other: a bar for every benchmark in which the summary has an answer for
the series, in the order of the benchmarks, and behind the bars the error bars of the answers that
have one. Nothing is left. The bars of a series of a computed summary are its entries, each of them
once. -/
theorem read_script (summary : Summary) (config : ChartConfig) (path : String)
    (plain : ∀ name ∈ summary.series, drawn summary name ≠ [] →
      '\'' ∉ name.toList ∧ '\n' ∉ name.toList) :
    (∃ behind,
      (script summary config path).bytes.data.toList =
          (String.join ((setup summary config path).map (· ++ "\n"))).toUTF8.data.toList ++ behind ∧
        readPlot behind = some (summary.series.zipIdx.flatMap fun (name, index) =>
          seriesBlocks index summary.series.length (drawn summary name))) ∧
      (∀ command ∈ setup summary config path,
        "set ".toList <+: command.toList ∨ command = "unset bars") ∧
      (∀ series,
        ((drawn summary series).map Prod.fst).Pairwise (· < ·) ∧
        ∀ slot aggregate, (slot, aggregate) ∈ drawn summary series ↔
          ∃ benchmark, summary.benchmarks[slot]? = some benchmark ∧
            summary.get? series benchmark = some aggregate) ∧
      ∀ table : Table, ∀ config, table.Reachable → table.summarize config = .ok summary →
        ∀ result ∈ summary.results,
          drawn summary result.name = result.entries.map fun entry =>
            (summary.benchmarks.idxOf entry.benchmark, entry.aggregate) := by
  refine ⟨⟨(plotLine summary).toUTF8.data.toList ++
    ((items summary).flatMap Item.values).flatMap bytesOf, ?_, ?_⟩,
    forall_mem_setup summary config path,
    fun series => ⟨pairwise_drawn summary series, fun _ _ => mem_drawn_iff⟩, ?_⟩
  · exact bytes_script summary config path
  · have names : ∀ item ∈ items summary, ∀ name ∈ item.name?,
        '\'' ∉ name.toList ∧ '\n' ∉ name.toList := by
      intro item isItem name isName
      rcases drawn_ne_nil_of_mem_items isItem isName with ⟨listed, isDrawn⟩
      exact plain name listed isDrawn
    have blocks := readBlocks_values (items summary) []
    rw [List.append_nil, blocks_items] at blocks
    rw [plotLine]
    split
    next noResults =>
      have noItems : items summary = [] := by
        rw [items, Summary.series, List.isEmpty_iff.mp noResults]
        rfl
      rw [noItems] at blocks ⊢
      rw [← blocks_items, noItems]
      rfl
    next =>
      exact readPlot_of_announced
        (lineFeed_not_mem_plotCommand _ fun item isItem name isName =>
          (names item isItem name isName).2)
        (announcements?_plotCommand _ fun item isItem name isName =>
          (names item isItem name isName).1) blocks
  · intro table config reachable summarized result isResult
    rcases Table.summarize_eq_ok_iff.mp summarized with ⟨_, rfl⟩
    exact drawn_summaryOf reachable.wellFormed config isResult

/-- Two series without a common benchmark, of which one has a comma in its name. -/
theorem read_script_sparse_table :
    ∃ table summary behind,
      Table.parse .headered "a,b c\n# x a,b\n1\n# y c\n2\n" = .ok table ∧
        table.summarize .grouped = .ok summary ∧
        (script summary .grouped "chart.svg").bytes.data.toList =
          (String.join ((setup summary .grouped "chart.svg").map (· ++ "\n"))).toUTF8.data.toList ++
            behind ∧
        (readPlot behind).map (·.map fun block => (block.style, block.rows.length)) =
          some [(.impulses, 1), (.impulses, 1)] ∧
        ∀ result ∈ summary.results,
          drawn summary result.name = result.entries.map fun entry =>
            (summary.benchmarks.idxOf entry.benchmark, entry.aggregate) := by
  have summarizes :
      ((Table.parse .headered "a,b c\n# x a,b\n1\n# y c\n2\n").toOption.map fun table =>
        (table.summarize .grouped).toOption.map fun summary =>
          (summary.series, (summary.series.zipIdx.flatMap fun (name, index) =>
            seriesBlocks index summary.series.length (drawn summary name)).map fun block =>
              (block.style, block.rows.length))) =
        some (some (["a,b", "c"], [(.impulses, 1), (.impulses, 1)])) := by
    decide +kernel
  rcases exists_ok_of_toOption_map summarizes with ⟨table, parsed, ofSummary⟩
  rcases exists_ok_of_toOption_map ofSummary with ⟨summary, summarized, seen⟩
  rcases Prod.mk.inj seen with ⟨names, blocks⟩
  have plain : ∀ name ∈ summary.series, drawn summary name ≠ [] →
      '\'' ∉ name.toList ∧ '\n' ∉ name.toList := by
    intro name listed _
    rw [names] at listed
    rcases List.mem_pair.mp listed with rfl | rfl <;> decide
  rcases read_script summary .grouped "chart.svg" plain with
    ⟨⟨behind, split, read⟩, _, _, entries⟩
  refine ⟨table, summary, behind, parsed, summarized, split, ?_,
    entries table .grouped (.parsed parsed) summarized⟩
  rw [read, Option.map_some, blocks]

/-- A series with a quote in its name takes the series behind it into its own item, and the data of
that one are left over. -/
theorem not_read_script_quote :
    ∃ table summary behind,
      Table.parse .auto "# b\nit's 1\nset 2\n" = .ok table ∧
        table.summarize .grouped = .ok summary ∧
        (script summary .grouped "chart.svg").bytes.data.toList =
          (String.join ((setup summary .grouped "chart.svg").map (· ++ "\n"))).toUTF8.data.toList ++
            behind ∧
        (readPlot behind).isNone = true := by
  have summarizes :
      ((Table.parse .auto "# b\nit's 1\nset 2\n").toOption.map fun table =>
        (table.summarize .grouped).toOption.map fun summary =>
          (readPlot ((plotLine summary).toUTF8.data.toList ++
            ((items summary).flatMap Item.values).flatMap bytesOf)).isNone) =
        some (some true) := by
    decide +kernel
  rcases exists_ok_of_toOption_map summarizes with ⟨table, parsed, ofSummary⟩
  rcases exists_ok_of_toOption_map ofSummary with ⟨summary, summarized, unread⟩
  exact ⟨table, summary, _, parsed, summarized, bytes_script summary .grouped "chart.svg", unread⟩

end SampleChart.Chart
