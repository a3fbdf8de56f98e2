import SampleChart.Proofs.Command.Outcome
import SampleChart.Proofs.Command.Words

/-!
# Runs and presets

A run charts what the library charts for a preset that is adjusted by the words of the command line.
The preset is `normalized` as soon as a baseline is given, be it empty, and `grouped` otherwise, and
a part of it is replaced exactly if the option for this part is given. Options have defaults of
their own, which do not come from the presets: `preset_eq` says that the two agree.
`ChartConfig.products` is what the library leaves for a configuration, told without any options.
-/

namespace SampleChart

/-- The values of an option leave the usual part if there are none. A single value replaces it. -/
def Replaces {α : Type} (values : List String) (read : String → Option α) (usual part : α) : Prop :=
  values = [] ∧ part = usual ∨ ∃ value, values = [value] ∧ read value = some part

namespace Replaces

variable {α : Type} {values : List String} {read : String → Option α} {usual part : α}
  {value : String}

theorem eq_usual (replaces : Replaces values read usual part) (unset : values = []) :
    part = usual := by
  rcases replaces with ⟨_, kept⟩ | ⟨value, single, _⟩
  · exact kept
  · simp [single] at unset

theorem read_eq (replaces : Replaces values read usual part) (present : value ∈ values) :
    read value = some part := by
  rcases replaces with ⟨unset, _⟩ | ⟨other, rfl, isPart⟩
  · simp [unset] at present
  · rw [List.mem_singleton.mp present]
    exact isPart

theorem of_map_eq {found : Option α} (same : values.map read = found.toList.map some)
    (usual : α) : Replaces values read usual (found.getD usual) := by
  cases found with
  | none => exact Or.inl ⟨by simpa using same, rfl⟩
  | some part =>
      rcases List.map_eq_singleton_iff.mp same with ⟨value, single, isPart⟩
      exact Or.inr ⟨value, single, isPart⟩

theorem of_eq {found : Option String} (same : values = found.toList) (usual : String) :
    Replaces values some usual (found.getD usual) :=
  of_map_eq (congrArg (List.map some) same) usual

theorem of_eq_toList {found : Option String} (same : values = found.toList) :
    Replaces values (fun text => some (some text)) none found := by
  cases found with
  | none => exact Or.inl ⟨same, rfl⟩
  | some text => exact Or.inr ⟨text, same, rfl⟩

end Replaces

namespace ChartConfig

open Word (given)

/-- The preset that goes with a baseline or with none. -/
def preset : Option String → ChartConfig
  | some baseline => normalized baseline
  | none => grouped

/-- The presets have the defaults of the options. -/
theorem preset_eq (baseline : Option String) :
    preset baseline =
      { layout := .auto
        baseline
        dispersion := Options.defaultDispersion baseline
        sums := []
        logScale := false
        title := none
        xLabel := grouped.xLabel
        yLabel := defaultYLabel baseline } := by
  cases baseline <;> rfl

/-- A configuration is a preset of which the words replace the parts that their options are for. -/
structure Adjusts (config usual : ChartConfig) (words : List Word) : Prop where
  baseline : config.baseline = usual.baseline
  layout : Replaces (given .layout words) (Named.ofName? false) usual.layout config.layout
  dispersion :
    Replaces (given .dispersion words) (Named.ofName? false) usual.dispersion config.dispersion
  sums :
    given .sum words = [] ∧ config.sums = usual.sums ∨
      given .sum words ≠ [] ∧ (given .sum words).map DerivedSeries.parse = config.sums.map .ok
  logScale :
    .flag .logScale ∉ words ∧ config.logScale = usual.logScale ∨
      .flag .logScale ∈ words ∧ config.logScale = true
  title : Replaces (given .title words) (fun title => some (some title)) usual.title config.title
  xLabel : Replaces (given .xLabel words) some usual.xLabel config.xLabel
  yLabel : Replaces (given .yLabel words) some usual.yLabel config.yLabel

variable {config usual : ChartConfig} {words : List Word}

/-- What no option is given for stays as it is in the preset. -/
theorem Adjusts.eq_usual (adjusts : config.Adjusts usual words)
    (unset : ∀ setting value, .setting setting value ∈ words →
      setting = .baseline ∨ setting = .outputDirectory)
    (linear : .flag .logScale ∉ words) : config = usual := by
  have nothing {setting : Setting} (other : setting ≠ .baseline ∧ setting ≠ .outputDirectory) :
      given setting words = [] := by
    apply Word.given_eq_nil_iff.mpr
    intro value present
    exact (unset setting value present).elim other.1 other.2
  have sums : config.sums = usual.sums :=
    adjusts.sums.elim (·.2) fun replaced => absurd (nothing (by decide)) replaced.1
  have logScale : config.logScale = usual.logScale :=
    adjusts.logScale.elim (·.2) fun replaced => absurd replaced.1 linear
  have layout := adjusts.layout.eq_usual (nothing (by decide))
  have dispersion := adjusts.dispersion.eq_usual (nothing (by decide))
  have title := adjusts.title.eq_usual (nothing (by decide))
  have xLabel := adjusts.xLabel.eq_usual (nothing (by decide))
  have yLabel := adjusts.yLabel.eq_usual (nothing (by decide))
  rcases config
  rcases usual
  rw [mk.injEq]
  exact ⟨layout, adjusts.baseline, dispersion, sums, logScale, title, xLabel, yLabel⟩

end ChartConfig

namespace Options

/-- The options are what the words ask for. -/
structure Follows (options : Options) (words : List Word) : Prop where
  input : Word.inputs words = [options.input]
  outputDirectory :
    Replaces (Word.given .outputDirectory words) some "." options.outputDirectory
  noPlot : options.noPlot = true ↔ .flag .noPlot ∈ words
  config : ∃ baseline, Word.given .baseline words = baseline.toList ∧
    options.config.Adjusts (ChartConfig.preset baseline) words

variable {options : Options} {arguments : List String} {words : List Word}

/-- A configuration is the preset with what the arguments say put in its place. -/
theorem adjusts_preset {draft : Draft} (holds : draft.Holds words)
    (finished : draft.finish = .ok options) :
    options.config.Adjusts (ChartConfig.preset draft.baseline) words := by
  rw [Draft.finish] at finished
  split at finished
  next => cases finished
  next =>
    cases finished
    rw [ChartConfig.preset_eq]
    refine ⟨rfl, .of_map_eq holds.layout _, .of_map_eq holds.dispersion _, ?_, ?_, ?_,
      .of_eq holds.xLabel _, .of_eq holds.yLabel _⟩
    · have sums := holds.sums
      by_cases unset : Word.given .sum words = []
      · have noSums : draft.sums = [] := by simpa [unset] using sums.symm
        exact Or.inl ⟨unset, noSums⟩
      · exact Or.inr ⟨unset, sums⟩
    · by_cases set : .flag .logScale ∈ words
      · exact Or.inr ⟨set, holds.logScale.mpr set⟩
      · exact Or.inl ⟨set, Bool.eq_false_iff.mpr (mt holds.logScale.mp set)⟩
    · exact .of_eq_toList holds.title

/-- Options follow the words that their arguments spell. -/
theorem follows_of_ofArguments (spells : Spells arguments words)
    (accepted : ofArguments arguments = .ok options) : options.Follows words := by
  rw [ofArguments, bind_eq_ok_iff] at accepted
  rcases accepted with ⟨draft, taken, finished⟩
  have holds : draft.Holds words := Draft.holds_nothing.takeArguments spells taken
  have adjusts := adjusts_preset holds finished
  rw [Draft.finish] at finished
  split at finished
  next => cases finished
  next input isInput =>
    cases finished
    refine ⟨?_, .of_eq holds.outputDirectory ".", holds.noPlot, _, holds.baseline, adjusts⟩
    rw [holds.input, isInput, Option.toList_some]

end Options

/-- The stages of the library that lead from a file to a summary. -/
def Files.summarize (files : Files) (config : ChartConfig) (path : String) :
    Except Error Summary := do
  let table ← files.readTable config.layout path
  let derived ← config.deriveSeries table
  derived.summarize config

/-- What is printed, what the files are afterwards, and what the plotting program is sent. -/
structure Products where
  output : String
  files : Files
  script : Option Chart.Script

/-- The products of the library for a configuration: the listing with an empty line, the document at
the path of the summary, and the script of the chart if there is a path for it. -/
def ChartConfig.products (config : ChartConfig) (input summaryPath : String)
    (chartPath : Option String) (files : Files) (ending : Chart.Ending) : Products :=
  match files.summarize config input with
  | .error _ => ⟨"", files, none⟩
  | .ok summary =>
      match files.writeSummary summaryPath summary with
      | .error _ => ⟨summary.text ++ "\n", files, none⟩
      | .ok written =>
          ⟨summary.text ++ "\n", written,
            if ending.started then chartPath.map (Chart.script summary config) else none⟩

def Outcome.products (outcome : Outcome) : Products :=
  ⟨outcome.output, outcome.files, outcome.script⟩

/-- A script is sent exactly if there is a chart and the plotting program was started. -/
theorem Report.script_plot (report : Report) (files : Files) (ending : Chart.Ending) :
    (report.plot files ending).script =
      if ending.started then report.chartPath.map (Chart.script report.summary report.config)
      else none := by
  cases charted : report.chartPath with
  | none =>
      rw [plot_of_no_chart charted]
      simp
  | some path =>
      cases faulty : ending.fault? with
      | none =>
          rcases Chart.Ending.fault?_eq_none_iff.mp faulty with rfl
          rw [plot_of_drawn charted]
          rfl
      | some fault =>
          rw [plot_of_fault charted faulty]
          rfl

namespace Options

variable {options : Options} {files : Files}

/-- The library makes the summary of a run out of the same input and configuration. -/
theorem summarize_eq_ok_iff {summary : Summary} :
    files.summarize options.config options.input = .ok summary ↔
      options.Summarizes files summary := by
  simp only [Files.summarize, Summarizes, bind_eq_ok_iff, exists_and_left]

theorem summarize_of_stopsAt {context : String} {error : Error}
    (stops : options.StopsAt files context error) :
    files.summarize options.config options.input = .error error := by
  cases stops <;> simp_all [Files.summarize, bind, Except.bind]

/-- What a run leaves is what the library makes with the configuration of the run. -/
theorem products_run (options : Options) (files : Files) (ending : Chart.Ending) :
    (options.run files ending).products =
      options.config.products options.input options.summaryPath
        (if options.noPlot then none else some options.chartPath) files ending := by
  rcases options.stopsAt_or_summarizes files with ⟨_, _, stops⟩ | ⟨summary, summarizes⟩
  · rcases run_of_stopsAt stops ending with ⟨failure, stopped, _⟩
    rw [stopped, ChartConfig.products, summarize_of_stopsAt stops]
    rfl
  · rw [run_of_summarizes summarizes, ChartConfig.products, summarize_eq_ok_iff.mpr summarizes]
    cases wrote : files.write options.summaryPath summary.document.toUTF8 with
    | error fault =>
        rw [Report.carryOut_of_unwritten (options.report summary) wrote]
        simp only [Files.writeSummary_of_fault wrote]
        rfl
    | ok written =>
        rcases Report.plot_outcome (options.report summary) written ending with ⟨output, kept, _⟩
        rw [Report.carryOut_of_written (options.report summary) wrote, Outcome.products, output,
          kept, Report.script_plot]
        simp only [Files.writeSummary_eq_ok_iff.mpr wrote]
        rfl

end Options

/-- Accepted arguments are a run of the library. Its configuration is the preset of the baseline
that they give, or of none, in which each part is replaced exactly if the option for it is given.
So a given dispersion or label stands whatever the preset brings along, and a baseline without
any of these options is the preset for it. -/
theorem run_under_preset {arguments : List String} {options : Options}
    (accepted : Options.ofArguments arguments = .ok options) (files : Files)
    (ending : Chart.Ending) :
    (∃ words, Spells arguments words) ∧
    (∀ words, Spells arguments words →
      options.Follows words ∧
      ∀ baseline, .setting .baseline baseline ∈ words →
        (.setting .dispersion "none" ∈ words → options.config.dispersion = .none) ∧
        (∀ label, .setting .yLabel label ∈ words → options.config.yLabel = label) ∧
        ((∀ setting value, .setting setting value ∈ words →
            setting = .baseline ∨ setting = .outputDirectory) →
          .flag .logScale ∉ words → options.config = .normalized baseline)) ∧
    ∃ outcome, run arguments files ending = .finished outcome ∧
      outcome.products =
        options.config.products options.input options.summaryPath
          (if options.noPlot then none else some options.chartPath) files ending := by
  have finished : run arguments files ending = .finished (options.run files ending) := by
    rw [run, accepted]
  refine ⟨?_, ?_, _, finished, options.products_run files ending⟩
  · rcases bind_eq_ok_iff.mp accepted with ⟨draft, taken, _⟩
    exact Draft.exists_spells taken
  · intro words spells
    have follows := Options.follows_of_ofArguments spells accepted
    refine ⟨follows, fun baseline given => ?_⟩
    rcases follows.config with ⟨single, isGiven, adjusts⟩
    have isBaseline : single = some baseline := by
      rw [← Option.mem_toList, ← isGiven]
      exact Word.mem_given_iff.mpr given
    rw [isBaseline] at adjusts
    refine ⟨?_, ?_, fun unset linear => adjusts.eq_usual unset linear⟩
    · intro none
      have read := adjusts.dispersion.read_eq (Word.mem_given_iff.mpr none)
      exact (Option.some.inj read).symm
    · intro label labelled
      have read := adjusts.yLabel.read_eq (Word.mem_given_iff.mpr labelled)
      exact (Option.some.inj read).symm

/-- A dispersion that is given stands beside a baseline, and an empty baseline is one. -/
theorem run_under_preset_of_baseline :
    (∃ (options : Options) (files : Files) (outcome : Outcome),
      files.read "r.dat" = .ok "# b offset\n1\n# b native\n2\n".toUTF8 ∧
      Options.ofArguments ["r.dat", "--baseline=native", "--dispersion", "none"] = .ok options ∧
      run ["r.dat", "--baseline=native", "--dispersion", "none"] files (.exited 0) =
        .finished outcome ∧
      outcome.products =
        options.config.products "r.dat" "./r.json" (some "./r.svg") files (.exited 0) ∧
      outcome.script.isSome = true ∧ options.config.dispersion = .none) ∧
    ∃ options, Options.ofArguments ["--baseline=", "r.dat"] = .ok options ∧
      options.config = .normalized "" := by
  constructor
  · have accepted : Options.ofArguments ["r.dat", "--baseline=native", "--dispersion", "none"] =
        .ok ⟨"r.dat", .auto, some "native", some .none, [], false, none, none, none, ".", false⟩ :=
      rfl
    have spells : Spells ["r.dat", "--baseline=native", "--dispersion", "none"]
        [.input "r.dat", .setting .baseline "native", .setting .dispersion "none"] :=
      .input (by decide) (@Spells.joined .baseline "native" _ _
        (@Spells.apart .dispersion "none" _ _ (by decide) .nothing))
    rcases run_under_preset accepted
        ⟨[.directory 0 [("r.dat", 1)], .file "# b offset\n1\n# b native\n2\n".toUTF8], 0, 0⟩
        (.exited 0) with
      ⟨_, particular, outcome, finished, products⟩
    rcases particular _ spells with ⟨_, beside⟩
    rcases beside "native" (by decide) with ⟨dispersion, _⟩
    have charted := congrArg (fun products => products.script.isSome) products
    refine ⟨_, _, outcome, rfl, accepted, finished, products, charted.trans ?_,
      dispersion (by decide)⟩
    decide +kernel
  · have accepted : Options.ofArguments ["--baseline=", "r.dat"] =
        .ok ⟨"r.dat", .auto, some "", none, [], false, none, none, none, ".", false⟩ := rfl
    have spells : Spells ["--baseline=", "r.dat"] [.setting .baseline "", .input "r.dat"] :=
      @Spells.joined .baseline "" _ _ (.input (by decide) .nothing)
    rcases run_under_preset accepted .empty (.exited 0) with ⟨_, particular, _⟩
    rcases particular _ spells with ⟨_, beside⟩
    rcases beside "" (by decide) with ⟨_, _, alone⟩
    exact ⟨_, accepted, alone (by simp) (by decide)⟩

end SampleChart
