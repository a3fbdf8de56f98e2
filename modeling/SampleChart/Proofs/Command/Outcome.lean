import SampleChart.Command.Run
import SampleChart.Proofs.Files.Writing
import SampleChart.Proofs.Stages

/-!
# Outcomes of runs

What a run leaves depends on how far it comes. Up to the summary nothing can be seen of it:
`Options.StopsAt` lists the three ways in which it may end before, each with the stages that went
through before it, and such a run leaves nothing but its line of errors. A run with a summary prints
it, and from there on only writing and plotting can fail, in this order. The stages are opened by
`stopsAt_of_prepare` and `prepare_eq_ok_iff`, the effects by the lemmas about `Report.carryOut` and
`Report.plot`.
-/

namespace SampleChart

theorem Stage.attempt_eq_ok_iff {α : Type} {stage : Stage} {attempted : Except Error α}
    {value : α} : stage.attempt attempted = .ok value ↔ attempted = .ok value := by
  cases attempted <;> simp [Stage.attempt]

/-- A stage fails exactly with the error of what was attempted, and says that it was this stage. -/
theorem Stage.attempt_eq_error_iff {α : Type} {stage : Stage} {attempted : Except Error α}
    {failure : Failure} :
    stage.attempt attempted = .error failure ↔
      failure.stage = stage ∧ attempted = .error failure.error := by
  rcases failure with ⟨other, error⟩
  cases attempted with
  | error fault => simp [Stage.attempt, eq_comm]
  | ok value => simp [Stage.attempt]

/-- A line of errors has the context of the stage first, and then the error and its cause. -/
theorem Failure.line_eq (failure : Failure) :
    failure.line = "error: " ++ failure.stage.context ++ ": " ++
      ": ".intercalate (failure.error.message :: failure.error.cause?.toList) := by
  simp only [Failure.line, String.intercalate_cons_cons, String.append_assoc]

/-- A run that failed: it exits with one, and its line of errors has a context, the error and the
cause. -/
structure Outcome.FailedIn (outcome : Outcome) (context : String) (error : Error) : Prop where
  exitCode_eq : outcome.exitCode = 1
  errors_eq : outcome.errors = "error: " ++ context ++ ": " ++
    ": ".intercalate (error.message :: error.cause?.toList) ++ "\n"

/-- A run that stops with a failure reports it under the context of its stage. -/
theorem Outcome.failedIn_failed (output : String) (files : Files) (script : Option Chart.Script)
    (failure : Failure) :
    (Outcome.failed output files script failure).FailedIn failure.stage.context failure.error where
  exitCode_eq := rfl
  errors_eq := by rw [Outcome.failed, Failure.line_eq]

namespace Options

variable {options : Options} {files : Files}

/-- The first of the stages before any effect that fails, told by its context, and its error. -/
inductive StopsAt (options : Options) (files : Files) : String → Error → Prop
  | parse {error : Error}
      (unread : files.readTable options.config.layout options.input = .error error) :
      StopsAt options files ("couldn't parse " ++ options.input) error
  | derive {table : Table} {error : Error}
      (read : files.readTable options.config.layout options.input = .ok table)
      (underived : options.config.deriveSeries table = .error error) :
      StopsAt options files "couldn't derive series" error
  | aggregate {table derived : Table} {error : Error}
      (read : files.readTable options.config.layout options.input = .ok table)
      (derives : options.config.deriveSeries table = .ok derived)
      (unsummarized : derived.summarize options.config = .error error) :
      StopsAt options files ("couldn't aggregate " ++ options.input) error

/-- All of these stages go through, and they end with a summary. -/
def Summarizes (options : Options) (files : Files) (summary : Summary) : Prop :=
  ∃ table derived, files.readTable options.config.layout options.input = .ok table ∧
    options.config.deriveSeries table = .ok derived ∧
    derived.summarize options.config = .ok summary

/-- Where the summary is written. -/
def summaryPath (options : Options) : String :=
  Path.summary options.input options.outputDirectory

/-- Where the chart is plotted. -/
def chartPath (options : Options) : String :=
  Path.chart options.input options.outputDirectory

/-- What is to be done with a summary. -/
def report (options : Options) (summary : Summary) : Report where
  summary := summary
  config := options.config
  summaryPath := options.summaryPath
  chartPath := if options.noPlot then none else some options.chartPath

/-- What fails before there is a report is one of the first three stages. -/
theorem stopsAt_of_prepare {failure : Failure}
    (failed : prepare options (files.readTable options.config.layout options.input) =
      .error failure) :
    options.StopsAt files failure.stage.context failure.error := by
  simp only [prepare, bind_eq_error_iff, Stage.attempt_eq_error_iff, Stage.attempt_eq_ok_iff, pure,
    Except.pure, reduceCtorEq, and_false, exists_false, or_false] at failed
  rcases failed with ⟨stage, unread⟩ | ⟨table, read, ⟨stage, underived⟩ | ⟨derived, derives, rest⟩⟩
  · rw [stage]
    exact .parse unread
  · rw [stage]
    exact .derive read underived
  · rw [rest.1]
    exact .aggregate read derives rest.2

/-- A run that stops fails in a stage with this context. -/
theorem StopsAt.prepare_eq {context : String} {error : Error}
    (stops : options.StopsAt files context error) :
    ∃ stage, prepare options (files.readTable options.config.layout options.input) =
      .error ⟨stage, error⟩ ∧ stage.context = context := by
  cases stops with
  | parse unread =>
      refine ⟨.parse options.input, ?_, rfl⟩
      simp [prepare, unread, Stage.attempt, bind, Except.bind]
  | derive read underived =>
      refine ⟨.derive, ?_, rfl⟩
      simp [prepare, read, underived, Stage.attempt, bind, Except.bind]
  | aggregate read derives unsummarized =>
      refine ⟨.aggregate options.input, ?_, rfl⟩
      simp [prepare, read, derives, unsummarized, Stage.attempt, bind, Except.bind]

/-- There is a report exactly if the input has a summary, and it is the report of this. -/
theorem prepare_eq_ok_iff {made : Report} :
    prepare options (files.readTable options.config.layout options.input) = .ok made ↔
      ∃ summary, options.Summarizes files summary ∧ options.report summary = made := by
  simp only [prepare, bind_eq_ok_iff, Stage.attempt_eq_ok_iff, pure, Except.pure, Except.ok.injEq]
  constructor
  · rintro ⟨table, read, derived, derives, summary, summarized, rfl⟩
    exact ⟨summary, ⟨table, derived, read, derives, summarized⟩, rfl⟩
  · rintro ⟨summary, ⟨table, derived, read, derives, summarized⟩, rfl⟩
    exact ⟨table, read, derived, derives, summary, summarized, rfl⟩

/-- Either one of the first three stages fails, or there is a summary. -/
theorem stopsAt_or_summarizes (options : Options) (files : Files) :
    (∃ context error, options.StopsAt files context error) ∨
      ∃ summary, options.Summarizes files summary := by
  cases prepared : prepare options (files.readTable options.config.layout options.input) with
  | error failure => exact Or.inl ⟨_, _, stopsAt_of_prepare prepared⟩
  | ok made =>
      rcases prepare_eq_ok_iff.mp prepared with ⟨summary, summarizes, _⟩
      exact Or.inr ⟨summary, summarizes⟩

/-- Where one of the first three stages fails, nothing is printed and no file changes. -/
theorem run_of_stopsAt {context : String} {error : Error}
    (stops : options.StopsAt files context error) (ending : Chart.Ending) :
    ∃ failure, options.run files ending = .failed "" files none failure ∧
      failure.stage.context = context ∧ failure.error = error := by
  rcases stops.prepare_eq with ⟨stage, prepared, isContext⟩
  exact ⟨_, by rw [Options.run, prepared], isContext, rfl⟩

theorem run_of_summarizes {summary : Summary} (summarizes : options.Summarizes files summary)
    (ending : Chart.Ending) :
    options.run files ending = (options.report summary).carryOut files ending := by
  rw [Options.run, prepare_eq_ok_iff.mpr ⟨summary, summarizes, rfl⟩]

end Options

/-- Only a status of zero is a good end. -/
theorem Chart.Ending.fault?_eq_none_iff {ending : Chart.Ending} :
    ending.fault? = none ↔ ending = .exited 0 := by
  cases ending with
  | exited status => cases status <;> simp [Chart.Ending.fault?]
  | _ => simp [Chart.Ending.fault?]

theorem Files.writeSummary_eq_ok_iff {files written : Files} {path : String} {summary : Summary} :
    files.writeSummary path summary = .ok written ↔
      files.write path summary.document.toUTF8 = .ok written := by
  rw [Files.writeSummary]
  cases files.write path summary.document.toUTF8 <;> simp

theorem Files.writeSummary_of_fault {files : Files} {path : String} {summary : Summary}
    {fault : FileFault} (failed : files.write path summary.document.toUTF8 = .error fault) :
    files.writeSummary path summary = .error (.file fault) := by
  rw [Files.writeSummary, failed]

namespace Report

variable {report : Report} {files written : Files} {ending : Chart.Ending} {path : String}

theorem plot_of_no_chart (noChart : report.chartPath = none) (files : Files)
    (ending : Chart.Ending) :
    report.plot files ending = ⟨0, report.output, "", files, none⟩ := by
  rw [plot, noChart]

/-- With a good end of the plotting program a run ends well, and the script is what it was sent. -/
theorem plot_of_drawn (charted : report.chartPath = some path) (files : Files) :
    report.plot files (.exited 0) =
      ⟨0, report.output, "", files, some (Chart.script report.summary report.config path)⟩ := by
  rw [plot, charted]
  rfl

/-- With any other end the run fails in its last stage. What was printed and written stays. -/
theorem plot_of_fault {fault : PlotFault} (charted : report.chartPath = some path)
    (faulty : ending.fault? = some fault) (files : Files) :
    report.plot files ending =
      .failed report.output files
        (if ending.started then some (Chart.script report.summary report.config path) else none)
        ⟨.plot path, .plot fault⟩ := by
  simp only [plot, charted, Chart.plot, faulty, Stage.attempt]

/-- Whatever comes of the chart, the listing is printed and the files stay as they are. The run
fails exactly if there is a chart and it is not drawn. -/
theorem plot_outcome (report : Report) (files : Files) (ending : Chart.Ending) :
    (report.plot files ending).output = report.output ∧
    (report.plot files ending).files = files ∧
    ((report.plot files ending).script.isSome = true ↔
      report.chartPath ≠ none ∧ ending.started = true) ∧
    ((report.plot files ending).exitCode = 0 ↔ report.chartPath = none ∨ ending = .exited 0) ∧
    ((report.plot files ending).exitCode = 0 ∧ (report.plot files ending).errors = "" ∨
      ∃ path fault, report.chartPath = some path ∧ ending.fault? = some fault ∧
        (report.plot files ending).FailedIn ("couldn't plot " ++ path) (.plot fault)) := by
  cases charted : report.chartPath with
  | none =>
      rw [plot_of_no_chart charted]
      simp
  | some path =>
      cases faulty : ending.fault? with
      | none =>
          rcases Chart.Ending.fault?_eq_none_iff.mp faulty with rfl
          rw [plot_of_drawn charted]
          simp [Chart.Ending.started]
      | some fault =>
          have undrawn : ending ≠ .exited 0 := by
            rintro rfl
            cases faulty
          rw [plot_of_fault charted faulty]
          have failed := Outcome.failedIn_failed report.output files
            (if ending.started then some (Chart.script report.summary report.config path) else none)
            ⟨.plot path, .plot fault⟩
          refine ⟨rfl, rfl, ?_, ?_, Or.inr ⟨path, fault, rfl, rfl, failed⟩⟩
          · cases ending.started <;> simp [Outcome.failed]
          · simp [failed.exitCode_eq, undrawn]

theorem carryOut_of_written (report : Report)
    (success : files.write report.summaryPath report.summary.document.toUTF8 = .ok written)
    (ending : Chart.Ending) : report.carryOut files ending = report.plot written ending := by
  rw [carryOut, Files.writeSummary_eq_ok_iff.mpr success, Stage.attempt]

/-- If the summary cannot be written, the listing has been printed and nothing is plotted. -/
theorem carryOut_of_unwritten (report : Report) {fault : FileFault}
    (failed : files.write report.summaryPath report.summary.document.toUTF8 = .error fault)
    (ending : Chart.Ending) :
    report.carryOut files ending =
      .failed report.output files none ⟨.write report.summaryPath, .file fault⟩ := by
  rw [carryOut, Files.writeSummary_of_fault failed, Stage.attempt]

end Report

end SampleChart
