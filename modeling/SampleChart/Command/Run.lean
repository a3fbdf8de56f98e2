import SampleChart.Chart.Plotting
import SampleChart.Command.Arguments
import SampleChart.Files
import SampleChart.Summary.Aggregation
import SampleChart.Summary.Document
import SampleChart.Summary.Listing
import SampleChart.Table.Reading

/-!
# Runs

A run reads a results file, adds the derived series, aggregates, prints the listing, writes the
summary and plots the chart, in this order, and stops at the first stage that fails. `prepare` is
all that comes before the first effect: from the content of the input it makes a `Report`, which
holds everything that the run is going to print, write and plot. `run` carries it out on given files
and with a given ending of the plotting program.
-/

namespace SampleChart

/-- The stage of a run that fails, with the path that its message names. -/
inductive Stage where
  | parse (input : String)
  | derive
  | aggregate (input : String)
  | write (path : String)
  | plot (path : String)
  deriving DecidableEq, Repr

/-- What could not be done in a stage. -/
def Stage.context : Stage → String
  | parse input => "couldn't parse " ++ input
  | derive => "couldn't derive series"
  | aggregate input => "couldn't aggregate " ++ input
  | write path => "couldn't write " ++ path
  | plot path => "couldn't plot " ++ path

/-- An error with the stage in which it arose. -/
structure Failure where
  stage : Stage
  error : Error

/-- The line that reports a failure: the stage, the error and the cause behind it. -/
def Failure.line (failure : Failure) : String :=
  let causes := failure.error.cause?.toList
  "error: " ++ ": ".intercalate (failure.stage.context :: failure.error.message :: causes)

/-- Puts the stage to an error. -/
def Stage.attempt {α : Type} (stage : Stage) : Except Error α → Except Failure α
  | .ok value => .ok value
  | .error error => .error ⟨stage, error⟩

/-- The table in the file that a path leads to. -/
def Files.readTable (files : Files) (layout : Layout) (path : String) : Except Error Table :=
  match files.read path with
  | .ok bytes => Table.ofBytes layout bytes
  | .error fault => .error (.file fault)

/-- The files after the document of a summary was written to a path. -/
def Files.writeSummary (files : Files) (path : String) (summary : Summary) :
    Except Error Files :=
  match files.write path summary.document.toUTF8 with
  | .ok files => .ok files
  | .error fault => .error (.file fault)

/-- What a run is going to do with a summary. -/
structure Report where
  summary : Summary
  config : ChartConfig
  summaryPath : String
  /-- The path of the chart, unless none is to be plotted. -/
  chartPath : Option String

/-- What a report prints: the listing and an empty line. -/
def Report.output (report : Report) : String :=
  report.summary.text ++ "\n"

/-- The report for options and the table that the input holds, or why it holds none. -/
def prepare (options : Options) (table : Except Error Table) : Except Failure Report := do
  let config := options.config
  let table ← (Stage.parse options.input).attempt table
  let table ← Stage.derive.attempt (config.deriveSeries table)
  let summary ← (Stage.aggregate options.input).attempt (table.summarize config)
  return {
    summary
    config
    summaryPath := Path.summary options.input options.outputDirectory
    chartPath :=
      if options.noPlot then none
      else some (Path.chart options.input options.outputDirectory) }

/-- What is left of a run. -/
structure Outcome where
  exitCode : Nat
  output : String
  errors : String
  files : Files
  /-- The script for the plotting program, if this was started. -/
  script : Option Chart.Script

def Outcome.failed (output : String) (files : Files) (script : Option Chart.Script)
    (failure : Failure) : Outcome :=
  ⟨1, output, failure.line ++ "\n", files, script⟩

/-- Plots the chart of a report, if it has one, when everything else is done. -/
def Report.plot (report : Report) (files : Files) (ending : Chart.Ending) : Outcome :=
  match report.chartPath with
  | none => ⟨0, report.output, "", files, none⟩
  | some path =>
      let sent :=
        if ending.started then some (Chart.script report.summary report.config path) else none
      match (Stage.plot path).attempt (Chart.plot report.summary report.config path ending) with
      | .ok _ => ⟨0, report.output, "", files, sent⟩
      | .error failure => .failed report.output files sent failure

/-- Prints, writes and plots what a report says. -/
def Report.carryOut (report : Report) (files : Files) (ending : Chart.Ending) : Outcome :=
  match (Stage.write report.summaryPath).attempt
      (files.writeSummary report.summaryPath report.summary) with
  | .ok files => report.plot files ending
  | .error failure => .failed report.output files none failure

def Options.run (options : Options) (files : Files) (ending : Chart.Ending) : Outcome :=
  match prepare options (files.readTable options.config.layout options.input) with
  | .ok report => report.carryOut files ending
  | .error failure => .failed "" files none failure

/-- What is printed when the version is asked for. -/
def versionLine : String := "bench-chart 0.1.0\n"

/-- What comes of some arguments. -/
inductive Response where
  /-- A run, or the version. -/
  | finished (outcome : Outcome)
  /-- Help, asked for or called for by a fault in the arguments. -/
  | help (fault : Option UsageFault)

/-- Does what the arguments ask for. -/
def run (arguments : List String) (files : Files) (ending : Chart.Ending) : Response :=
  match Options.ofArguments arguments with
  | .ok options => .finished (options.run files ending)
  | .error .version => .finished ⟨0, versionLine, "", files, none⟩
  | .error .help => .help none
  | .error (.usage fault) => .help (some fault)

def Response.exitCode : Response → Nat
  | finished outcome => outcome.exitCode
  | help none => 0
  | help (some _) => 1

end SampleChart
