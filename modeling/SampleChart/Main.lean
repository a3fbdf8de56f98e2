import SampleChart.Command.Run

/-!
# The program

Reads the input from the disk, and from there on does what a run does: the pure part gives the
report, and this module prints, writes and leaves the script of the chart. The program starts no
other one. The script goes into a file beside the chart, with `.gnuplot` behind its name, to be
drawn from there.
-/

namespace SampleChart

/-- The fault behind an error of the system. -/
def faultOf : IO.Error → FileFault
  | .noFileOrDirectory .. => .notFound
  | .inappropriateType .. => .notADirectory
  | .illegalOperation .. => .isADirectory
  | _ => .notFound

/-- Does something with the disk. -/
def onDisk {α : Type} (action : IO α) : IO (Except Error α) := do
  try
    return .ok (← action)
  catch fault =>
    return .error (.file (faultOf fault))

/-- The table in a file on the disk. -/
def readFromDisk (options : Options) : IO (Except Error Table) := do
  match ← onDisk (IO.FS.readBinFile options.input) with
  | .ok bytes => return Table.ofBytes options.config.layout bytes
  | .error error => return .error error

/-- Reports a failure. -/
def complain (failure : Failure) : IO UInt32 := do
  (← IO.getStderr).putStr (failure.line ++ "\n")
  return 1

/-- Leaves the script of a chart beside where the chart is to be. -/
def leaveScript (report : Report) (path : String) : IO UInt32 := do
  let script := Chart.script report.summary report.config path
  match (Stage.plot path).attempt
      (← onDisk (IO.FS.writeBinFile (path ++ ".gnuplot") script.bytes)) with
  | .ok _ => return 0
  | .error failure => complain failure

/-- Carries out a report. -/
def carryOut (report : Report) : IO UInt32 := do
  (← IO.getStdout).putStr report.output
  let written ←
    onDisk (IO.FS.writeBinFile report.summaryPath report.summary.document.toUTF8)
  match (Stage.write report.summaryPath).attempt written with
  | .error failure => complain failure
  | .ok _ =>
      match report.chartPath with
      | none => return 0
      | some path => leaveScript report path

/-- What is printed to those who ask for help. -/
def usage : String :=
  "Usage: bench-chart [OPTIONS] <INPUT>\n\n" ++
  "  --layout <LAYOUT>          auto, headerless, headered or keyed\n" ++
  "  --baseline <SERIES>        normalize every series against this one\n" ++
  "  --dispersion <DISPERSION>  none, standard-error or heuristic-spread\n" ++
  "  --sum <NAME=A+B>           add a series that is the sum of others\n" ++
  "  --log-scale                logarithmic y axis\n" ++
  "  --title <TITLE>\n" ++
  "  --x-label <LABEL>\n" ++
  "  --y-label <LABEL>\n" ++
  "  --output-dir <DIRECTORY>   where the chart and the summary go\n" ++
  "  --no-plot                  only print and write the summary\n" ++
  "  -h, --help\n" ++
  "  -V, --version\n"

end SampleChart

open SampleChart in
/-- Does what the arguments ask for. -/
def main (arguments : List String) : IO UInt32 := do
  match Options.ofArguments arguments with
  | .ok options =>
      match prepare options (← readFromDisk options) with
      | .ok report => carryOut report
      | .error failure => complain failure
  | .error .version => do
      (← IO.getStdout).putStr versionLine
      return 0
  | .error .help => do
      (← IO.getStdout).putStr usage
      return 0
  | .error (.usage _) => do
      (← IO.getStderr).putStr usage
      return 1
