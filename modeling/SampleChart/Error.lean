import SampleChart.Decimal.Style
import SampleChart.Text.Quoted

/-!
# Errors

Every way in which a chart can fail, as a cause with the data that its message names. The wording
stands in the `message` functions and nowhere else.
-/

namespace SampleChart

/-- What is wrong with a line of a results file. -/
inductive LineFault where
  /-- A marker stands where the legend has to be. -/
  | legendExpected
  /-- A sample stands before the first marker. -/
  | sampleBeforeMarker
  /-- A marker does not have the number of fields that the layout asks for. -/
  | fieldCount (expected : Nat)
  /-- A marker names neither of the two roles. -/
  | unknownRole (role : String)
  /-- A marker names a series that the legend lacks. -/
  | notInLegend (series : String)
  /-- A sample of the keyed layout does not have two fields. -/
  | keyedSampleExpected
  /-- A sample is not a number. -/
  | notANumber
  /-- A sample is infinite or not a number. -/
  | notFinite
  deriving DecidableEq, Repr

/-- The reason that a message gives for a faulty line. -/
def LineFault.reason : LineFault → String
  | .legendExpected => "expected a legend line"
  | .sampleBeforeMarker => "sample before any marker line"
  | .fieldCount expected => s!"expected {expected} field(s) after `#`"
  | .unknownRole role => s!"unknown role `{role}`, expected `offset` or `native`"
  | .notInLegend series => s!"series `{series}` is not in the legend"
  | .keyedSampleExpected => "expected `<series> <value>`"
  | .notANumber => "invalid sample (invalid float literal)"
  | .notFinite => "non-finite sample"

/-- The message for a malformed line: its number, the reason and the line itself between quotes. -/
def lineMessage (line : Nat) (reason content : String) : String :=
  let shown := Text.quoted content
  s!"line {line}: {reason}: {shown}"

/-- Why a file cannot be read or written. -/
inductive FileFault where
  | notUtf8
  | notFound
  | notADirectory
  | isADirectory
  | tooManyLinks
  deriving DecidableEq, Repr

/-- The words of the operating system for a fault. -/
def FileFault.message : FileFault → String
  | .notUtf8 => "stream did not contain valid UTF-8"
  | .notFound => "No such file or directory (os error 2)"
  | .notADirectory => "Not a directory (os error 20)"
  | .isADirectory => "Is a directory (os error 21)"
  | .tooManyLinks => "Too many levels of symbolic links (os error 40)"

/-- The name of a signal, for those that have one. -/
def signalName? : Nat → Option String
  | 0 => none
  | before + 1 => names[before]?
where
  names : List String :=
    ["SIGHUP", "SIGINT", "SIGQUIT", "SIGILL", "SIGTRAP", "SIGABRT", "SIGBUS", "SIGFPE", "SIGKILL",
      "SIGUSR1", "SIGSEGV", "SIGUSR2", "SIGPIPE", "SIGALRM", "SIGTERM", "SIGSTKFLT", "SIGCHLD",
      "SIGCONT", "SIGSTOP", "SIGTSTP", "SIGTTIN", "SIGTTOU", "SIGURG", "SIGXCPU", "SIGXFSZ",
      "SIGVTALRM", "SIGPROF", "SIGWINCH", "SIGIO", "SIGPWR", "SIGSYS"]

/-- Why the plotting program drew no chart. The reasons are in the words of the operating system. -/
inductive PlotFault where
  /-- The program could not be started, or did not take the script. -/
  | notSpawned (reason : String)
  /-- The program could not be waited for. -/
  | notAwaited (reason : String)
  /-- The program ended with a status other than zero. -/
  | exited (status : Nat)
  /-- The program was ended by a signal. -/
  | killed (signal : Nat)
  deriving DecidableEq, Repr

def PlotFault.message : PlotFault → String
  | .notSpawned reason => "couldn't spawn gnuplot: " ++ reason
  | .notAwaited reason => "couldn't wait for gnuplot: " ++ reason
  | .exited status => s!"gnuplot exited with exit status: {status}"
  | .killed signal =>
      match signalName? signal with
      | some name => s!"gnuplot exited with signal: {signal} ({name})"
      | none => s!"gnuplot exited with signal: {signal}"

/-- Why there is no table, no summary or no chart. -/
inductive Error where
  /-- A line of the results file is malformed. -/
  | format (line : Nat) (content : String) (fault : LineFault)
  /-- A mean is asked for of a group without samples. -/
  | emptySeries (series benchmark : String)
  /-- The baseline is no series, or has no samples in a benchmark. -/
  | baselineNotFound (series : String) (benchmark : Option String)
  /-- The mean of the baseline is zero or not finite, so that nothing can be divided by it. -/
  | degenerateBaseline (series benchmark : String) (mean : Float)
  /-- A sum names a series that is not there. -/
  | unknownSeries (series : String)
  /-- A sum has the name of a series that is there already. -/
  | duplicateSeries (series : String)
  /-- Two parts of a sum have different numbers of samples. -/
  | lengthMismatch (benchmark left : String) (leftSize : Nat) (right : String) (rightSize : Nat)
  /-- A file cannot be read or written. -/
  | file (fault : FileFault)
  /-- A document is no summary. -/
  | document
  /-- The plotting program failed. -/
  | plot (fault : PlotFault)
  deriving Repr

namespace Error

def message : Error → String
  | format line content fault => lineMessage line fault.reason content
  | emptySeries series benchmark =>
      s!"no samples for series `{series}` in benchmark `{benchmark}`"
  | baselineNotFound series none => s!"baseline series `{series}` not found"
  | baselineNotFound series (some benchmark) =>
      s!"baseline `{series}` has no samples for benchmark `{benchmark}`"
  | degenerateBaseline series benchmark mean =>
      let shown := Decimal.plain.text mean
      s!"baseline `{series}` has a mean of {shown} in benchmark `{benchmark}`"
  | unknownSeries series => s!"unknown series `{series}`"
  | duplicateSeries series => s!"series `{series}` already exists"
  | lengthMismatch benchmark left leftSize right rightSize =>
      s!"cannot sum series `{left}` ({leftSize} samples) and `{right}` ({rightSize} samples) in " ++
        s!"benchmark `{benchmark}`"
  | file fault => "io: " ++ fault.message
  | document => "the document is not a summary"
  | plot fault => "plot: " ++ fault.message

/-- The message of the cause behind an error, where there is one of its own. -/
def cause? : Error → Option String
  | file fault => some fault.message
  | _ => none

end Error

end SampleChart
