import SampleChart.Chart.Script
import SampleChart.Error

/-!
# Plotting

A chart is plotted by starting gnuplot, sending it the script and waiting for the end of it. Each of
the three can fail, and how it ends is all that a run learns of the drawing. A run waits only for a
program that took the whole script: of one that did not, it learns no status.
-/

namespace SampleChart.Chart

/-- How it ends when gnuplot is to be sent a script. The reasons are in the words of the operating
system. -/
inductive Ending where
  /-- The program could not be started, as it is not there or may not be run. -/
  | notStarted (reason : String)
  /-- The program was started, but did not take the whole script. -/
  | notSent (reason : String)
  /-- The program was sent the script, but could not be waited for. -/
  | notAwaited (reason : String)
  /-- The program was sent the script, was waited for, and ended with a status. -/
  | exited (status : Nat)
  /-- The program was sent the script, was waited for, and was ended by a signal. -/
  | killed (signal : Nat)
  deriving DecidableEq, Repr

namespace Ending

/-- Whether the program was started. -/
def started : Ending → Bool
  | notStarted _ => false
  | _ => true

/-- What is wrong with an ending, which is nothing if the program ended with status zero. -/
def fault? : Ending → Option PlotFault
  | notStarted reason => some (.notSpawned reason)
  | notSent reason => some (.notSpawned reason)
  | notAwaited reason => some (.notAwaited reason)
  | exited 0 => none
  | exited status => some (.exited status)
  | killed signal => some (.killed signal)

end Ending

/-- Plots a chart: the script that was sent, if plotting ended well. -/
def plot (summary : Summary) (config : ChartConfig) (path : String) (ending : Ending) :
    Except Error Script :=
  match ending.fault? with
  | none => .ok (script summary config path)
  | some fault => .error (.plot fault)

end SampleChart.Chart
