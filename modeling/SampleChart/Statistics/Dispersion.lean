import SampleChart.Statistics.Moments
import SampleChart.Text.Named

/-!
# Dispersion

The spread of a group next to its mean, which becomes the error bar. There are three policies: no
spread, the standard error of the mean, and twice the standard deviation, which is a rule of thumb
and no confidence interval. Spreads are written for any numbers with square roots, so that those of
a summary and their exact values come from one definition.
-/

namespace SampleChart

/-- How the spread of a group is measured. -/
inductive Dispersion where
  | none
  | standardError
  | heuristicSpread
  deriving DecidableEq, Repr

/-- Numbers that have square roots as well. -/
class RootScalar (α : Type) extends Scalar α where
  sqrt : α → α

instance : RootScalar Float where
  sqrt := Float.sqrt

namespace Statistics

open Scalar RootScalar

variable {α : Type} [RootScalar α]

/-- The population standard deviation. -/
def standardDeviation (samples : List α) : α :=
  sqrt (variance samples)

/-- The population standard deviation over the square root of the number of samples. -/
def standardError (samples : List α) : α :=
  standardDeviation samples / sqrt (ofCount samples.length)

/-- Two population standard deviations. -/
def heuristicSpread (samples : List α) : α :=
  ofCount 2 * standardDeviation samples

end Statistics

namespace Dispersion

/-- The name that chooses a dispersion, on the command line and in a document. -/
def name : Dispersion → String
  | .none => "none"
  | .standardError => "standard-error"
  | .heuristicSpread => "heuristic-spread"

instance : Named Dispersion where
  all := [.none, .standardError, .heuristicSpread]
  name := name

/-- The words that describe a dispersion. -/
def label : Dispersion → String
  | .none => "none"
  | .standardError => "standard error"
  | .heuristicSpread => "2 std dev"

/-- The spread of the samples, if there are any and a spread is asked for. -/
def spread? (dispersion : Dispersion) (samples : List Float) : Option Float :=
  if samples.isEmpty then Option.none
  else
    match dispersion with
    | .none => Option.none
    | .standardError => some (Statistics.standardError samples)
    | .heuristicSpread => some (Statistics.heuristicSpread samples)

end Dispersion

/-- An error bar: how far it reaches below and above the mean. -/
structure ErrorBar where
  lower : Float
  upper : Float
  deriving Repr

/-- The error bar that reaches as far down as up. -/
def ErrorBar.symmetric (reach : Float) : ErrorBar :=
  ⟨reach, reach⟩

end SampleChart
