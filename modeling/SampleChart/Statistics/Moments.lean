/-!
# Means and variances

The mean and the variance of a group are each computed in one pass over its samples. Both
recurrences are written for any `Scalar`: on doubles they give the numbers of a summary, rounding by
rounding, and on rational numbers the exact values that these stand for.
-/

namespace SampleChart

/-- Numbers with the four operations that contain the counts. -/
class Scalar (α : Type) extends Add α, Sub α, Mul α, Div α where
  /-- A count as a number. -/
  ofCount : Nat → α

instance : Scalar Float where
  ofCount := Float.ofNat

instance : Scalar Rat where
  ofCount := fun count => (count : Rat)

namespace Statistics

open Scalar

variable {α : Type} [Scalar α]

/-- Takes further samples into the mean of `count` samples: each moves it by its distance from the
mean over the new count. -/
def meanFrom (count : Nat) (mean : α) : List α → α
  | [] => mean
  | sample :: rest =>
      meanFrom (count + 1) (mean + (sample - mean) / ofCount (count + 1)) rest

/-- The mean of the samples, which starts from zero. -/
def runningMean (samples : List α) : α :=
  meanFrom 0 (ofCount 0) samples

/-- The mean of the samples, if there are any. -/
def mean? : List α → Option α
  | [] => none
  | samples => some (runningMean samples)

/-- Takes further samples into the sum and the sum of squared deviations of `count` samples, and
divides the latter by the final count. -/
def varianceFrom (count : Nat) (sum squares : α) : List α → α
  | [] => squares / ofCount count
  | sample :: rest =>
      let size : α := ofCount (count + 1)
      let total := sum + sample
      let deviation := size * sample - total
      varianceFrom (count + 1) total
        (squares + deviation * deviation / (size * (size - ofCount 1))) rest

/-- The population variance of the samples; of no samples it is zero divided by zero. -/
def variance : List α → α
  | [] => ofCount 0 / ofCount 0
  | first :: rest => varianceFrom 1 first (ofCount 0) rest

/-- The samples relative to a baseline. -/
def normalize (samples : List α) (baseline : α) : List α :=
  samples.map (· / baseline)

end Statistics

end SampleChart
