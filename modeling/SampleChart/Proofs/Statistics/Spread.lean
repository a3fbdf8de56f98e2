import SampleChart.Proofs.Double.Signs
import SampleChart.Statistics.Dispersion

/-!
# Spreads of doubles

A spread is not negative or it is no number, whatever the samples are. The squared deviations that
the variance adds up are squares over products of counts, none of which has a minus, and nothing
after that brings a minus in. The spread of a single sample is zero, whatever the sample is: no
deviation is added at all.
-/

namespace SampleChart

open Double (Unsigned)

namespace Statistics

/-- What a further sample adds to the squared deviations has no minus. -/
theorem unsigned_step {count : Nat} (positive : 0 < count) {squares : Float}
    (unsigned : Unsigned squares) (deviation : Float) :
    Unsigned (squares + deviation * deviation /
      (Float.ofNat (count + 1) * (Float.ofNat (count + 1) - 1))) := by
  have divisor : Unsigned (Float.ofNat (count + 1) * (Float.ofNat (count + 1) - 1)) :=
    (Unsigned.ofNat (count + 1)).mul (Unsigned.ofNat_sub_one (by omega))
  exact unsigned.add ((Unsigned.mul_self deviation).div divisor)

/-- The sum of squares stays unsigned along the whole pass: each step adds a square times a positive
number. -/
theorem unsigned_varianceFrom {count : Nat} (positive : 0 < count) (sum : Float) {squares : Float}
    (unsigned : Unsigned squares) (samples : List Float) :
    Unsigned (varianceFrom count sum squares samples) := by
  induction samples generalizing count sum squares with
  | nil => exact unsigned.div (.ofNat count)
  | cons sample rest ih => exact ih (Nat.succ_pos count) _ (unsigned_step positive unsigned _)

/-- The variance of any samples is not below zero. -/
theorem unsigned_variance (samples : List Float) : Unsigned (variance samples) := by
  cases samples with
  | nil => exact (Unsigned.ofNat 0).div (.ofNat 0)
  | cons first rest => exact unsigned_varianceFrom one_pos first (.ofNat 0) rest

theorem unsigned_standardDeviation (samples : List Float) :
    Unsigned (standardDeviation samples) :=
  (unsigned_variance samples).sqrt

/-- A single sample has no spread. -/
theorem standardDeviation_singleton (sample : Float) : standardDeviation [sample] = 0 := by
  have noDeviation : variance [sample] = 0 := by
    change (0 / 1 : Float) = 0
    decide +kernel
  rw [standardDeviation, noDeviation]
  decide +kernel

theorem standardError_singleton (sample : Float) : standardError [sample] = 0 := by
  rw [standardError, standardDeviation_singleton]
  change 0 / Float.sqrt 1 = 0
  decide +kernel

theorem heuristicSpread_singleton (sample : Float) : heuristicSpread [sample] = 0 := by
  rw [heuristicSpread, standardDeviation_singleton]
  decide +kernel

end Statistics

namespace Dispersion

open Statistics

variable {dispersion : Dispersion} {samples : List Float} {reach : Float}

/-- Samples have a spread exactly if one is asked for. -/
theorem isSome_spread?_iff (filled : samples ≠ []) :
    (dispersion.spread? samples).isSome = true ↔ dispersion ≠ .none := by
  cases dispersion <;> simp [spread?, filled]

/-- A spread is not below zero, of whichever kind it is. -/
theorem unsigned_of_spread? (spread : dispersion.spread? samples = some reach) :
    Unsigned reach := by
  cases samples with
  | nil => cases spread
  | cons first rest =>
      have unsigned := unsigned_standardDeviation (first :: rest)
      cases dispersion with
      | none => cases spread
      | standardError =>
          rcases Option.some.inj spread with rfl
          exact unsigned.div (Unsigned.ofNat (first :: rest).length).sqrt
      | heuristicSpread =>
          rcases Option.some.inj spread with rfl
          exact (Unsigned.ofNat 2).mul unsigned

/-- Of whichever kind a spread is, that of a single sample is zero. -/
theorem eq_zero_of_spread?_singleton {sample : Float}
    (spread : dispersion.spread? [sample] = some reach) : reach = 0 := by
  cases dispersion with
  | none => cases spread
  | standardError => rw [← Option.some.inj spread, standardError_singleton]
  | heuristicSpread => rw [← Option.some.inj spread, heuristicSpread_singleton]

end Dispersion

end SampleChart
