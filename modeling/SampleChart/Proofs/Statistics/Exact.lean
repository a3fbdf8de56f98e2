import Mathlib
import SampleChart.Statistics.Dispersion

/-!
# Exact statistics

The recurrences for the mean and the variance give the numbers that their names promise if nothing
is rounded. The mean of `count` samples times `count` is their sum, and a further sample adds itself
to it. The squared deviations of `count` samples are the sum of their squares less the square of
their sum over `count`, and what a further sample adds keeps it so. From these two equations follows
what normalizing does: it divides the mean by the baseline, the variance by the square of the
baseline, and so the spread by its magnitude. Hence a mean that is divided and a spread of samples
that are divided belong together.
-/

namespace SampleChart

/-- The numbers of a field are computed with exactly. -/
instance (priority := low) exactScalar {K : Type} [Field K] : Scalar K where
  ofCount := fun count => (count : K)

noncomputable instance : RootScalar ℝ where
  sqrt := Real.sqrt

namespace Statistics

open Scalar (ofCount)

section Field

variable {K : Type} [Field K]

theorem ofCount_eq (count : ℕ) : (ofCount count : K) = count := rfl

/-- Dividing each sample divides the sum. -/
theorem sum_normalize (samples : List K) (baseline : K) :
    (normalize samples baseline).sum = samples.sum / baseline := by
  simp only [normalize, div_eq_mul_inv, List.sum_map_mul_right, List.map_id']

variable [CharZero K]

/-- A step of the running mean puts one sample to the sum. -/
theorem mean_step (count : ℕ) (mean sample : K) :
    (count + 1 : ℕ) * (mean + (sample - mean) / (count + 1 : ℕ)) = count * mean + sample := by
  have positive : ((count + 1 : ℕ) : K) ≠ 0 := Nat.cast_ne_zero.mpr count.succ_ne_zero
  rw [mul_add, mul_div_cancel₀ _ positive]
  push_cast
  ring

/-- The running mean times the count is the sum, at every point of the pass. -/
theorem mul_meanFrom (count : ℕ) (mean : K) (samples : List K) :
    (count + samples.length : ℕ) * meanFrom count mean samples = count * mean + samples.sum := by
  induction samples generalizing count mean with
  | nil => simp [meanFrom]
  | cons sample rest ih =>
      have later := ih (count + 1) (mean + (sample - mean) / (count + 1 : ℕ))
      rw [mean_step, add_right_comm count 1] at later
      rw [List.sum_cons, ← add_assoc, ← later]
      rfl

/-- The running mean is the sum of the samples divided by their number. -/
theorem runningMean_eq (samples : List K) : runningMean samples = samples.sum / samples.length := by
  rcases eq_or_ne samples [] with rfl | filled
  · simp [runningMean, meanFrom, ofCount_eq]
  · have size : (samples.length : K) ≠ 0 := by simpa using filled
    have total := mul_meanFrom 0 (0 : K) samples
    rw [eq_div_iff size, mul_comm]
    simpa [runningMean, ofCount_eq] using total

/-- The squared deviations of some samples, by the sum of their squares and their sum. -/
theorem squares_step {count : ℕ} (positive : count ≠ 0) (powers sum sample : K) :
    powers - sum ^ 2 / count +
        ((count + 1 : ℕ) * sample - (sum + sample)) * ((count + 1 : ℕ) * sample - (sum + sample)) /
          ((count + 1 : ℕ) * ((count + 1 : ℕ) - (1 : ℕ))) =
      powers + sample ^ 2 - (sum + sample) ^ 2 / (count + 1 : ℕ) := by
  have some : (count : K) ≠ 0 := Nat.cast_ne_zero.mpr positive
  have more : (count : K) + 1 ≠ 0 := Nat.cast_add_one_ne_zero count
  push_cast
  rw [add_sub_cancel_right]
  field_simp
  ring

/-- The pass keeps the sum of the squares less the square of the sum divided by the count. -/
theorem varianceFrom_eq {count : ℕ} (positive : count ≠ 0) (powers sum : K) (samples : List K) :
    varianceFrom count sum (powers - sum ^ 2 / count) samples =
      (powers + (samples.map (· ^ 2)).sum -
        (sum + samples.sum) ^ 2 / (count + samples.length : ℕ)) / (count + samples.length : ℕ) := by
  induction samples generalizing count powers sum with
  | nil => simp [varianceFrom, ofCount_eq]
  | cons sample rest ih =>
      have later := ih count.succ_ne_zero (powers + sample ^ 2) (sum + sample)
      rw [← squares_step positive, add_right_comm count 1] at later
      rw [List.map_cons, List.sum_cons, List.sum_cons, ← add_assoc, ← add_assoc]
      exact later

/-- The squared distances of samples from any number. -/
theorem sum_squared_distances (samples : List K) (number : K) :
    (samples.map fun sample => (sample - number) ^ 2).sum =
      (samples.map (· ^ 2)).sum - 2 * number * samples.sum + samples.length * number ^ 2 := by
  induction samples with
  | nil => simp
  | cons sample rest ih =>
      simp only [List.map_cons, List.sum_cons, List.length_cons, ih]
      push_cast
      ring

/-- The variance is the average of the squared distances from the mean. -/
theorem variance_eq (samples : List K) :
    variance samples =
      (samples.map fun sample => (sample - runningMean samples) ^ 2).sum / samples.length := by
  cases samples with
  | nil => simp [variance, ofCount_eq]
  | cons first rest =>
      have size : ((first :: rest).length : K) ≠ 0 := Nat.cast_ne_zero.mpr rest.length.succ_ne_zero
      have start : first ^ 2 - first ^ 2 / (1 : ℕ) = 0 := by rw [Nat.cast_one, div_one, sub_self]
      have run := varianceFrom_eq one_ne_zero (first ^ 2) first rest
      rw [start, add_comm 1] at run
      have squares : variance (first :: rest) =
          (((first :: rest).map (· ^ 2)).sum - (first :: rest).sum ^ 2 / (first :: rest).length) /
            (first :: rest).length := by
        rw [variance, ofCount_eq, Nat.cast_zero, run]
        rfl
      rw [squares, sum_squared_distances, runningMean_eq]
      congr 1
      field_simp
      ring

/-- Dividing each sample divides the mean. -/
theorem runningMean_normalize (samples : List K) (baseline : K) :
    runningMean (normalize samples baseline) = runningMean samples / baseline := by
  rw [runningMean_eq, runningMean_eq, sum_normalize, normalize, List.length_map, div_right_comm]

/-- Dividing each sample divides the variance by the square. -/
theorem variance_normalize (samples : List K) (baseline : K) :
    variance (normalize samples baseline) = variance samples / baseline ^ 2 := by
  have squares : ((normalize samples baseline).map fun sample =>
      (sample - runningMean (normalize samples baseline)) ^ 2) =
      normalize (samples.map fun sample => (sample - runningMean samples) ^ 2) (baseline ^ 2) := by
    rw [runningMean_normalize, normalize, normalize, List.map_map, List.map_map]
    apply List.map_congr_left
    intro sample _
    rw [Function.comp_apply, Function.comp_apply, ← sub_div, div_pow]
  rw [variance_eq, variance_eq, squares, sum_normalize, normalize, List.length_map, div_right_comm]

end Field

section Real

variable (samples : List ℝ)

theorem variance_nonneg : 0 ≤ variance samples := by
  rw [variance_eq]
  apply div_nonneg _ (Nat.cast_nonneg _)
  apply List.sum_nonneg
  simp [sq_nonneg]

theorem standardDeviation_sq : standardDeviation samples ^ 2 = variance samples :=
  Real.sq_sqrt (variance_nonneg samples)

/-- The square of the standard error is the variance divided by the number of samples. -/
theorem standardError_sq : standardError samples ^ 2 = variance samples / samples.length := by
  have root : RootScalar.sqrt (ofCount samples.length : ℝ) ^ 2 = samples.length :=
    Real.sq_sqrt (Nat.cast_nonneg samples.length)
  rw [standardError, div_pow, standardDeviation_sq, root]

theorem heuristicSpread_sq : heuristicSpread samples ^ 2 = 4 * variance samples := by
  rw [heuristicSpread, mul_pow, standardDeviation_sq, ofCount_eq]
  norm_num

variable (baseline : ℝ)

/-- Dividing each sample divides the standard deviation, where the sign of the divisor does not
matter. -/
theorem standardDeviation_normalize :
    standardDeviation (normalize samples baseline) = standardDeviation samples / |baseline| := by
  rw [standardDeviation, variance_normalize, ← Real.sqrt_sq_eq_abs]
  exact Real.sqrt_div (variance_nonneg samples) _

theorem standardError_normalize :
    standardError (normalize samples baseline) = standardError samples / |baseline| := by
  rw [standardError, standardDeviation_normalize, normalize, List.length_map, div_right_comm,
    standardError]

theorem heuristicSpread_normalize :
    heuristicSpread (normalize samples baseline) = heuristicSpread samples / |baseline| := by
  rw [heuristicSpread, standardDeviation_normalize, heuristicSpread, mul_div_assoc]

end Real

/-- Rational samples as real numbers, which have square roots. -/
def toReals (samples : List ℚ) : List ℝ :=
  samples.map (↑)

/-- It does not matter whether rational samples are taken as reals before or after. -/
theorem variance_toReals (samples : List ℚ) : variance (toReals samples) = variance samples := by
  rw [variance_eq, variance_eq samples, runningMean_eq, runningMean_eq samples]
  push_cast
  simp [toReals, Function.comp_def]

theorem normalize_toReals (samples : List ℚ) (baseline : ℚ) :
    normalize (toReals samples) baseline = toReals (normalize samples baseline) := by
  simp [normalize, toReals]

/-- Without rounding, the mean of samples is their sum over their number and the variance is the
average of the squared distances from the mean. Samples that are divided by a baseline have the mean
over the baseline, the variance over its square and the spreads over its magnitude, where a spread
is told by its square: the variance over the number of samples, or four times the variance. -/
theorem normalize_rescales (samples : List ℚ) (baseline : ℚ) :
    runningMean samples = samples.sum / samples.length ∧
      variance samples =
        (samples.map fun sample => (sample - runningMean samples) ^ 2).sum / samples.length ∧
      runningMean (normalize samples baseline) = runningMean samples / baseline ∧
      variance (normalize samples baseline) = variance samples / baseline ^ 2 ∧
      (standardError (toReals (normalize samples baseline)) ^ 2 =
          ((variance (normalize samples baseline) / samples.length : ℚ) : ℝ) ∧
        heuristicSpread (toReals (normalize samples baseline)) ^ 2 =
          ((4 * variance (normalize samples baseline) : ℚ) : ℝ)) ∧
      standardError (toReals (normalize samples baseline)) =
        standardError (toReals samples) / |(baseline : ℝ)| ∧
      heuristicSpread (toReals (normalize samples baseline)) =
        heuristicSpread (toReals samples) / |(baseline : ℝ)| := by
  refine ⟨runningMean_eq samples, variance_eq samples, runningMean_normalize samples baseline,
    variance_normalize samples baseline, ⟨?_, ?_⟩, ?_, ?_⟩
  · rw [standardError_sq, variance_toReals, toReals, normalize, List.length_map, List.length_map]
    push_cast
    rfl
  · rw [heuristicSpread_sq, variance_toReals]
    push_cast
    rfl
  · rw [← normalize_toReals, standardError_normalize]
  · rw [← normalize_toReals, heuristicSpread_normalize]

end Statistics

end SampleChart
