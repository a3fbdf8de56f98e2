import SampleChart.Proofs.Double.Order
import SampleChart.Proofs.Double.Results
import SampleChart.Statistics.Moments

/-!
# Means of finite samples

Every sample moves the mean by its distance from it over the new count. The distance of two doubles
can be too large for a double, and a mean that is infinite never becomes finite again. As long as
all distances are finite, rounding does no harm: a step does not lead out of the range between the
mean and the sample, and so the mean stays between the smallest and the largest sample. Distances
are finite for instance between samples that have no different signs.
-/

namespace SampleChart.Statistics

open Double (OnGrid Rounds value value_zero value_one)

section Step

variable {exact mean sample distance divisor quotient : ℚ}

/-- A distance, rounded and divided by two or more and rounded again, does not become longer. With
the least exponent the distance is not rounded at all, and with every other one its half can be
written. -/
theorem quotient_le (onUnits : ∃ units : ℤ, exact = units * 2 ^ (-1074 : ℤ)) (nonneg : 0 ≤ exact)
    (distanceRounds : Rounds exact distance) (two : 2 ≤ divisor)
    (quotientRounds : Rounds (distance / divisor) quotient) : quotient ≤ exact := by
  have distanceNonneg : 0 ≤ distance := distanceRounds.ge Double.onGrid_zero nonneg
  have half : distance / divisor ≤ distance / 2 :=
    div_le_div_of_nonneg_left distanceNonneg two_pos two
  rcases distanceRounds.onGrid with ⟨significand, exponent, bits, least, rfl⟩
  rcases least.eq_or_lt with rfl | notLeast
  · rcases le_or_gt ((significand : ℚ) * 2 ^ (-1074 : ℤ)) exact with short | long
    · exact (quotientRounds.le distanceRounds.onGrid (by linarith)).trans short
    · rcases onUnits with ⟨units, rfl⟩
      have unitsLt : units < significand := by
        exact_mod_cast lt_of_mul_lt_mul_right long (Double.two_zpow_pos _).le
      have unitsNonneg : 0 ≤ units := by
        exact_mod_cast nonneg_of_mul_nonneg_left nonneg (Double.two_zpow_pos _)
      have onGrid : OnGrid (units * 2 ^ (-1074 : ℤ)) := by
        refine ⟨units, -1074, ?_, le_rfl, rfl⟩
        rw [abs_of_nonneg unitsNonneg]
        exact unitsLt.le.trans (abs_le.mp bits).2
      exact absurd (distanceRounds.eq_of_onGrid onGrid) long.ne'
  · have halfOnGrid : OnGrid (significand * 2 ^ exponent / 2) := by
      refine ⟨significand, exponent - 1, bits, by omega, ?_⟩
      rw [zpow_sub_one₀ (by norm_num)]
      ring
    have halfLe : (significand : ℚ) * 2 ^ exponent / 2 ≤ exact := by
      by_contra shorter
      have := distanceRounds.le halfOnGrid (not_le.mp shorter).le
      linarith
    exact (quotientRounds.le halfOnGrid half).trans halfLe

/-- A step from the mean towards a sample does not pass the sample. -/
theorem add_quotient_mem_uIcc (meanOnGrid : OnGrid mean) (sampleOnGrid : OnGrid sample)
    (distanceRounds : Rounds (sample - mean) distance) (two : 2 ≤ divisor)
    (quotientRounds : Rounds (distance / divisor) quotient) :
    mean + quotient ∈ Set.uIcc mean sample := by
  have onUnits : ∃ units : ℤ, sample - mean = units * 2 ^ (-1074 : ℤ) := by
    rcases sampleOnGrid.exists_units with ⟨sampleUnits, rfl⟩
    rcases meanOnGrid.exists_units with ⟨meanUnits, rfl⟩
    exact ⟨sampleUnits - meanUnits, by rw [Int.cast_sub, sub_mul]⟩
  rw [Set.mem_uIcc]
  rcases le_total mean sample with up | down
  · left
    have nonneg : 0 ≤ distance / divisor :=
      div_nonneg (distanceRounds.ge Double.onGrid_zero (sub_nonneg.mpr up)) (by linarith)
    have quotientNonneg := quotientRounds.ge Double.onGrid_zero nonneg
    have short := quotient_le onUnits (sub_nonneg.mpr up) distanceRounds two quotientRounds
    constructor <;> linarith
  · right
    rcases onUnits with ⟨units, isUnits⟩
    have nonpos : distance / divisor ≤ 0 :=
      div_nonpos_of_nonpos_of_nonneg
        (distanceRounds.le Double.onGrid_zero (sub_nonpos.mpr down)) (by linarith)
    have quotientNonpos := quotientRounds.le Double.onGrid_zero nonpos
    have quotientNeg : Rounds (-distance / divisor) (-quotient) := by
      rw [neg_div]
      exact quotientRounds.neg
    have short := quotient_le ⟨-units, by rw [isUnits, Int.cast_neg, neg_mul]⟩
      (neg_nonneg.mpr (sub_nonpos.mpr down)) distanceRounds.neg two quotientNeg
    constructor <;> linarith

end Step

section Sample

variable {mean sample : Float}

/-- A step to the next mean is finite if the distance is, and leads nowhere past the sample. -/
theorem value_step_mem_uIcc {count : Nat} (positive : 0 < count)
    (finite : (sample - mean).isFinite = true) :
    (mean + (sample - mean) / Float.ofNat (count + 1)).isFinite = true ∧
      value (mean + (sample - mean) / Float.ofNat (count + 1)) ∈
        Set.uIcc (value mean) (value sample) := by
  rcases Double.isFinite_of_sub finite with ⟨sampleFinite, meanFinite⟩
  have quotient : ((sample - mean) / Float.ofNat (count + 1)).isFinite = true ∧
      value mean + value ((sample - mean) / Float.ofNat (count + 1)) ∈
        Set.uIcc (value mean) (value sample) := by
    rcases Double.two_le_value_ofNat (by omega : 2 ≤ count + 1) with
      ⟨sign, infinite⟩ | ⟨countFinite, two⟩
    · rcases Double.isFinite_div_infinity finite infinite with ⟨quotientFinite, zero⟩
      rw [zero, add_zero]
      exact ⟨quotientFinite, Set.left_mem_uIcc⟩
    · rcases Double.isFinite_div finite countFinite (by linarith) with ⟨quotientFinite, rounds⟩
      exact ⟨quotientFinite, add_quotient_mem_uIcc (Double.onGrid_value meanFinite)
        (Double.onGrid_value sampleFinite) (Double.rounds_sub sampleFinite meanFinite finite) two
        rounds⟩
  exact Double.isFinite_add_of_mem_uIcc meanFinite quotient.1 meanFinite sampleFinite quotient.2

/-- The first mean is the first sample. -/
theorem value_first_step (finite : sample.isFinite = true) :
    (0 + (sample - 0) / 1).isFinite = true ∧ value (0 + (sample - 0) / 1) = value sample := by
  rw [Double.sub_posZero]
  rcases @Double.isFinite_div sample 1 finite rfl value_one.ge with ⟨quotientFinite, rounds⟩
  rw [value_one, div_one] at rounds
  have same : value 0 + value (sample / 1) = value sample := by
    rw [value_zero, zero_add, rounds.eq_of_onGrid (Double.onGrid_value finite)]
  have between : value 0 + value (sample / 1) ∈ Set.uIcc (value sample) (value sample) := by
    rw [same]
    exact Set.left_mem_uIcc
  have stays := Double.isFinite_add_of_mem_uIcc rfl quotientFinite finite finite between
  rwa [Set.uIcc_self, Set.mem_singleton_iff] at stays

end Sample

section Run

variable {α : Type} [Scalar α]

theorem meanFrom_append_singleton (count : Nat) (mean : α) (samples : List α) (sample : α) :
    meanFrom count mean (samples ++ [sample]) =
      meanFrom count mean samples + (sample - meanFrom count mean samples) /
        Scalar.ofCount (count + samples.length + 1) := by
  induction samples generalizing count mean with
  | nil => rfl
  | cons first rest ih =>
      rw [List.cons_append, meanFrom, meanFrom, ih, List.length_cons,
        Nat.add_right_comm count 1 rest.length, Nat.add_assoc count rest.length 1]

/-- The last sample moves the mean of the samples before it. -/
theorem runningMean_append_singleton (samples : List α) (sample : α) :
    runningMean (samples ++ [sample]) =
      runningMean samples +
        (sample - runningMean samples) / Scalar.ofCount (samples.length + 1) := by
  rw [runningMean, meanFrom_append_singleton, Nat.zero_add]
  rfl

end Run

/-- No sample is so far from the mean of those before it that their distance is infinite. -/
def StaysFinite (samples : List Float) : Prop :=
  ∀ earlier sample later, samples = earlier ++ sample :: later →
    (sample - runningMean earlier).isFinite = true

theorem staysFinite_nil : StaysFinite [] := by
  intro earlier sample later split
  simp at split

theorem staysFinite_append_singleton_iff (samples : List Float) (sample : Float) :
    StaysFinite (samples ++ [sample]) ↔
      StaysFinite samples ∧ (sample - runningMean samples).isFinite = true := by
  constructor
  · intro stays
    refine ⟨?_, stays samples sample [] rfl⟩
    rintro earlier other later rfl
    exact stays earlier other (later ++ [sample]) (by simp)
  · rintro ⟨stays, last⟩ earlier other later split
    rcases List.eq_nil_or_concat later with rfl | ⟨between, final, rfl⟩
    · rcases List.append_inj' split rfl with ⟨rfl, eq⟩
      rw [← List.singleton_inj.mp eq]
      exact last
    · rw [List.concat_eq_append, ← List.cons_append, ← List.append_assoc] at split
      exact stays earlier other between (List.append_inj' split rfl).1

/-- A mean is finite exactly if all distances on the way to it are. -/
theorem isFinite_runningMean_iff (samples : List Float) :
    (runningMean samples).isFinite = true ↔ StaysFinite samples := by
  induction samples using List.reverseRecOn with
  | nil => exact iff_of_true rfl staysFinite_nil
  | append_singleton samples sample ih =>
      rw [staysFinite_append_singleton_iff, ← ih, runningMean_append_singleton]
      constructor
      · intro finite
        rcases Double.isFinite_of_add finite with ⟨meanFinite, quotientFinite⟩
        exact ⟨meanFinite, Double.isFinite_of_div quotientFinite⟩
      · rintro ⟨_, finite⟩
        rcases samples.length.eq_zero_or_pos with empty | positive
        · rcases List.eq_nil_of_length_eq_zero empty with rfl
          exact (value_first_step (Double.isFinite_of_sub finite).1).1
        · exact (value_step_mem_uIcc positive finite).1

variable {samples : List Float}

theorem StaysFinite.isFinite_of_mem (stays : StaysFinite samples) :
    ∀ sample ∈ samples, sample.isFinite = true := by
  intro sample present
  rcases List.append_of_mem present with ⟨earlier, later, split⟩
  exact (Double.isFinite_of_sub (stays earlier sample later split)).1

theorem value_runningMean_between (filled : samples ≠ []) (stays : StaysFinite samples) :
    ∃ low ∈ samples, ∃ high ∈ samples, value low ≤ value (runningMean samples) ∧
      value (runningMean samples) ≤ value high := by
  induction samples using List.reverseRecOn with
  | nil => exact absurd rfl filled
  | append_singleton samples sample ih =>
      rw [staysFinite_append_singleton_iff] at stays
      rcases stays with ⟨stays, finite⟩
      have sampleIn : sample ∈ samples ++ [sample] := List.mem_append_right _ List.mem_cons_self
      rw [runningMean_append_singleton]
      rcases samples.eq_nil_or_concat with rfl | ⟨_, _, isConcat⟩
      · have first := (value_first_step (Double.isFinite_of_sub finite).1).2
        exact ⟨sample, sampleIn, sample, sampleIn, first.ge, first.le⟩
      · have nonempty : samples ≠ [] := by simp [isConcat]
        rcases ih nonempty stays with ⟨low, lowIn, high, highIn, lowLe, leHigh⟩
        have step := (value_step_mem_uIcc (List.length_pos_iff.mpr nonempty) finite).2
        rcases Set.mem_uIcc.mp step with ⟨notBelow, notAbove⟩ | ⟨notBelow, notAbove⟩
        · exact ⟨low, List.mem_append_left _ lowIn, sample, sampleIn, lowLe.trans notBelow,
            notAbove⟩
        · exact ⟨sample, sampleIn, high, List.mem_append_left _ highIn, notBelow,
            notAbove.trans leHigh⟩

/-- A finite mean lies between the smallest and the largest sample. -/
theorem runningMean_between (filled : samples ≠ []) (stays : StaysFinite samples) :
    ∃ low ∈ samples, ∃ high ∈ samples, low ≤ runningMean samples ∧
      runningMean samples ≤ high := by
  have finite := stays.isFinite_of_mem
  have meanFinite := (isFinite_runningMean_iff samples).mpr stays
  rcases value_runningMean_between filled stays with ⟨low, lowIn, high, highIn, lowLe, leHigh⟩
  exact ⟨low, lowIn, high, highIn,
    (Double.le_iff_value_le (finite low lowIn) meanFinite).mpr lowLe,
    (Double.le_iff_value_le meanFinite (finite high highIn)).mpr leHigh⟩

/-- The distance of two doubles is finite if they have no different signs. -/
theorem isFinite_sub_of_same_sign {left right : Float} (leftFinite : left.isFinite = true)
    (rightFinite : right.isFinite = true)
    (sameSign : 0 ≤ value left ∧ 0 ≤ value right ∨ value left ≤ 0 ∧ value right ≤ 0) :
    (left - right).isFinite = true := by
  have between : value left - value right ∈ Set.uIcc (value left) (-value right) := by
    rw [Set.mem_uIcc]
    rcases sameSign with nonneg | nonpos
    · right
      constructor <;> linarith
    · left
      constructor <;> linarith
  rcases Double.abs_le_or_abs_le_of_mem_uIcc between with le | le
  · exact Double.isFinite_sub leftFinite rightFinite leftFinite le
  · rw [abs_neg] at le
    exact Double.isFinite_sub leftFinite rightFinite rightFinite le

theorem value_runningMean_nonneg (stays : StaysFinite samples)
    (nonneg : ∀ sample ∈ samples, 0 ≤ value sample) : 0 ≤ value (runningMean samples) := by
  rcases eq_or_ne samples [] with rfl | filled
  · exact value_zero.ge
  · rcases value_runningMean_between filled stays with ⟨low, lowIn, _, _, lowLe, _⟩
    exact (nonneg low lowIn).trans lowLe

theorem value_runningMean_nonpos (stays : StaysFinite samples)
    (nonpos : ∀ sample ∈ samples, value sample ≤ 0) : value (runningMean samples) ≤ 0 := by
  rcases eq_or_ne samples [] with rfl | filled
  · exact value_zero.le
  · rcases value_runningMean_between filled stays with ⟨_, _, high, highIn, _, leHigh⟩
    exact leHigh.trans (nonpos high highIn)

theorem staysFinite_of_value_same_sign (finite : ∀ sample ∈ samples, sample.isFinite = true)
    (sameSign : (∀ sample ∈ samples, 0 ≤ value sample) ∨ ∀ sample ∈ samples, value sample ≤ 0) :
    StaysFinite samples := by
  induction samples using List.reverseRecOn with
  | nil => exact staysFinite_nil
  | append_singleton samples sample ih =>
      simp only [List.forall_mem_append, List.forall_mem_singleton] at finite sameSign
      have stays := ih finite.1 (sameSign.imp And.left And.left)
      refine (staysFinite_append_singleton_iff samples sample).mpr ⟨stays, ?_⟩
      apply isFinite_sub_of_same_sign finite.2 ((isFinite_runningMean_iff samples).mpr stays)
      exact sameSign.imp
        (fun nonneg => ⟨nonneg.2, value_runningMean_nonneg stays nonneg.1⟩)
        (fun nonpos => ⟨nonpos.2, value_runningMean_nonpos stays nonpos.1⟩)

/-- All distances are finite between samples that have no different signs. -/
theorem staysFinite_of_same_sign (finite : ∀ sample ∈ samples, sample.isFinite = true)
    (sameSign : (∀ sample ∈ samples, 0 ≤ sample) ∨ ∀ sample ∈ samples, sample ≤ 0) :
    StaysFinite samples := by
  apply staysFinite_of_value_same_sign finite
  refine sameSign.imp (fun nonneg sample present => ?_) (fun nonpos sample present => ?_)
  · exact (Double.le_iff_value_le rfl (finite sample present)).mp (nonneg sample present)
  · exact (Double.le_iff_value_le (finite sample present) rfl).mp (nonpos sample present)

end SampleChart.Statistics
