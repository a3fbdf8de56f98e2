import Mathlib
import SampleChart.Json.Number

/-!
# Doubles that are read are finite

A number of a document is a significand below `2 ^ 64`, multiplied or divided by a power of ten.
A product that is infinite is not taken, and a quotient by a power of ten is no larger than its
numerator. Sizes are measured by the exponent that stands next to a significand of 53 bits: rounding
adds at most one to it.
-/

namespace SampleChart.Json

open Float.Model Float.Model.UnpackedFloat

/-- A double is finite and its exponent is not above a bound. -/
inductive ExponentAtMost (bound : Int) : UnpackedFloat → Prop where
  | zero (sign : Sign) : ExponentAtMost bound (.zero sign)
  | finite {sign : Sign} {significand : Nat} {exponent : Int} {positive : 0 < significand}
      (bits : significand < 2 ^ 53) (low : exponent ≤ bound) :
      ExponentAtMost bound (.finite sign significand exponent positive)

/-- What a number is rounded to is finite and its exponent is not above a bound. -/
inductive RoundsTo (bound : Int) : UnpackedFloat → Prop where
  | zero (sign : Sign) : RoundsTo bound (.zero sign)
  | finite {sign : Sign} {significand : Nat} {exponent : Int} {positive : 0 < significand}
      (low : exponent ≤ bound) : RoundsTo bound (.finite sign significand exponent positive)

theorem ExponentAtMost.mono {low high : Int} (le : low ≤ high) {unpacked : UnpackedFloat}
    (atMost : ExponentAtMost low unpacked) : ExponentAtMost high unpacked := by
  cases atMost with
  | zero sign => exact .zero sign
  | finite bits bounded => exact .finite bits (bounded.trans le)

theorem isFinite_of_exponentAtMost {bound : Int} {number : Float}
    (atMost : ExponentAtMost bound number.toModel.unpack) : number.isFinite = true := by
  change number.toModel.unpack.isFinite = true
  generalize number.toModel.unpack = unpacked at *
  cases atMost <;> rfl

theorem mantissa_shiftRight (extended : ExtendedMantissa) (amount : Nat) :
    (extended >>> amount).mantissa = extended.mantissa / 2 ^ amount := by
  change (Nat.repeat ExtendedMantissa.shiftRightOne amount extended).mantissa = _
  induction amount with
  | zero => simp [Nat.repeat]
  | succ amount ih =>
      rw [Nat.repeat, ExtendedMantissa.shiftRightOne, ih, Nat.div_div_eq_div_mul, Nat.pow_succ]

theorem mantissa_ofMantissaAndAccuracy (significand : Nat) (accuracy : Accuracy) :
    (ExtendedMantissa.ofMantissaAndAccuracy significand accuracy).mantissa = significand := by
  unfold ExtendedMantissa.ofMantissaAndAccuracy
  split <;> rfl

theorem roundedMantissa_le (extended : ExtendedMantissa) :
    extended.roundedMantissa ≤ extended.mantissa + 1 := by
  unfold ExtendedMantissa.roundedMantissa Accuracy.roundToNearestEven
  split <;> omega

theorem log2_le_log2 {small large : Nat} (le : small ≤ large) : small.log2 ≤ large.log2 := by
  rw [Nat.log2_eq_log_two, Nat.log2_eq_log_two]
  exact Nat.log_mono_right le

theorem log2_div_pow (significand amount : Nat) :
    (significand / 2 ^ amount).log2 = significand.log2 - amount := by
  rw [Nat.log2_eq_log_two, Nat.log2_eq_log_two, Nat.log_div_base_pow]

theorem log2_succ_le (number : Nat) : (number + 1).log2 ≤ number.log2 + 1 := by
  have below : number + 1 < 2 ^ (number.log2 + 2) := by
    have := Nat.lt_log2_self (n := number)
    rw [Nat.pow_succ]
    omega
  have := (Nat.log2_lt (by omega)).mpr below
  omega

theorem targetExponent_eq (total : Int) :
    Format.binary64.targetExponent total = max (total - 53) (-1074) := rfl

/-- Where a significand is shifted to 53 bits, its exponent rises only as far as it has to. -/
theorem shiftToTargetExponent_snd (significand : Nat) (exponent : Int) (accuracy : Accuracy) :
    (shiftToTargetExponent .binary64 significand exponent accuracy).2 =
      max exponent (max (totalExponent significand exponent - 53) (-1074)) := by
  simp only [shiftToTargetExponent, shiftToExponent, targetExponent_eq]
  omega

theorem shiftToTargetExponent_log2 (significand : Nat) (exponent : Int) (accuracy : Accuracy) :
    ((shiftToTargetExponent .binary64 significand exponent accuracy).1.mantissa.log2 : Int) +
        (shiftToTargetExponent .binary64 significand exponent accuracy).2 ≤
      max (significand.log2 + exponent)
        (shiftToTargetExponent .binary64 significand exponent accuracy).2 := by
  simp only [shiftToTargetExponent, shiftToExponent, mantissa_shiftRight,
    mantissa_ofMantissaAndAccuracy, log2_div_pow]
  omega

/-- Rounding to 53 bits adds at most one to an exponent. -/
theorem roundsTo_roundWithAccuracy {bound : Int} (sign : Sign) {significand : Nat} {exponent : Int}
    (accuracy : Accuracy) (positive : 0 < bound) (low : exponent < bound)
    (total : totalExponent significand exponent < bound + 53) :
    RoundsTo bound (roundWithAccuracy .binary64 sign significand exponent accuracy) := by
  have firstExponent := shiftToTargetExponent_snd significand exponent accuracy
  have firstLog := shiftToTargetExponent_log2 significand exponent accuracy
  simp only [roundWithAccuracy]
  generalize shiftToTargetExponent .binary64 significand exponent accuracy = first at *
  have secondExponent := shiftToTargetExponent_snd first.1.roundedMantissa first.2 .exact
  have roundedLog : first.1.roundedMantissa.log2 ≤ first.1.mantissa.log2 + 1 :=
    (log2_le_log2 (roundedMantissa_le first.1)).trans (log2_succ_le _)
  split
  next => exact .zero sign
  next =>
    apply RoundsTo.finite
    unfold totalExponent at *
    omega

theorem log2_lt_of_lt {number bits : Nat} (below : number < 2 ^ bits) (positive : 0 < bits) :
    number.log2 < bits := by
  rcases Nat.eq_zero_or_pos number with rfl | nonzero
  · simpa using positive
  · exact (Nat.log2_lt (by omega)).mpr below

theorem totalExponent_le {significand bits : Nat} (below : significand < 2 ^ bits)
    (positive : 0 < bits) (exponent : Int) :
    totalExponent significand exponent ≤ bits + exponent := by
  have := log2_lt_of_lt below positive
  unfold totalExponent
  omega

/-- The bits of a finite double denote a significand of 53 bits next to their exponent. -/
theorem exponentAtMost_unpack {bound : Int} (positive : 0 ≤ bound) (sign : Sign)
    {exponent : BitVec 11} (significand : BitVec 52) (finite : exponent ≠ -1#11)
    (low : exponent.toNat ≤ bound + 1075) :
    ExponentAtMost bound
      (UnpackedFloat.unpack .binary64 (packComponents .binary64 sign exponent significand)) := by
  have bits := significand.isLt
  simp only [UnpackedFloat.unpack, unpackExponent_packComponents, unpackMantissa_packComponents]
  rw [if_neg finite]
  have bias : (Format.binary64.exponentBias : Int) = 1023 := rfl
  split
  next isZero =>
    split
    next => exact .zero _
    next =>
      apply ExponentAtMost.finite
      · omega
      · simp only [isZero, BitVec.toNat_ofNat]
        omega
  next =>
    apply ExponentAtMost.finite
    · exact (1#1 ++ significand).isLt
    · omega

/-- A rounded number is packed into a finite double if its exponent is that of one. -/
theorem exponentAtMost_pack {bound : Int} (positive : 0 ≤ bound) (small : bound ≤ 971)
    {rounded : UnpackedFloat} (roundsTo : RoundsTo bound rounded) :
    ExponentAtMost bound (Float.Model.pack rounded).unpack := by
  change ExponentAtMost bound
    (UnpackedFloat.unpack .binary64 (UnpackedFloat.pack .binary64 rounded))
  cases roundsTo with
  | zero sign => exact exponentAtMost_unpack positive sign _ (by decide) (by simp; omega)
  | @finite sign significand exponent nonzero low =>
      have bias : (Format.binary64.exponentBias : Int) = 1023 := rfl
      simp only [UnpackedFloat.pack, bias]
      rw [if_neg (by omega)]
      split
      · apply exponentAtMost_unpack positive
        · intro eq
          have := congrArg BitVec.toNat eq
          simp at this
          omega
        · simp
          omega
      · exact exponentAtMost_unpack positive sign _ (by decide) (by simp; omega)

theorem log2_shiftLeft_le (significand amount : Nat) :
    (significand <<< amount).log2 ≤ significand.log2 + amount := by
  rcases Nat.eq_zero_or_pos significand with rfl | positive
  · simp
  · have below : significand <<< amount < 2 ^ (significand.log2 + amount + 1) := by
      rw [Nat.shiftLeft_eq, Nat.add_right_comm, Nat.pow_add]
      exact Nat.mul_lt_mul_of_pos_right Nat.lt_log2_self (Nat.two_pow_pos amount)
    have nonzero : significand <<< amount ≠ 0 := by
      rw [Nat.shiftLeft_eq]
      have := Nat.mul_pos positive (Nat.two_pow_pos amount)
      omega
    have := (Nat.log2_lt nonzero).mpr below
    omega

/-- A quotient has no more bits than its numerator has above its denominator. -/
theorem log2_div_le (numerator : Nat) {denominator : Nat} (positive : 0 < denominator) :
    (numerator / denominator).log2 ≤ numerator.log2 - denominator.log2 := by
  have denominatorLow : 2 ^ denominator.log2 ≤ denominator := Nat.log2_self_le (by omega)
  calc (numerator / denominator).log2
      ≤ (numerator / 2 ^ denominator.log2).log2 :=
        log2_le_log2 (Nat.div_le_div_left denominatorLow (Nat.two_pow_pos _))
    _ = numerator.log2 - denominator.log2 := log2_div_pow _ _

/-- A double is finite and not below one. -/
inductive AtLeastOne : UnpackedFloat → Prop where
  | finite {sign : Sign} {significand : Nat} {exponent : Int} {positive : 0 < significand}
      (total : 1 ≤ totalExponent significand exponent) :
      AtLeastOne (.finite sign significand exponent positive)

instance : DecidablePred AtLeastOne
  | .finite _ significand exponent _ =>
      decidable_of_iff (1 ≤ totalExponent significand exponent)
        ⟨.finite, fun | .finite total => total⟩
  | .zero _ => isFalse nofun
  | .infinity _ => isFalse nofun
  | .notANumber => isFalse nofun

/-- Dividing by a number that is at least one adds at most one to an exponent. -/
theorem exponentAtMost_div {bound : Int} (positive : 0 ≤ bound) (small : bound < 971)
    {numerator denominator : Float} (low : ExponentAtMost bound numerator.toModel.unpack)
    (atLeastOne : AtLeastOne denominator.toModel.unpack) :
    ExponentAtMost (bound + 1) (numerator / denominator).toModel.unpack := by
  change ExponentAtMost (bound + 1) (Float.Model.pack
    (UnpackedFloat.div .binary64 numerator.toModel.unpack denominator.toModel.unpack)).unpack
  apply exponentAtMost_pack (by omega) (by omega)
  generalize numerator.toModel.unpack = upper at *
  generalize denominator.toModel.unpack = lower at *
  rcases atLeastOne with @⟨sign, significand, exponent, nonzero, atLeastOne⟩
  cases low with
  | zero upperSign => exact .zero _
  | @finite upperSign upper upperExponent upperNonzero bits low =>
      have total := totalExponent_le bits (by decide) upperExponent
      simp only [UnpackedFloat.div, divCore, targetExponent_eq]
      generalize shifted : (upperExponent - exponent - min (upperExponent - exponent)
          (max (totalExponent upper upperExponent - totalExponent significand exponent - 53)
            (-1074))).toNat = amount
      have quotientLog := log2_div_le (upper <<< amount) nonzero
      have shiftedLog := log2_shiftLeft_le upper amount
      apply roundsTo_roundWithAccuracy _ _ (by omega)
      · omega
      · unfold totalExponent at *
        omega

theorem log2_mul_le (left right : Nat) :
    (left * right).log2 ≤ left.log2 + right.log2 + 1 := by
  have below : left * right < 2 ^ (left.log2 + right.log2 + 2) := by
    have product := Nat.mul_lt_mul'' (Nat.lt_log2_self (n := left)) (Nat.lt_log2_self (n := right))
    rw [← Nat.pow_add] at product
    convert product using 2
    omega
  have := log2_lt_of_lt below (by omega)
  omega

/-- A product is rounded to an exponent that is bounded by those of its factors. -/
theorem roundsTo_mul {bound : Int} (positive : 0 < bound) (leftSign rightSign : Sign)
    {left right : Nat} {leftExponent rightExponent : Int} (leftNonzero : 0 < left)
    (rightNonzero : 0 < right) (low : leftExponent + rightExponent < bound)
    (total : totalExponent left leftExponent + totalExponent right rightExponent < bound + 53) :
    RoundsTo bound (UnpackedFloat.mul .binary64 (.finite leftSign left leftExponent leftNonzero)
      (.finite rightSign right rightExponent rightNonzero)) := by
  have log := log2_mul_le left right
  apply roundsTo_roundWithAccuracy _ _ positive low
  unfold totalExponent at *
  omega

/-- An integer of 64 bits is rounded to a small exponent. -/
theorem exponentAtMost_toFloat (number : UInt64) :
    ExponentAtMost 12 number.toFloat.toModel.unpack := by
  change ExponentAtMost 12 (Float.Model.pack
    (normalize .binary64 (number.toNat : Int) 0 .positive)).unpack
  apply exponentAtMost_pack (by decide) (by decide)
  have log := log2_lt_of_lt number.toNat_lt (by decide)
  unfold UnpackedFloat.normalize
  split
  next negative =>
    rw [Int.compare_eq_lt] at negative
    omega
  next => exact .zero _
  next =>
    have shiftedLog := log2_shiftLeft_le number.toNat
      (0 - Format.binary64.targetExponent (totalExponent number.toNat 0)).toNat
    simp only [UnpackedFloat.round, decreaseExponent, Int.toNat_natCast]
    apply roundsTo_roundWithAccuracy _ _ (by decide)
    · omega
    · unfold totalExponent at *
      omega

/-- A natural number of 64 bits is a double with a small exponent. -/
theorem exponentAtMost_ofNat {number : Nat} (below : number < 2 ^ 64) :
    ExponentAtMost 14 (Float.ofNat number).toModel.unpack := by
  change ExponentAtMost 14 (Float.ofScientific number false 0).toModel.unpack
  unfold Float.ofScientific
  split
  next =>
    have low := exponentAtMost_toFloat number.toUInt64
    have one : (Float.ofBits 0x3FF0000000000000).toModel.unpack =
        .finite .positive (2 ^ 52) (-52) (by decide) := rfl
    change ExponentAtMost 14 (Float.Model.pack (UnpackedFloat.mul .binary64
      number.toUInt64.toFloat.toModel.unpack
      (Float.ofBits 0x3FF0000000000000).toModel.unpack)).unpack
    rw [one]
    apply exponentAtMost_pack (by decide) (by decide)
    generalize number.toUInt64.toFloat.toModel.unpack = factor at *
    cases low with
    | zero sign => exact .zero _
    | @finite sign significand exponent nonzero bits low =>
        have total := totalExponent_le bits (by decide) exponent
        have oneBits : totalExponent (2 ^ 52) (-52) = 1 := by decide
        apply roundsTo_mul (by decide) _ _ nonzero
        · omega
        · omega
  next =>
    change ExponentAtMost 14
      (Float.Model.pack (UnpackedFloat.ofScientific .binary64 number 0)).unpack
    apply exponentAtMost_pack (by decide) (by decide)
    have log := log2_lt_of_lt below (by decide)
    have shiftedLog := log2_shiftLeft_le number 53
    have total : totalExponent (number <<< 53) (-53) + totalExponent 1 0 < 14 + 53 := by
      have oneLog : (1 : Nat).log2 = 0 := by decide
      unfold totalExponent
      omega
    unfold UnpackedFloat.ofScientific
    split
    next => exact .zero _
    next =>
      have positive : (0 : Int) < 2 ^ Format.binary64.exponentBits := by decide
      rw [if_neg (by decide), if_neg (by omega), if_pos (by decide)]
      exact roundsTo_mul (by decide) _ _ _ _ (by decide) total

/-- A rounded number is packed into a finite double unless it is packed into an infinite one. -/
theorem exponentAtMost_pack_of_notInfinite {bound : Int} {rounded : UnpackedFloat}
    (roundsTo : RoundsTo bound rounded)
    (notInfinite : (Float.Model.pack rounded).unpack.isInf = false) :
    ExponentAtMost 971 (Float.Model.pack rounded).unpack := by
  apply exponentAtMost_pack (by decide) (by decide)
  cases roundsTo with
  | zero sign => exact .zero sign
  | @finite sign significand exponent positive low =>
      apply RoundsTo.finite
      by_contra large
      have bias : (Format.binary64.exponentBias : Int) = 1023 := rfl
      have packed : UnpackedFloat.pack .binary64 (.finite sign significand exponent positive) =
          packedInfinity .binary64 sign := by
        simp only [UnpackedFloat.pack, bias]
        rw [if_pos (by omega)]
      have infinite : (Float.Model.pack (.finite sign significand exponent positive)).unpack =
          .infinity sign := by
        change UnpackedFloat.unpack .binary64 (UnpackedFloat.pack .binary64 _) = _
        rw [packed]
        cases sign <;> rfl
      rw [infinite] at notInfinite
      cases notInfinite

/-- A product with a number that is not below one is finite or infinite, but always a number. -/
theorem exponentAtMost_mul {bound : Int} {left right : Float}
    (leftFinite : ExponentAtMost bound left.toModel.unpack)
    (rightFinite : AtLeastOne right.toModel.unpack) (notInfinite : (left * right).isInf = false) :
    ExponentAtMost 971 (left * right).toModel.unpack := by
  have rounds : ∃ bound, RoundsTo bound
      (UnpackedFloat.mul .binary64 left.toModel.unpack right.toModel.unpack) := by
    generalize left.toModel.unpack = left at *
    generalize right.toModel.unpack = right at *
    rcases rightFinite with @⟨rightSign, rightSignificand, rightExponent, rightNonzero, _⟩
    cases leftFinite with
    | zero sign => exact ⟨0, .zero _⟩
    | @finite leftSign leftSignificand leftExponent leftNonzero =>
        exact ⟨max 1 (max (leftExponent + rightExponent + 1)
            (totalExponent leftSignificand leftExponent +
              totalExponent rightSignificand rightExponent)),
          roundsTo_mul (by omega) _ _ _ _ (by omega) (by omega)⟩
  rcases rounds with ⟨_, rounds⟩
  exact exponentAtMost_pack_of_notInfinite rounds notInfinite

theorem exponentAtMost_neg {number : Float}
    (finite : ExponentAtMost 971 number.toModel.unpack) :
    ExponentAtMost 971 (-number).toModel.unpack := by
  change ExponentAtMost 971 (Float.Model.pack number.toModel.unpack.neg).unpack
  apply exponentAtMost_pack (by decide) (by decide)
  generalize number.toModel.unpack = unpacked at *
  cases finite with
  | zero sign => exact .zero _
  | finite bits low => exact .finite low

namespace NumberParts

/-- The powers of ten that are doubles are not below one. -/
theorem atLeastOne_powerOfTen :
    ∀ exponent < 309, AtLeastOne (powerOfTen exponent).toModel.unpack := by
  decide +kernel

theorem exponentAtMost_of_scale {significand value : Float} {exponent : Int}
    (low : ExponentAtMost 14 significand.toModel.unpack)
    (scaled : scale significand exponent = some value) :
    ExponentAtMost 971 value.toModel.unpack := by
  unfold scale at scaled
  split at scaled
  next =>
    cases scaled
    exact low.mono (by decide)
  split at scaled
  next => cases scaled
  split at scaled
  next =>
    dsimp only at scaled
    split at scaled
    next => cases scaled
    next finite =>
      cases scaled
      have power := atLeastOne_powerOfTen exponent.toNat (by omega)
      exact exponentAtMost_mul low power (by simpa using finite)
  split at scaled
  next =>
    cases scaled
    have power := atLeastOne_powerOfTen exponent.natAbs (by omega)
    exact (exponentAtMost_div (by decide) (by decide) low power).mono (by decide)
  split at scaled
  next =>
    cases scaled
    have firstPower := atLeastOne_powerOfTen 308 (by decide)
    have secondPower := atLeastOne_powerOfTen (exponent.natAbs - 308) (by omega)
    have first := exponentAtMost_div (by decide) (by decide) low firstPower
    exact (exponentAtMost_div (by decide) (by decide) first secondPower).mono (by decide)
  next =>
    cases scaled
    exact .zero _

/-- Digits that are gathered into a significand stay below its bound. -/
theorem gather_lt {significand : Nat} (digits : List Char)
    (below : significand < significandBound) :
    (gather significand digits).1 < significandBound := by
  induction digits generalizing significand with
  | nil => exact below
  | cons digit rest ih =>
      rw [gather]
      split
      next nextBelow => exact ih nextBelow
      next => exact below

/-- A number is read as a finite double. -/
theorem exponentAtMost_of_float? {parts : NumberParts} {value : Float}
    (read : parts.float? = some value) : ExponentAtMost 971 value.toModel.unpack := by
  unfold float? at read
  simp only [Option.map_eq_some_iff] at read
  rcases read with ⟨magnitude, scaled, rfl⟩
  have below := gather_lt parts.fraction (@gather_lt 0 parts.whole (by decide))
  have finite := exponentAtMost_of_scale (exponentAtMost_ofNat below) scaled
  split
  next => exact exponentAtMost_neg finite
  next => exact finite

end NumberParts

end SampleChart.Json
