import SampleChart.Proofs.Double.Rounding

/-!
# Sums, differences and quotients of doubles

The operations on finite doubles give the exact result, rounded. Where this would be too large for a
double, it is packed as an infinity. It cannot be too large if the exact result lies between two
numbers that are doubles, which is how a result is seen to be finite here.
-/

namespace SampleChart.Double

open Float.Model (UnpackedFloat totalExponent)
open Float.Model.UnpackedFloat
open Json (log2_div_pow)

theorem log2_shiftLeft {significand : Nat} (positive : 0 < significand) (amount : Nat) :
    (significand <<< amount).log2 = significand.log2 + amount := by
  induction amount with
  | zero => rfl
  | succ amount ih =>
      have nonzero : significand <<< amount ≠ 0 := by
        rw [Nat.shiftLeft_eq]
        exact (Nat.mul_pos positive (Nat.two_pow_pos amount)).ne'
      rw [Nat.shiftLeft_succ, Nat.log2_two_mul nonzero, ih]
      omega

/-- A significand that is shifted to the left stands for the same at an exponent that is lower by as
much. -/
theorem shiftLeft_mul_zpow (significand amount : Nat) (exponent : Int) :
    ((significand <<< amount : ℕ) : ℚ) * 2 ^ (exponent - amount) = significand * 2 ^ exponent := by
  rw [Nat.shiftLeft_eq, Nat.cast_mul, Nat.cast_pow, Nat.cast_ofNat, mul_assoc, ← zpow_natCast,
    ← zpow_add₀ (by norm_num)]
  congr 2
  omega

theorem truncates_exact (significand : Nat) :
    Truncates (.ofMantissaAndAccuracy significand .exact) significand :=
  ⟨le_rfl, lt_add_one _, iff_of_true ⟨rfl, rfl⟩ rfl⟩

/-- A magnitude with nothing behind it is rounded to the double next to it. -/
theorem isRounded_round (sign : Sign) {significand : Nat} (positive : 0 < significand)
    (exponent : Int) :
    IsRounded (signed sign (significand * 2 ^ exponent))
      (UnpackedFloat.round .binary64 sign significand exponent) := by
  simp only [UnpackedFloat.round, decreaseExponent, Json.targetExponent_eq]
  generalize shifted :
    (exponent - max (totalExponent significand exponent - 53) (-1074)).toNat = amount
  rw [← shiftLeft_mul_zpow significand amount exponent]
  apply isRounded_roundWithAccuracy sign (truncates_exact _)
  have log := log2_shiftLeft positive amount
  unfold totalExponent at *
  omega

theorem isRounded_normalize (significand exponent : Int) (zeroSign : Sign) :
    IsRounded (significand * 2 ^ exponent)
      (UnpackedFloat.normalize .binary64 significand exponent zeroSign) := by
  unfold UnpackedFloat.normalize
  split
  next isNegative =>
    have negative : significand < 0 := Int.compare_eq_lt.mp isNegative
    have magnitude : ((-significand).toNat : ℚ) = -significand := by
      exact_mod_cast congrArg (Int.cast (R := ℚ)) (Int.toNat_of_nonneg (by omega))
    convert isRounded_round .negative (by omega : 0 < (-significand).toNat) exponent using 1
    rw [magnitude, signed, neg_mul, neg_neg]
  next isZero =>
    have zero : significand = 0 := Int.compare_eq_eq.mp isZero
    rw [zero, Int.cast_zero, zero_mul]
    exact isRounded_zero zeroSign
  next isPositive =>
    have positive : 0 < significand := Int.compare_eq_gt.mp isPositive
    have magnitude : (significand.toNat : ℚ) = significand := by
      exact_mod_cast congrArg (Int.cast (R := ℚ)) (Int.toNat_of_nonneg (by omega))
    convert isRounded_round .positive (by omega : 0 < significand.toNat) exponent using 1
    rw [magnitude, signed]

/-- Moving a significand to a lower exponent changes nothing. -/
theorem apply_shiftLeft_mul_zpow (sign : Sign) (significand : Nat) {lower exponent : Int}
    (le : lower ≤ exponent) :
    (sign.apply ((significand <<< (exponent - lower).toNat : ℕ) : ℤ) : ℚ) * 2 ^ lower =
      signed sign (significand * 2 ^ exponent) := by
  rw [← shiftLeft_mul_zpow significand (exponent - lower).toNat exponent,
    Int.toNat_of_nonneg (by omega), sub_sub_cancel]
  cases sign <;> simp only [Sign.apply, signed, Int.cast_neg, Int.cast_natCast, neg_mul]

/-- Taking a number away is adding it with the other sign. -/
theorem unpackedSub_eq (left right : UnpackedFloat) :
    UnpackedFloat.sub .binary64 left right = UnpackedFloat.add .binary64 left right.neg := by
  have apply_neg (sign : Sign) (significand : Int) :
      (-sign).apply significand = -sign.apply significand := by
    cases sign with
    | negative => exact (neg_neg significand).symm
    | positive => rfl
  cases left with
  | notANumber => rfl
  | infinity leftSign => cases right <;> rfl
  | zero leftSign => cases right <;> rfl
  | finite leftSign left leftExponent leftPositive =>
      cases right with
      | finite rightSign right rightExponent rightPositive =>
          simp only [UnpackedFloat.sub, UnpackedFloat.add, UnpackedFloat.neg, apply_neg,
            sub_eq_add_neg]
      | _ => rfl

section Unpacked

variable {left right : UnpackedFloat} (leftCanonical : Canonical left)
  (rightCanonical : Canonical right)

include leftCanonical rightCanonical

/-- A sum is the double next to the sum of the values. -/
theorem isRounded_add :
    IsRounded (valueOf left + valueOf right) (UnpackedFloat.add .binary64 left right) := by
  cases leftCanonical with
  | zero leftSign =>
      rw [valueOf_zero, zero_add]
      cases rightCanonical with
      | zero rightSign =>
          simp only [UnpackedFloat.add]
          split <;> exact isRounded_zero _
      | finite bits least full => exact isRounded_self (.finite bits least full)
  | @finite leftSign left leftExponent leftPositive bits least full =>
      cases rightCanonical with
      | zero rightSign =>
          rw [valueOf_zero, add_zero]
          exact isRounded_self (.finite bits least full)
      | @finite rightSign right rightExponent rightPositive =>
          simp only [UnpackedFloat.add, decreaseExponent, valueOf_finite]
          convert isRounded_normalize _ _ _ using 1
          rw [← apply_shiftLeft_mul_zpow leftSign left (min_le_left leftExponent rightExponent),
            ← apply_shiftLeft_mul_zpow rightSign right (min_le_right leftExponent rightExponent)]
          push_cast
          ring

theorem isRounded_sub :
    IsRounded (valueOf left - valueOf right) (UnpackedFloat.sub .binary64 left right) := by
  rw [sub_eq_add_neg, ← valueOf_neg, unpackedSub_eq]
  exact isRounded_add leftCanonical rightCanonical.neg

end Unpacked

/-- A quotient has at least as many bits as the numerator has more than the denominator, less one.
-/
theorem le_log2_div (numerator : Nat) {denominator : Nat} (positive : 0 < denominator) :
    numerator.log2 - (denominator.log2 + 1) ≤ (numerator / denominator).log2 := by
  rw [← log2_div_pow]
  exact Json.log2_le_log2 (Nat.div_le_div_left Nat.lt_log2_self.le positive)

/-- The bits next to a significand tell whether something was cut off. -/
theorem bits_ofMantissaAndAccuracy (significand : Nat) (accuracy : Accuracy) :
    ((ExtendedMantissa.ofMantissaAndAccuracy significand accuracy).roundBit = false ∧
      (ExtendedMantissa.ofMantissaAndAccuracy significand accuracy).stickyBit = false) ↔
      accuracy = .exact := by
  unfold ExtendedMantissa.ofMantissaAndAccuracy
  split <;> simp

/-- A quotient cut off to whole numbers, with the remainder as what is behind it, stands for the
exact one. -/
theorem truncates_quotient (numerator : Nat) {denominator : Nat} (positive : 0 < denominator) :
    Truncates (.ofMantissaAndAccuracy (numerator / denominator)
      (accuracyOfFraction (numerator % denominator) denominator)) (numerator / denominator) := by
  have denominatorPos : (0 : ℚ) < denominator := by exact_mod_cast positive
  have parts : ((numerator / denominator : ℕ) : ℚ) * denominator + (numerator % denominator : ℕ) =
      numerator := by
    exact_mod_cast Nat.div_add_mod' numerator denominator
  have restNonneg : (0 : ℚ) ≤ (numerator % denominator : ℕ) := Nat.cast_nonneg _
  have restLt : ((numerator % denominator : ℕ) : ℚ) < denominator := by
    exact_mod_cast Nat.mod_lt numerator positive
  constructor
  · rw [Json.mantissa_ofMantissaAndAccuracy, le_div_iff₀ denominatorPos]
    linarith
  · rw [Json.mantissa_ofMantissaAndAccuracy, div_lt_iff₀ denominatorPos]
    linarith
  · rw [Json.mantissa_ofMantissaAndAccuracy, bits_ofMantissaAndAccuracy,
      div_eq_iff denominatorPos.ne', ← parts, add_eq_left, Nat.cast_eq_zero]
    unfold accuracyOfFraction
    split <;> simp_all

/-- The quotient of two magnitudes is rounded to the double next to it. -/
theorem isRounded_divCore (sign : Sign) {left right : Nat} (leftExponent rightExponent : Int)
    (leftPositive : 0 < left) (rightPositive : 0 < right) :
    IsRounded (signed sign ((left * 2 ^ leftExponent) / (right * 2 ^ rightExponent)))
      (roundWithAccuracy .binary64 sign
        (divCore .binary64 left leftExponent right rightExponent).1
        (divCore .binary64 left leftExponent right rightExponent).2.1
        (divCore .binary64 left leftExponent right rightExponent).2.2) := by
  simp only [divCore, Json.targetExponent_eq]
  generalize isTarget : min (leftExponent - rightExponent)
    (max (totalExponent left leftExponent - totalExponent right rightExponent - 53) (-1074)) =
      target
  generalize isAmount : (leftExponent - rightExponent - target).toNat = amount
  have truncates := truncates_quotient (left <<< amount) rightPositive
  have quotientLog := le_log2_div (left <<< amount) rightPositive
  have leftLog := log2_shiftLeft leftPositive amount
  have rounded := @isRounded_roundWithAccuracy sign _ target _ _ truncates
    (by unfold totalExponent at *; omega)
  have moved := shiftLeft_mul_zpow left amount (leftExponent - rightExponent)
  have isDifference : leftExponent - rightExponent - amount = target := by omega
  rw [isDifference, zpow_sub₀ (by norm_num)] at moved
  convert rounded using 2
  rw [div_mul_eq_mul_div, moved]
  field_simp

theorem signed_div_signed (leftSign rightSign : Sign) (left right : ℚ) :
    signed leftSign left / signed rightSign right =
      signed (leftSign / rightSign) (left / right) := by
  cases leftSign with
  | negative =>
      cases rightSign with
      | negative => exact neg_div_neg_eq left right
      | positive => exact neg_div right left
  | positive =>
      cases rightSign with
      | negative => exact div_neg left
      | positive => rfl

/-- A quotient by a number other than zero is the double next to the quotient of the values. -/
theorem isRounded_div {left : UnpackedFloat} (leftCanonical : Canonical left) (sign : Sign)
    {significand : Nat} (exponent : Int) (positive : 0 < significand) :
    IsRounded (valueOf left / valueOf (.finite sign significand exponent positive))
      (UnpackedFloat.div .binary64 left (.finite sign significand exponent positive)) := by
  cases leftCanonical with
  | zero leftSign =>
      rw [valueOf_zero, zero_div]
      exact isRounded_zero _
  | @finite leftSign left leftExponent leftPositive =>
      rw [valueOf_finite, valueOf_finite, signed_div_signed]
      exact isRounded_divCore _ leftExponent exponent leftPositive positive

end SampleChart.Double
