import SampleChart.Proofs.Double.Value

/-!
# The order of doubles

Doubles of one sign are compared by their exponents and then by their significands. This is the
order of the numbers that they stand for, since a significand that stands next to more than the
least exponent is a full one.
-/

namespace SampleChart.Double

open Float.Model (UnpackedFloat)
open Float.Model.UnpackedFloat

variable {small large : Nat} {smallExponent largeExponent : Int}

/-- A full significand next to a larger exponent makes for a larger number. -/
theorem magnitude_lt_of_exponent_lt (bits : small < 2 ^ 53) (full : 2 ^ 52 ≤ large)
    (lt : smallExponent < largeExponent) :
    (small : ℚ) * 2 ^ smallExponent < large * 2 ^ largeExponent :=
  calc (small : ℚ) * 2 ^ smallExponent
      < 2 ^ 53 * 2 ^ smallExponent :=
        mul_lt_mul_of_pos_right (by exact_mod_cast bits) (two_zpow_pos _)
    _ = 2 ^ 52 * 2 ^ (smallExponent + 1) := by rw [zpow_add_one₀ (by norm_num)]; ring
    _ ≤ 2 ^ 52 * 2 ^ largeExponent :=
        mul_le_mul_of_nonneg_left (zpow_le_zpow_right₀ (by norm_num) lt) (by positivity)
    _ ≤ large * 2 ^ largeExponent :=
        mul_le_mul_of_nonneg_right (by exact_mod_cast full) (two_zpow_pos _).le

/-- Exponents and then significands are compared as the magnitudes that they make up. -/
theorem compare_magnitude {left right : Nat} {leftExponent rightExponent : Int}
    (leftBits : left < 2 ^ 53) (rightBits : right < 2 ^ 53)
    (leftLeast : -1074 ≤ leftExponent) (rightLeast : -1074 ≤ rightExponent)
    (leftFull : 2 ^ 52 ≤ left ∨ leftExponent = -1074)
    (rightFull : 2 ^ 52 ≤ right ∨ rightExponent = -1074) :
    (compare leftExponent rightExponent).then (compare left right) =
      compare ((left : ℚ) * 2 ^ leftExponent) (right * 2 ^ rightExponent) := by
  rcases lt_trichotomy leftExponent rightExponent with lt | rfl | gt
  · have magnitude := magnitude_lt_of_exponent_lt leftBits (rightFull.resolve_right (by omega)) lt
    rw [compare_lt_iff_lt.mpr lt, compare_lt_iff_lt.mpr magnitude]
    rfl
  · rw [compare_eq_iff_eq.mpr rfl]
    rcases lt_trichotomy left right with lt | rfl | gt
    · have magnitude : (left : ℚ) * 2 ^ leftExponent < right * 2 ^ leftExponent :=
        mul_lt_mul_of_pos_right (by exact_mod_cast lt) (two_zpow_pos _)
      rw [compare_lt_iff_lt.mpr lt, compare_lt_iff_lt.mpr magnitude]
      rfl
    · rw [compare_eq_iff_eq.mpr rfl, compare_eq_iff_eq.mpr rfl]
      rfl
    · have magnitude : (right : ℚ) * 2 ^ leftExponent < left * 2 ^ leftExponent :=
        mul_lt_mul_of_pos_right (by exact_mod_cast gt) (two_zpow_pos _)
      rw [compare_gt_iff_gt.mpr gt, compare_gt_iff_gt.mpr magnitude]
      rfl
  · have magnitude := magnitude_lt_of_exponent_lt rightBits (leftFull.resolve_right (by omega)) gt
    rw [compare_gt_iff_gt.mpr gt, compare_gt_iff_gt.mpr magnitude]
    rfl

theorem isLE_compare_iff (left right : ℚ) : (compare left right).isLE = true ↔ left ≤ right := by
  rw [Ordering.isLE_iff_ne_gt]
  exact compare_le_iff_le

theorem isLE_swap_compare_iff (left right : ℚ) :
    (compare left right).swap.isLE = true ↔ right ≤ left := by
  rw [Ordering.isLE_swap, Ordering.isGE_iff_ne_lt]
  exact compare_ge_iff_ge

theorem unpacked_le_iff {left right : UnpackedFloat} (leftCanonical : Canonical left)
    (rightCanonical : Canonical right) :
    left.le right = true ↔ valueOf left ≤ valueOf right := by
  cases leftCanonical with
  | zero leftSign =>
      cases rightCanonical with
      | zero rightSign => exact iff_of_true rfl le_rfl
      | @finite sign significand exponent positive =>
          have magnitude := magnitude_pos positive exponent
          cases sign with
          | positive => exact iff_of_true rfl magnitude.le
          | negative =>
              exact iff_of_false Bool.false_ne_true (not_le.mpr (neg_lt_zero.mpr magnitude))
  | @finite leftSign left leftExponent leftPositive leftBits leftLeast leftFull =>
      have leftMagnitude := magnitude_pos leftPositive leftExponent
      cases rightCanonical with
      | zero rightSign =>
          cases leftSign with
          | positive => exact iff_of_false Bool.false_ne_true (not_le.mpr leftMagnitude)
          | negative => exact iff_of_true rfl (neg_nonpos.mpr leftMagnitude.le)
      | @finite rightSign right rightExponent rightPositive rightBits rightLeast rightFull =>
          have rightMagnitude := magnitude_pos rightPositive rightExponent
          have compared :=
            compare_magnitude leftBits rightBits leftLeast rightLeast leftFull rightFull
          cases leftSign with
          | positive =>
              cases rightSign with
              | positive =>
                  rw [valueOf, valueOf, signed, signed, ← isLE_compare_iff, ← compared]
                  rfl
              | negative =>
                  rw [valueOf, valueOf, signed, signed]
                  exact iff_of_false Bool.false_ne_true (by linarith)
          | negative =>
              cases rightSign with
              | positive =>
                  rw [valueOf, valueOf, signed, signed]
                  exact iff_of_true rfl (by linarith)
              | negative =>
                  rw [valueOf, valueOf, signed, signed, neg_le_neg_iff, ← isLE_swap_compare_iff,
                    ← compared]
                  rfl

/-- Finite doubles are ordered as the numbers that they stand for. -/
theorem le_iff_value_le {left right : Float} (leftFinite : left.isFinite = true)
    (rightFinite : right.isFinite = true) : left ≤ right ↔ value left ≤ value right := by
  rw [value, value, ← unpacked_le_iff (canonical_of_isFinite leftFinite)
    (canonical_of_isFinite rightFinite)]
  exact decide_eq_true_iff

end SampleChart.Double
