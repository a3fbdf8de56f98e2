import SampleChart.Proofs.Double.Results

/-!
# Doubles without a minus

A double without a minus is not negative or it is no number. Sums, products, quotients and square
roots of doubles without a minus have none either, and no square has one, however they are rounded
and even if they are infinite or no number. Zeros count with their sign: minus zero is not below
zero, but what is divided by it may be.
-/

namespace SampleChart.Double

open Float.Model (UnpackedFloat)
open Float.Model.UnpackedFloat

/-- An unpacked double has no minus. -/
inductive NoMinus : UnpackedFloat → Prop where
  | notANumber : NoMinus .notANumber
  | infinity : NoMinus (.infinity .positive)
  | zero : NoMinus (.zero .positive)
  | finite {significand : Nat} {exponent : Int} (positive : 0 < significand) :
      NoMinus (.finite .positive significand exponent positive)

namespace NoMinus

theorem of_valueOf_pos {unpacked : UnpackedFloat} (positive : 0 < valueOf unpacked) :
    NoMinus unpacked := by
  cases unpacked with
  | finite sign significand exponent significandPositive =>
      cases sign with
      | positive => exact .finite significandPositive
      | negative =>
          have magnitude := magnitude_pos significandPositive exponent
          rw [valueOf_finite, signed] at positive
          exact absurd positive (by linarith)
  | _ => exact absurd positive (lt_irrefl 0)

/-- Rounding with a positive sign gives no minus, whatever is rounded off. -/
theorem roundWithAccuracy (significand : Nat) (exponent : Int) (accuracy : Accuracy) :
    NoMinus
      (UnpackedFloat.roundWithAccuracy .binary64 .positive significand exponent accuracy) := by
  simp only [UnpackedFloat.roundWithAccuracy]
  split
  next => exact .zero
  next => exact .finite _

theorem normalize {significand : Int} (nonneg : 0 ≤ significand) (exponent : Int) :
    NoMinus (UnpackedFloat.normalize .binary64 significand exponent .positive) := by
  unfold UnpackedFloat.normalize
  split
  next isNegative =>
    have negative : significand < 0 := Int.compare_eq_lt.mp isNegative
    omega
  next => exact .zero
  next => exact roundWithAccuracy _ _ _

section Operand

variable {unpacked : UnpackedFloat} (noMinus : NoMinus unpacked)

include noMinus

/-- Packing keeps the sign, also of what becomes infinite. -/
theorem pack : NoMinus (Float.Model.pack unpacked).unpack := by
  have ofComponents (field : BitVec 11) (fraction : BitVec 52) :
      NoMinus (unpack .binary64 (packComponents .binary64 .positive field fraction)) := by
    simp only [unpack, unpackSign_packComponents, Sign.ofBitVec_toBitVec]
    split
    next => split <;> constructor
    next =>
      split
      next => split <;> constructor
      next => constructor
  cases noMinus with
  | notANumber => exact ofComponents _ _
  | infinity => exact ofComponents _ _
  | zero => exact ofComponents _ _
  | finite positive =>
      change NoMinus (unpack .binary64 (UnpackedFloat.pack .binary64 _))
      simp only [UnpackedFloat.pack]
      split
      next => exact ofComponents _ _
      next => split <;> exact ofComponents _ _

/-- What has no minus is not below zero, unless it is no number at all. -/
theorem isNaN_or_le :
    unpacked.isNaN = true ∨ UnpackedFloat.le (.zero .positive) unpacked = true := by
  cases noMinus with
  | notANumber => exact .inl rfl
  | _ => exact .inr rfl

theorem sqrt : NoMinus (UnpackedFloat.sqrt .binary64 unpacked) := by
  cases noMinus with
  | finite positive => exact roundWithAccuracy _ _ _
  | _ => constructor

end Operand

/-- A square has no minus, as both signs are the same. -/
theorem mul_self (unpacked : UnpackedFloat) :
    NoMinus (UnpackedFloat.mul .binary64 unpacked unpacked) := by
  have square (sign : Sign) : sign * sign = .positive := by cases sign <;> rfl
  cases unpacked with
  | finite sign significand exponent positive =>
      simp only [UnpackedFloat.mul, square]
      exact roundWithAccuracy _ _ _
  | _ => simp only [UnpackedFloat.mul, square]; constructor

section Operations

variable {left right : UnpackedFloat} (leftNoMinus : NoMinus left) (rightNoMinus : NoMinus right)

include leftNoMinus rightNoMinus

/-- The sum of two numbers without a minus has none: they are both positive, and zeros of one sign
keep it. -/
theorem add : NoMinus (UnpackedFloat.add .binary64 left right) := by
  cases leftNoMinus with
  | finite leftPositive =>
      cases rightNoMinus with
      | finite rightPositive =>
          simp only [UnpackedFloat.add, decreaseExponent, Sign.apply]
          exact normalize (Int.add_nonneg (Int.natCast_nonneg _) (Int.natCast_nonneg _)) _
      | _ => constructor
  | _ => cases rightNoMinus <;> constructor

theorem mul : NoMinus (UnpackedFloat.mul .binary64 left right) := by
  cases leftNoMinus with
  | finite leftPositive =>
      cases rightNoMinus with
      | finite rightPositive => exact roundWithAccuracy _ _ _
      | _ => constructor
  | _ => cases rightNoMinus <;> constructor

/-- A quotient of two numbers without a minus has none. -/
theorem div : NoMinus (UnpackedFloat.div .binary64 left right) := by
  cases leftNoMinus with
  | finite leftPositive =>
      cases rightNoMinus with
      | finite rightPositive => exact roundWithAccuracy _ _ _
      | _ => constructor
  | _ => cases rightNoMinus <;> constructor

end Operations

end NoMinus

/-- A double has no minus. -/
def Unsigned (number : Float) : Prop :=
  NoMinus number.toModel.unpack

namespace Unsigned

/-- The square of any double is not below zero. -/
theorem mul_self (number : Float) : Unsigned (number * number) :=
  (NoMinus.mul_self _).pack

section Operations

variable {left right : Float} (leftUnsigned : Unsigned left)

include leftUnsigned

theorem sqrt : Unsigned left.sqrt :=
  (NoMinus.sqrt leftUnsigned).pack

theorem add (rightUnsigned : Unsigned right) : Unsigned (left + right) :=
  (NoMinus.add leftUnsigned rightUnsigned).pack

theorem mul (rightUnsigned : Unsigned right) : Unsigned (left * right) :=
  (NoMinus.mul leftUnsigned rightUnsigned).pack

theorem div (rightUnsigned : Unsigned right) : Unsigned (left / right) :=
  (NoMinus.div leftUnsigned rightUnsigned).pack

/-- An unsigned double is not below zero, unless it is no number. -/
theorem isNaN_or_nonneg : left.isNaN = true ∨ 0 ≤ left :=
  (NoMinus.isNaN_or_le leftUnsigned).imp_right decide_eq_true_iff.mpr

end Operations

theorem ofNat (count : Nat) : Unsigned (Float.ofNat count) := by
  rcases count.eq_zero_or_pos with rfl | positive
  · exact .zero
  · rcases isRounded_ofNat positive with ⟨unpacked, rounded, packed⟩
    have one : 1 ≤ valueOf unpacked := rounded.rounds.ge onGrid_one (by exact_mod_cast positive)
    rw [Unsigned, packed]
    exact (NoMinus.of_valueOf_pos (by linarith)).pack

/-- One less than a count of at least two is unsigned: for it the subtraction stays above zero. -/
theorem ofNat_sub_one {count : Nat} (two : 2 ≤ count) : Unsigned (Float.ofNat count - 1) := by
  rcases two_le_value_ofNat two with ⟨sign, infinite⟩ | ⟨finite, twoLe⟩
  · have unsigned := ofNat count
    rw [Unsigned, infinite] at unsigned
    cases unsigned
    have difference : UnpackedFloat.sub .binary64 (Float.ofNat count).toModel.unpack
        (1 : Float).toModel.unpack = .infinity .positive := by
      rw [infinite]
      rfl
    apply NoMinus.pack
    rw [difference]
    exact .infinity
  · have rounded := isRounded_sub (canonical_of_isFinite finite)
      (canonical_of_isFinite (rfl : (1 : Float).isFinite = true))
    have one : 1 ≤ value (Float.ofNat count) - value 1 := by
      rw [value_one]
      linarith
    have oneLe := rounded.rounds.ge onGrid_one one
    exact (NoMinus.of_valueOf_pos (by linarith)).pack

end Unsigned

end SampleChart.Double
