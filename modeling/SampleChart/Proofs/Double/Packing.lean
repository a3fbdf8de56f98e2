import Mathlib

/-!
# Packed doubles

A double is kept as its bits and computed with as a sign, a significand and an exponent. Taking it
apart and putting it together again gives the same double, so that a sum that hands one of its
operands through hands it through bit for bit.
-/

namespace SampleChart.Double

open Float.Model (UnpackedFloat)

theorem pack_unpack (number : Float.Model) : Float.Model.pack number.unpack = number := by
  have packed := UnpackedFloat.pack_unpack_of_valid number.valid
  simp only [Float.Model.pack, Float.Model.unpack, packed]

/-- Minus zero can be added to any number without a change, to either zero as well. -/
theorem negZero_add (number : Float) : -0.0 + number = number := by
  change Float.ofModel (.pack (UnpackedFloat.add .binary64 (.zero .negative)
    number.toModel.unpack)) = number
  have added : UnpackedFloat.add .binary64 (.zero .negative) number.toModel.unpack =
      number.toModel.unpack := by
    cases number.toModel.unpack with
    | zero sign => cases sign <;> rfl
    | notANumber => rfl
    | infinity sign => rfl
    | finite sign mantissa exponent positive => rfl
  rw [added, pack_unpack]

/-- Taking zero away changes nothing, not even the sign of a zero. -/
theorem sub_posZero (number : Float) : number - 0 = number := by
  change Float.ofModel (.pack (UnpackedFloat.sub .binary64 number.toModel.unpack
    (.zero .positive))) = number
  have taken : UnpackedFloat.sub .binary64 number.toModel.unpack (.zero .positive) =
      number.toModel.unpack := by
    cases number.toModel.unpack with
    | zero sign => cases sign <;> rfl
    | notANumber => rfl
    | infinity sign => rfl
    | finite sign mantissa exponent positive => rfl
  rw [taken, pack_unpack]

end SampleChart.Double
