import SampleChart.Proofs.Double.Operations

/-!
# Finite results

When an operation on doubles has a finite result, that result is the exact one, rounded. Nothing
finite is made of an operand that is not finite, except by dividing by an infinity. A count is a
double that is not below it where it is small enough to be one at all.
-/

namespace SampleChart.Double

open Float.Model (UnpackedFloat totalExponent)
open Float.Model.UnpackedFloat

namespace IsRounded

variable {exact bound : ℚ} {unpacked : UnpackedFloat} {number : Float}

/-- A double made from a rounded result stands for the exact one, rounded, if it is finite. -/
theorem rounds_value (rounded : IsRounded exact unpacked)
    (packed : number.toModel = .pack unpacked) (finite : number.isFinite = true) :
    Rounds exact (value number) := by
  change number.toModel.unpack.isFinite = true at finite
  rw [packed] at finite
  have small := (isFinite_pack_iff rounded.canonical).mp finite
  rw [value, packed, unpack_pack rounded.canonical small]
  exact rounded.rounds

/-- A result is finite if the exact one is bounded by a number of the grid that is small enough. -/
theorem isFinite (rounded : IsRounded exact unpacked) (packed : number.toModel = .pack unpacked)
    (onGrid : OnGrid bound) (le : |exact| ≤ bound) (small : bound < 2 ^ 1024) :
    number.isFinite = true := by
  change number.toModel.unpack.isFinite = true
  rw [packed, isFinite_pack_iff rounded.canonical]
  exact (rounded.rounds.abs_rounded_le onGrid le).trans_lt small

end IsRounded

theorem OnGrid.abs {number : ℚ} (onGrid : OnGrid number) : OnGrid |number| := by
  rcases abs_choice number with eq | eq <;> rw [eq]
  · exact onGrid
  · exact onGrid.neg

/-- A number between two others is no larger than one of them. -/
theorem abs_le_or_abs_le_of_mem_uIcc {number low high : ℚ} (between : number ∈ Set.uIcc low high) :
    |number| ≤ |low| ∨ |number| ≤ |high| := by
  rcases Set.mem_uIcc.mp between with inside | inside
  · exact le_max_iff.mp (abs_le_max_abs_abs inside.1 inside.2)
  · exact (le_max_iff.mp (abs_le_max_abs_abs inside.1 inside.2)).symm

section Finite

variable {left right other : Float} (leftFinite : left.isFinite = true)
  (rightFinite : right.isFinite = true)

include leftFinite rightFinite

/-- A finite sum of doubles is the sum of their values, rounded. -/
theorem rounds_add (finite : (left + right).isFinite = true) :
    Rounds (value left + value right) (value (left + right)) :=
  (isRounded_add (canonical_of_isFinite leftFinite)
    (canonical_of_isFinite rightFinite)).rounds_value rfl finite

/-- A sum that is no larger than a finite double is finite. -/
theorem isFinite_add (otherFinite : other.isFinite = true)
    (le : |value left + value right| ≤ |value other|) : (left + right).isFinite = true :=
  (isRounded_add (canonical_of_isFinite leftFinite) (canonical_of_isFinite rightFinite)).isFinite
    rfl (onGrid_value otherFinite).abs le (abs_value_lt otherFinite)

/-- A sum that lies between two doubles stays there when it is rounded. -/
theorem isFinite_add_of_mem_uIcc {low high : Float} (lowFinite : low.isFinite = true)
    (highFinite : high.isFinite = true)
    (between : value left + value right ∈ Set.uIcc (value low) (value high)) :
    (left + right).isFinite = true ∧ value (left + right) ∈ Set.uIcc (value low) (value high) := by
  have finite : (left + right).isFinite = true := by
    rcases abs_le_or_abs_le_of_mem_uIcc between with le | le
    · exact isFinite_add leftFinite rightFinite lowFinite le
    · exact isFinite_add leftFinite rightFinite highFinite le
  have rounds := rounds_add leftFinite rightFinite finite
  refine ⟨finite, ?_⟩
  rw [Set.mem_uIcc] at *
  exact between.imp
    (fun inside => ⟨rounds.ge (onGrid_value lowFinite) inside.1,
      rounds.le (onGrid_value highFinite) inside.2⟩)
    (fun inside => ⟨rounds.ge (onGrid_value highFinite) inside.1,
      rounds.le (onGrid_value lowFinite) inside.2⟩)

/-- A finite difference of doubles is the difference of their values, rounded. -/
theorem rounds_sub (finite : (left - right).isFinite = true) :
    Rounds (value left - value right) (value (left - right)) :=
  (isRounded_sub (canonical_of_isFinite leftFinite)
    (canonical_of_isFinite rightFinite)).rounds_value rfl finite

theorem isFinite_sub (otherFinite : other.isFinite = true)
    (le : |value left - value right| ≤ |value other|) : (left - right).isFinite = true :=
  (isRounded_sub (canonical_of_isFinite leftFinite) (canonical_of_isFinite rightFinite)).isFinite
    rfl (onGrid_value otherFinite).abs le (abs_value_lt otherFinite)

end Finite

section Quotient

variable {left right : Float} (leftFinite : left.isFinite = true)

include leftFinite

/-- A quotient by a number that is not below one is finite. -/
theorem isFinite_div (rightFinite : right.isFinite = true) (one : 1 ≤ value right) :
    (left / right).isFinite = true ∧ Rounds (value left / value right) (value (left / right)) := by
  have rounded : IsRounded (value left / value right)
      (UnpackedFloat.div .binary64 left.toModel.unpack right.toModel.unpack) := by
    have leftCanonical := canonical_of_isFinite leftFinite
    have rightCanonical := canonical_of_isFinite rightFinite
    unfold value at *
    generalize right.toModel.unpack = right at *
    cases rightCanonical with
    | zero sign => norm_num at one
    | finite => exact isRounded_div leftCanonical _ _ _
  have finite : (left / right).isFinite = true := by
    apply rounded.isFinite rfl (onGrid_value leftFinite).abs _ (abs_value_lt leftFinite)
    rw [abs_div, abs_of_pos (by linarith : 0 < value right)]
    exact div_le_self (abs_nonneg _) one
  exact ⟨finite, rounded.rounds_value rfl finite⟩

/-- A quotient by an infinity is zero. -/
theorem isFinite_div_infinity {sign : Sign} (infinite : right.toModel.unpack = .infinity sign) :
    (left / right).isFinite = true ∧ value (left / right) = 0 := by
  have zero : ∃ zeroSign, (left / right).toModel = .pack (.zero zeroSign) := by
    have leftCanonical := canonical_of_isFinite leftFinite
    change ∃ zeroSign, Float.Model.pack (UnpackedFloat.div .binary64 left.toModel.unpack
      right.toModel.unpack) = .pack (.zero zeroSign)
    rw [infinite]
    generalize left.toModel.unpack = left at *
    cases leftCanonical <;> exact ⟨_, rfl⟩
  rcases zero with ⟨zeroSign, packed⟩
  have unpacked : (left / right).toModel.unpack = .zero zeroSign := by
    rw [packed]
    cases zeroSign <;> rfl
  constructor
  · change (left / right).toModel.unpack.isFinite = true
    rw [unpacked]
    rfl
  · rw [value, unpacked, valueOf_zero]

end Quotient

section Operands

theorem isFinite_of_pack {unpacked : UnpackedFloat}
    (finite : (Float.Model.pack unpacked).unpack.isFinite = true) : unpacked.isFinite = true := by
  cases unpacked with
  | infinity sign => cases sign <;> exact finite
  | notANumber => exact finite
  | zero sign => rfl
  | finite sign significand exponent positive => rfl

theorem isFinite_neg (unpacked : UnpackedFloat) : unpacked.neg.isFinite = unpacked.isFinite := by
  cases unpacked <;> rfl

theorem isFinite_of_unpackedAdd {left right : UnpackedFloat}
    (finite : (UnpackedFloat.add .binary64 left right).isFinite = true) :
    left.isFinite = true ∧ right.isFinite = true := by
  revert finite
  fun_cases UnpackedFloat.add .binary64 left right <;> simp_all [UnpackedFloat.isFinite]

theorem isFinite_of_unpackedDiv {left right : UnpackedFloat}
    (finite : (UnpackedFloat.div .binary64 left right).isFinite = true) :
    left.isFinite = true := by
  revert finite
  fun_cases UnpackedFloat.div .binary64 left right <;> simp_all [UnpackedFloat.isFinite]

variable {left right : Float}

/-- A finite sum has finite terms. -/
theorem isFinite_of_add (finite : (left + right).isFinite = true) :
    left.isFinite = true ∧ right.isFinite = true :=
  isFinite_of_unpackedAdd (isFinite_of_pack finite)

theorem isFinite_of_sub (finite : (left - right).isFinite = true) :
    left.isFinite = true ∧ right.isFinite = true := by
  have unpacked : (UnpackedFloat.sub .binary64 left.toModel.unpack
      right.toModel.unpack).isFinite = true := isFinite_of_pack finite
  rw [unpackedSub_eq] at unpacked
  have operands := isFinite_of_unpackedAdd unpacked
  rw [isFinite_neg] at operands
  exact operands

/-- A finite quotient has a finite dividend. -/
theorem isFinite_of_div (finite : (left / right).isFinite = true) : left.isFinite = true :=
  isFinite_of_unpackedDiv (isFinite_of_pack finite)

end Operands

section Counts

/-- Multiplying by one gives the number itself. -/
theorem isRounded_mul_one {unpacked : UnpackedFloat} (canonical : Canonical unpacked) :
    IsRounded (valueOf unpacked)
      (UnpackedFloat.mul .binary64 unpacked (.finite .positive (2 ^ 52) (-52) (by decide))) := by
  cases canonical with
  | zero sign => exact isRounded_zero _
  | @finite sign significand exponent positive =>
      have shifted : significand * 2 ^ 52 = significand <<< 52 := (Nat.shiftLeft_eq _ _).symm
      have log := log2_shiftLeft positive 52
      have sameSign : sign * .positive = sign := by cases sign <;> rfl
      simp only [UnpackedFloat.mul, sameSign, valueOf_finite]
      rw [← shiftLeft_mul_zpow significand 52 exponent, shifted]
      apply isRounded_roundWithAccuracy sign (truncates_exact _)
      unfold totalExponent
      omega

/-- A count becomes the double next to it. -/
theorem isRounded_ofScientific {count : Nat} (positive : 0 < count) :
    IsRounded count (UnpackedFloat.ofScientific .binary64 count 0) := by
  have log := log2_shiftLeft positive 53
  have scaled : ((count <<< 53 : ℕ) : ℚ) * 2 ^ (-53 : ℤ) = count := by
    have := shiftLeft_mul_zpow count 53 0
    rwa [zpow_zero, mul_one] at this
  have precision : Float.Model.Format.binary64.mantissaBits = 53 := rfl
  have unit : 10 ^ Int.toNat 0 = 1 := rfl
  have bounded : (0 : Int) < 2 ^ Float.Model.Format.binary64.exponentBits := by decide
  unfold UnpackedFloat.ofScientific
  rw [dif_neg positive.ne', if_neg (by decide), if_neg (by omega), if_pos le_rfl]
  simp only [UnpackedFloat.mul, precision, unit, mul_one, add_zero]
  have rounded := @isRounded_roundWithAccuracy .positive _ (-53) _ _
    (truncates_exact (count <<< 53)) (by unfold totalExponent; omega)
  rw [signed, scaled] at rounded
  exact rounded

/-- A count is taken to a double by rounding it. -/
theorem isRounded_ofNat {count : Nat} (positive : 0 < count) :
    ∃ unpacked, IsRounded count unpacked ∧ (Float.ofNat count).toModel = .pack unpacked := by
  change ∃ unpacked, IsRounded count unpacked ∧
    (Float.ofScientific count false 0).toModel = .pack unpacked
  unfold Float.ofScientific
  split
  next small =>
    have below : count < 2 ^ 64 := by omega
    have onGrid : OnGrid count :=
      ⟨count, 0, by rw [Nat.abs_cast]; exact_mod_cast small.1.le, by decide, by simp⟩
    have converted : IsRounded count
        (normalize .binary64 (count.toUInt64.toNat : Int) 0 .positive) := by
      convert isRounded_normalize _ _ _ using 1
      rw [Nat.toUInt64_eq, UInt64.toNat_ofNat_of_lt' below]
      simp
    have same := converted.rounds.eq_of_onGrid onGrid
    have bounded : |valueOf (normalize .binary64 (count.toUInt64.toNat : Int) 0 .positive)| <
        2 ^ 1024 := by
      rw [same, Nat.abs_cast]
      calc (count : ℚ) < 2 ^ 53 := by exact_mod_cast small.1
        _ ≤ 2 ^ 1024 := pow_le_pow_right₀ (by norm_num) (by norm_num)
    have one : (Float.ofBits 0x3FF0000000000000).toModel.unpack =
        .finite .positive (2 ^ 52) (-52) (by decide) := rfl
    refine ⟨_, ?_, rfl⟩
    change IsRounded count (UnpackedFloat.mul .binary64
      (Float.Model.pack (normalize .binary64 (count.toUInt64.toNat : Int) 0 .positive)).unpack
      (Float.ofBits 0x3FF0000000000000).toModel.unpack)
    rw [one, unpack_pack converted.canonical bounded, ← same]
    exact isRounded_mul_one converted.canonical
  next => exact ⟨_, isRounded_ofScientific positive, rfl⟩

/-- A count from two on is at least two as a double, or it is infinite. -/
theorem two_le_value_ofNat {count : Nat} (two : 2 ≤ count) :
    (∃ sign, (Float.ofNat count).toModel.unpack = .infinity sign) ∨
      (Float.ofNat count).isFinite = true ∧ 2 ≤ value (Float.ofNat count) := by
  rcases isRounded_ofNat (by omega : 0 < count) with ⟨unpacked, rounded, packed⟩
  have onGrid : OnGrid 2 := ⟨2, 0, by norm_num, by norm_num, by norm_num⟩
  by_cases small : |valueOf unpacked| < 2 ^ 1024
  · right
    have finite : (Float.ofNat count).isFinite = true := by
      change (Float.ofNat count).toModel.unpack.isFinite = true
      rwa [packed, isFinite_pack_iff rounded.canonical]
    exact ⟨finite, (rounded.rounds_value packed finite).ge onGrid (by exact_mod_cast two)⟩
  · left
    rw [packed]
    exact exists_unpack_pack_eq_infinity rounded.canonical (not_lt.mp small)

end Counts

end SampleChart.Double
