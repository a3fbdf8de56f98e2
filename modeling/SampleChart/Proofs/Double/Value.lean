import SampleChart.Proofs.Double.Packing

/-!
# The numbers that doubles stand for

A finite double is a rational number, and as such it lies on a grid: it has at most 53 bits, and
none of them stands below the least exponent. Unpacked doubles have exponents without an upper end.
`Canonical` picks out the ones that stand for a number in the form that packing expects, and such a
one is packed into a finite double exactly if its number is small enough.
-/

namespace SampleChart.Double

open Float.Model (UnpackedFloat)
open Float.Model.UnpackedFloat

/-- A number with a sign put in front of it. -/
def signed : Sign → ℚ → ℚ
  | .negative, number => -number
  | .positive, number => number

/-- The number that an unpacked double stands for. What is not finite counts as zero. -/
def valueOf : UnpackedFloat → ℚ
  | .finite sign significand exponent _ => signed sign (significand * 2 ^ exponent)
  | _ => 0

@[simp]
theorem valueOf_zero (sign : Sign) : valueOf (.zero sign) = 0 := rfl

@[simp]
theorem valueOf_finite (sign : Sign) (significand : Nat) (exponent : Int)
    (positive : 0 < significand) :
    valueOf (.finite sign significand exponent positive) =
      signed sign (significand * 2 ^ exponent) := rfl

/-- The number that a double stands for. -/
def value (number : Float) : ℚ :=
  valueOf number.toModel.unpack

/-- A number has at most 53 bits, of which none stands below the least exponent. -/
def OnGrid (number : ℚ) : Prop :=
  ∃ significand exponent : ℤ,
    |significand| ≤ 2 ^ 53 ∧ -1074 ≤ exponent ∧ number = significand * 2 ^ exponent

theorem value_zero : value 0 = 0 := rfl

theorem value_one : value 1 = 1 := by
  have one : (1 : Float).toModel.unpack = .finite .positive (2 ^ 52) (-52) (by decide) := rfl
  rw [value, one, valueOf_finite, signed]
  norm_num

theorem onGrid_zero : OnGrid 0 :=
  ⟨0, 0, by norm_num, by norm_num, by norm_num⟩

theorem onGrid_one : OnGrid 1 :=
  ⟨1, 0, by norm_num, by norm_num, by norm_num⟩

/-- The grid is the same on both sides of zero. -/
theorem OnGrid.neg {number : ℚ} (onGrid : OnGrid number) : OnGrid (-number) := by
  rcases onGrid with ⟨significand, exponent, bits, least, rfl⟩
  exact ⟨-significand, exponent, by rwa [abs_neg], least, by push_cast; ring⟩

theorem OnGrid.signed {number : ℚ} (sign : Sign) (onGrid : OnGrid number) :
    OnGrid (signed sign number) := by
  cases sign with
  | negative => exact onGrid.neg
  | positive => exact onGrid

theorem signed_neg (sign : Sign) (number : ℚ) : signed (-sign) number = -signed sign number := by
  cases sign with
  | negative => exact (neg_neg number).symm
  | positive => rfl

@[simp]
theorem abs_signed (sign : Sign) (number : ℚ) : |signed sign number| = |number| := by
  cases sign with
  | negative => exact abs_neg number
  | positive => rfl

/-- An unpacked double is a zero, or it has as many bits as fit, and only next to the least exponent
fewer than 53. -/
inductive Canonical : UnpackedFloat → Prop where
  | zero (sign : Sign) : Canonical (.zero sign)
  | finite {sign : Sign} {significand : Nat} {exponent : Int} {positive : 0 < significand}
      (bits : significand < 2 ^ 53) (least : -1074 ≤ exponent)
      (full : 2 ^ 52 ≤ significand ∨ exponent = -1074) :
      Canonical (.finite sign significand exponent positive)

theorem two_zpow_pos (exponent : ℤ) : (0 : ℚ) < 2 ^ exponent :=
  zpow_pos (by norm_num) exponent

theorem magnitude_pos {significand : Nat} (positive : 0 < significand) (exponent : Int) :
    (0 : ℚ) < significand * 2 ^ exponent :=
  mul_pos (by exact_mod_cast positive) (two_zpow_pos exponent)

/-- The magnitude of a finite number is its significand, moved by the exponent. -/
theorem abs_valueOf_finite (sign : Sign) (significand : Nat) (exponent : Int)
    (positive : 0 < significand) :
    |valueOf (.finite sign significand exponent positive)| = significand * 2 ^ exponent := by
  rw [valueOf_finite, abs_signed, abs_of_pos (magnitude_pos positive exponent)]

theorem Canonical.neg {unpacked : UnpackedFloat} (canonical : Canonical unpacked) :
    Canonical unpacked.neg := by
  cases canonical with
  | zero sign => exact .zero _
  | finite bits least full => exact .finite bits least full

/-- Negation negates the value, also of zeros and of what has none. -/
theorem valueOf_neg (unpacked : UnpackedFloat) : valueOf unpacked.neg = -valueOf unpacked := by
  cases unpacked with
  | finite sign significand exponent positive => exact signed_neg sign _
  | _ => exact neg_zero.symm

/-- What is in canonical form stands for a number on the grid. -/
theorem Canonical.onGrid {unpacked : UnpackedFloat} (canonical : Canonical unpacked) :
    OnGrid (valueOf unpacked) := by
  cases canonical with
  | zero sign => exact onGrid_zero
  | @finite sign significand exponent positive bits least full =>
      have onGrid : OnGrid (significand * 2 ^ exponent) :=
        ⟨significand, exponent, by rw [Nat.abs_cast]; exact_mod_cast bits.le, least, by simp⟩
      exact onGrid.signed sign

/-- The hidden bit stands for the highest place of the significand. -/
theorem toNat_one_append (significand : BitVec 52) :
    (1#1 ++ significand).toNat = 2 ^ 52 + significand.toNat := by
  rw [BitVec.toNat_append, ← Nat.shiftLeft_add_eq_or_of_lt significand.isLt]
  rfl

/-- A number of at most 53 bits next to an exponent that is not above the largest one. -/
theorem abs_valueOf_lt {sign : Sign} {significand : Nat} {exponent : Int}
    {positive : 0 < significand} (bits : significand < 2 ^ 53) (low : exponent ≤ 971) :
    |valueOf (.finite sign significand exponent positive)| < 2 ^ 1024 := by
  rw [abs_valueOf_finite]
  calc (significand : ℚ) * 2 ^ exponent
      < 2 ^ 53 * 2 ^ exponent :=
        mul_lt_mul_of_pos_right (by exact_mod_cast bits) (two_zpow_pos exponent)
    _ ≤ 2 ^ 53 * 2 ^ (971 : ℤ) :=
        mul_le_mul_of_nonneg_left (zpow_le_zpow_right₀ (by norm_num) low) (by positivity)
    _ = 2 ^ (53 : ℤ) * 2 ^ (971 : ℤ) := by norm_num
    _ = 2 ^ (1024 : ℤ) := by rw [← zpow_add₀ (by norm_num)]; rfl
    _ = 2 ^ 1024 := zpow_natCast 2 1024

/-- The parts of a double that is finite are its sign, its significand and its exponent. -/
theorem canonical_of_components (sign : Sign) (field : BitVec 11) (fraction : BitVec 52)
    (finite : (UnpackedFloat.unpack .binary64
      (packComponents .binary64 sign field fraction)).isFinite = true) :
    Canonical (UnpackedFloat.unpack .binary64 (packComponents .binary64 sign field fraction)) ∧
      |valueOf (UnpackedFloat.unpack .binary64
        (packComponents .binary64 sign field fraction))| < 2 ^ 1024 := by
  have bias : (Float.Model.Format.binary64.exponentBias : Int) = 1023 := rfl
  have fractionBits := fraction.isLt
  have fieldBits := field.isLt
  simp only [UnpackedFloat.unpack, unpackExponent_packComponents,
    unpackMantissa_packComponents] at *
  split
  next infinite =>
    rw [if_pos infinite] at finite
    split at finite <;> cases finite
  next notInfinite =>
    split
    next isZero =>
      have fieldZero : field.toNat = 0 := congrArg BitVec.toNat isZero
      split
      next => exact ⟨.zero _, by norm_num [valueOf]⟩
      next =>
        exact ⟨.finite (by omega) (by omega) (.inr (by omega)),
          abs_valueOf_lt (by omega) (by omega)⟩
    next notZero =>
      have fieldPositive : field.toNat ≠ 0 := fun zero => notZero (BitVec.eq_of_toNat_eq zero)
      have fieldLow : field.toNat ≠ 2047 := fun last => notInfinite (BitVec.eq_of_toNat_eq last)
      have appended := toNat_one_append fraction
      exact ⟨.finite (by omega) (by omega) (.inl (by omega)),
        abs_valueOf_lt (by omega) (by omega)⟩

/-- Whatever is unpacked from the bits of a finite double is in canonical form and in range. -/
theorem canonical_of_bits {number : Float} (finite : number.isFinite = true) :
    Canonical number.toModel.unpack ∧ |value number| < 2 ^ 1024 := by
  change (UnpackedFloat.unpack .binary64 number.toModel.toBits.toBitVec).isFinite = true at finite
  change Canonical (UnpackedFloat.unpack .binary64 number.toModel.toBits.toBitVec) ∧
    |valueOf (UnpackedFloat.unpack .binary64 number.toModel.toBits.toBitVec)| < _
  have parts := @packComponents_unpackSign_unpackExponent_unpackMantissa .binary64
    number.toModel.toBits.toBitVec
  rw [← parts] at finite ⊢
  exact canonical_of_components _ _ _ finite

theorem canonical_of_isFinite {number : Float} (finite : number.isFinite = true) :
    Canonical number.toModel.unpack :=
  (canonical_of_bits finite).1

theorem abs_value_lt {number : Float} (finite : number.isFinite = true) :
    |value number| < 2 ^ 1024 :=
  (canonical_of_bits finite).2

theorem onGrid_value {number : Float} (finite : number.isFinite = true) :
    OnGrid (value number) :=
  (canonical_of_isFinite finite).onGrid

/-- A significand fills all of its bits exactly if its highest one is set. -/
theorem log2_add_one_eq_iff {significand : Nat} (positive : 0 < significand)
    (bits : significand < 2 ^ 53) : significand.log2 + 1 = 53 ↔ 2 ^ 52 ≤ significand := by
  rw [← Nat.le_log2 positive.ne']
  have := (Nat.log2_lt positive.ne').mpr bits
  omega

/-- A significand of 53 bits is packed without its first bit, which unpacking puts back. -/
theorem unpack_pack_normal {sign : Sign} {significand : Nat} {exponent : Int}
    {positive : 0 < significand} (bits : significand < 2 ^ 53) (full : 2 ^ 52 ≤ significand)
    (least : -1074 ≤ exponent) (low : exponent ≤ 971) :
    UnpackedFloat.unpack .binary64
        (UnpackedFloat.pack .binary64 (.finite sign significand exponent positive)) =
      .finite sign significand exponent positive := by
  have bias : (Float.Model.Format.binary64.exponentBias : Int) = 1023 := rfl
  have precision : Float.Model.Format.binary64.mantissaBits = 53 := rfl
  have isNormal := (log2_add_one_eq_iff positive bits).mpr full
  simp only [UnpackedFloat.pack, bias, precision]
  rw [if_neg (by omega), if_pos isNormal]
  simp only [UnpackedFloat.unpack, unpackExponent_packComponents,
    unpackMantissa_packComponents, unpackSign_packComponents, Sign.ofBitVec_toBitVec, bias]
  have field : (BitVec.ofNat 11 (exponent + 1023 + (52 : Nat)).toNat).toNat =
      (exponent + 1023 + (52 : Nat)).toNat := by
    rw [BitVec.toNat_ofNat, Nat.mod_eq_of_lt (by omega)]
  have notInfinite : BitVec.ofNat 11 (exponent + 1023 + (52 : Nat)).toNat ≠ -1#11 := by
    intro last
    have := congrArg BitVec.toNat last
    rw [field] at this
    simp at this
    omega
  have notZero : BitVec.ofNat 11 (exponent + 1023 + (52 : Nat)).toNat ≠ 0#11 := by
    intro zero
    have := congrArg BitVec.toNat zero
    rw [field] at this
    simp at this
    omega
  rw [if_neg notInfinite, if_neg notZero]
  simp only [finite.injEq, true_and, toNat_one_append, BitVec.toNat_ofNat, field]
  omega

/-- A significand of fewer bits is packed as it is. -/
theorem unpack_pack_subnormal {sign : Sign} {significand : Nat} {positive : 0 < significand}
    (short : significand < 2 ^ 52) :
    UnpackedFloat.unpack .binary64
        (UnpackedFloat.pack .binary64 (.finite sign significand (-1074) positive)) =
      .finite sign significand (-1074) positive := by
  have bias : (Float.Model.Format.binary64.exponentBias : Int) = 1023 := rfl
  have precision : Float.Model.Format.binary64.mantissaBits = 53 := rfl
  have isSubnormal := mt (log2_add_one_eq_iff positive (by omega)).mp (by omega)
  simp only [UnpackedFloat.pack, bias, precision]
  rw [if_neg (by omega), if_neg isSubnormal]
  simp only [UnpackedFloat.unpack, unpackExponent_packComponents,
    unpackMantissa_packComponents, unpackSign_packComponents, Sign.ofBitVec_toBitVec, bias]
  have fraction : (BitVec.ofNat 52 significand).toNat = significand := by
    rw [BitVec.toNat_ofNat, Nat.mod_eq_of_lt short]
  have notZero : BitVec.ofNat 52 significand ≠ 0#52 := by
    intro zero
    have := congrArg BitVec.toNat zero
    rw [fraction] at this
    simp at this
    omega
  rw [if_neg (by decide), if_pos trivial, dif_neg notZero]
  simp only [finite.injEq, true_and, fraction]
  rfl

/-- A number in range that fills its significand has an exponent in range. -/
theorem exponent_le_of_abs_valueOf_lt {sign : Sign} {significand : Nat} {exponent : Int}
    {positive : 0 < significand} (full : 2 ^ 52 ≤ significand ∨ exponent = -1074)
    (small : |valueOf (.finite sign significand exponent positive)| < 2 ^ 1024) :
    exponent ≤ 971 := by
  by_contra high
  have bits := full.resolve_right (by omega)
  rw [abs_valueOf_finite] at small
  refine absurd small (not_lt.mpr ?_)
  calc (2 : ℚ) ^ 1024 = 2 ^ (1024 : ℤ) := (zpow_natCast 2 1024).symm
    _ = 2 ^ (52 : ℤ) * 2 ^ (972 : ℤ) := by rw [← zpow_add₀ (by norm_num)]; rfl
    _ ≤ 2 ^ (52 : ℤ) * 2 ^ exponent :=
        mul_le_mul_of_nonneg_left (zpow_le_zpow_right₀ (by norm_num) (by omega)) (by positivity)
    _ ≤ significand * 2 ^ exponent :=
        mul_le_mul_of_nonneg_right (by exact_mod_cast bits) (two_zpow_pos exponent).le

/-- What is small enough is unpacked as it was packed. -/
theorem unpack_pack {unpacked : UnpackedFloat} (canonical : Canonical unpacked)
    (small : |valueOf unpacked| < 2 ^ 1024) : (Float.Model.pack unpacked).unpack = unpacked := by
  change UnpackedFloat.unpack .binary64 (UnpackedFloat.pack .binary64 unpacked) = unpacked
  cases canonical with
  | zero sign => cases sign <;> rfl
  | @finite sign significand exponent positive bits least full =>
      have low := exponent_le_of_abs_valueOf_lt full small
      by_cases normal : 2 ^ 52 ≤ significand
      · exact unpack_pack_normal bits normal least low
      · rcases full.resolve_left normal with rfl
        exact unpack_pack_subnormal (by omega)

/-- Packing a number whose exponent is too high gives infinity. -/
theorem unpack_pack_infinite {sign : Sign} {significand : Nat} {exponent : Int}
    {positive : 0 < significand} (high : 971 < exponent) :
    (Float.Model.pack (.finite sign significand exponent positive)).unpack = .infinity sign := by
  have bias : (Float.Model.Format.binary64.exponentBias : Int) = 1023 := rfl
  change UnpackedFloat.unpack .binary64 (UnpackedFloat.pack .binary64 _) = _
  simp only [UnpackedFloat.pack, bias]
  rw [if_pos (by omega)]
  cases sign <;> rfl

/-- What is too large becomes infinite when it is packed. -/
theorem exists_unpack_pack_eq_infinity {unpacked : UnpackedFloat} (canonical : Canonical unpacked)
    (large : 2 ^ 1024 ≤ |valueOf unpacked|) :
    ∃ sign, (Float.Model.pack unpacked).unpack = .infinity sign := by
  cases canonical with
  | zero sign =>
      rw [valueOf_zero, abs_zero] at large
      exact absurd large (not_le.mpr (pow_pos two_pos 1024))
  | @finite sign significand exponent positive bits =>
      have high : 971 < exponent := by
        by_contra low
        exact absurd large (not_le.mpr (abs_valueOf_lt bits (by omega)))
      exact ⟨sign, unpack_pack_infinite high⟩

/-- A number in canonical form stays finite when it is packed exactly if it is in range. -/
theorem isFinite_pack_iff {unpacked : UnpackedFloat} (canonical : Canonical unpacked) :
    (Float.Model.pack unpacked).unpack.isFinite = true ↔ |valueOf unpacked| < 2 ^ 1024 := by
  constructor
  · intro finite
    by_contra large
    rcases exists_unpack_pack_eq_infinity canonical (not_lt.mp large) with ⟨sign, infinite⟩
    rw [infinite] at finite
    cases finite
  · intro small
    rw [unpack_pack canonical small]
    cases canonical <;> rfl

end SampleChart.Double
