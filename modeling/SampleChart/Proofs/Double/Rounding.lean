import SampleChart.Proofs.Double.Value
import SampleChart.Proofs.Json.Doubles

/-!
# Rounding

What an operation on doubles gives is the exact result, rounded to a number on the grid. All that is
needed of it is that rounding never passes a number of the grid: what lies on one side of such a
number is rounded to something on the same side. Rounding cuts a significand off behind 53 bits and
keeps track of whether anything was lost, so that the significand that it ends with is the one below
the exact number or the one above.
-/

namespace SampleChart.Double

open Float.Model (UnpackedFloat totalExponent)
open Float.Model.UnpackedFloat
open Json (mantissa_shiftRight mantissa_ofMantissaAndAccuracy log2_div_pow targetExponent_eq)

/-- A number is rounded to one on the grid without passing another one. -/
structure Rounds (exact rounded : ℚ) : Prop where
  onGrid : OnGrid rounded
  le : ∀ {bound : ℚ}, OnGrid bound → exact ≤ bound → rounded ≤ bound
  ge : ∀ {bound : ℚ}, OnGrid bound → bound ≤ exact → bound ≤ rounded

namespace Rounds

variable {exact rounded bound : ℚ}

theorem refl (onGrid : OnGrid exact) : Rounds exact exact :=
  ⟨onGrid, fun _ le => le, fun _ ge => ge⟩

theorem eq_of_onGrid (rounds : Rounds exact rounded) (onGrid : OnGrid exact) : rounded = exact :=
  le_antisymm (rounds.le onGrid le_rfl) (rounds.ge onGrid le_rfl)

theorem neg (rounds : Rounds exact rounded) : Rounds (-exact) (-rounded) where
  onGrid := rounds.onGrid.neg
  le := fun onGrid le => neg_le.mpr (rounds.ge onGrid.neg (neg_le.mp le))
  ge := fun onGrid ge => le_neg.mpr (rounds.le onGrid.neg (le_neg.mp ge))

theorem signed (rounds : Rounds exact rounded) (sign : Sign) :
    Rounds (signed sign exact) (signed sign rounded) := by
  cases sign with
  | negative => exact rounds.neg
  | positive => exact rounds

theorem abs_rounded_le (rounds : Rounds exact rounded) (onGrid : OnGrid bound)
    (le : |exact| ≤ bound) :
    |rounded| ≤ bound := by
  rw [abs_le] at *
  exact ⟨rounds.ge onGrid.neg le.1, rounds.le onGrid le.2⟩

end Rounds

/-- A number of the grid is a multiple of a unit, or it does not reach the least full significand of
that unit. -/
theorem OnGrid.multiple_or_le {number : ℚ} (onGrid : OnGrid number) (exponent : ℤ) :
    (∃ multiple : ℤ, number = multiple * 2 ^ exponent) ∨
      -1074 < exponent ∧ number ≤ 2 ^ 52 * 2 ^ exponent := by
  rcases onGrid with ⟨significand, ownExponent, bits, least, rfl⟩
  by_cases above : exponent ≤ ownExponent
  · left
    refine ⟨significand * 2 ^ (ownExponent - exponent).toNat, ?_⟩
    push_cast
    rw [mul_assoc, ← zpow_natCast, ← zpow_add₀ (by norm_num)]
    congr 2
    omega
  · right
    refine ⟨by omega, ?_⟩
    have significandLe : (significand : ℚ) ≤ 2 ^ 53 := by
      exact_mod_cast (abs_le.mp bits).2
    calc (significand : ℚ) * 2 ^ ownExponent
        ≤ 2 ^ 53 * 2 ^ ownExponent :=
          mul_le_mul_of_nonneg_right significandLe (two_zpow_pos _).le
      _ = 2 ^ 52 * 2 ^ (ownExponent + 1) := by rw [zpow_add_one₀ (by norm_num)]; ring
      _ ≤ 2 ^ 52 * 2 ^ exponent :=
          mul_le_mul_of_nonneg_left (zpow_le_zpow_right₀ (by norm_num) (by omega)) (by positivity)

theorem OnGrid.exists_units {number : ℚ} (onGrid : OnGrid number) :
    ∃ units : ℤ, number = units * 2 ^ (-1074 : ℤ) :=
  (onGrid.multiple_or_le (-1074)).resolve_right fun short => lt_irrefl _ short.1

/-- A significand that passes no other significand makes up a number that passes no number of the
grid, as long as it has all the bits that the grid has there. -/
theorem rounds_of_significand {ratio : ℚ} {significand : Nat} {exponent : ℤ}
    (nonneg : 0 ≤ ratio) (onGrid : OnGrid (significand * 2 ^ exponent))
    (full : 2 ^ 52 ≤ ratio ∨ exponent = -1074)
    (le : ∀ bound : Nat, ratio ≤ bound → significand ≤ bound)
    (ge : ∀ bound : Nat, bound ≤ ratio → bound ≤ significand) :
    Rounds (ratio * 2 ^ exponent) (significand * 2 ^ exponent) where
  onGrid := onGrid
  le := by
    intro bound boundOnGrid exactLe
    rcases boundOnGrid.multiple_or_le exponent with ⟨multiple, rfl⟩ | ⟨notLeast, short⟩
    · have ratioLe : ratio ≤ multiple := le_of_mul_le_mul_right exactLe (two_zpow_pos exponent)
      lift multiple to ℕ using by exact_mod_cast nonneg.trans ratioLe
      have significandLe := le multiple (by exact_mod_cast ratioLe)
      exact mul_le_mul_of_nonneg_right (by exact_mod_cast significandLe) (two_zpow_pos exponent).le
    · have ratioLe : ratio ≤ 2 ^ 52 :=
        le_of_mul_le_mul_right (exactLe.trans short) (two_zpow_pos exponent)
      have ratioGe := full.resolve_right (by omega)
      have significandLe : significand ≤ 2 ^ 52 := le (2 ^ 52) (by exact_mod_cast ratioLe)
      calc (significand : ℚ) * 2 ^ exponent
          ≤ ratio * 2 ^ exponent :=
            mul_le_mul_of_nonneg_right
              (le_trans (by exact_mod_cast significandLe) ratioGe) (two_zpow_pos exponent).le
        _ ≤ bound := exactLe
  ge := by
    intro bound boundOnGrid leExact
    rcases boundOnGrid.multiple_or_le exponent with ⟨multiple, rfl⟩ | ⟨notLeast, short⟩
    · have leRatio : multiple ≤ ratio := le_of_mul_le_mul_right leExact (two_zpow_pos exponent)
      refine mul_le_mul_of_nonneg_right ?_ (two_zpow_pos exponent).le
      rcases le_or_gt multiple 0 with nonpos | positive
      · exact le_trans (by exact_mod_cast nonpos) (Nat.cast_nonneg significand)
      · lift multiple to ℕ using positive.le
        exact_mod_cast ge multiple (by exact_mod_cast leRatio)
    · have ratioGe := full.resolve_right (by omega)
      have significandGe : 2 ^ 52 ≤ significand := ge (2 ^ 52) (by exact_mod_cast ratioGe)
      exact short.trans
        (mul_le_mul_of_nonneg_right (by exact_mod_cast significandGe) (two_zpow_pos exponent).le)

/-- A significand is what is left of a number when its fraction is cut off, and the bits next to it
tell whether there was a fraction. -/
structure Truncates (extended : ExtendedMantissa) (ratio : ℚ) : Prop where
  low : extended.mantissa ≤ ratio
  high : ratio < extended.mantissa + 1
  exact_iff : (extended.roundBit = false ∧ extended.stickyBit = false) ↔ ratio = extended.mantissa

namespace Truncates

variable {extended : ExtendedMantissa} {ratio : ℚ}

theorem shiftRightOne (truncates : Truncates extended ratio) :
    Truncates extended.shiftRightOne (ratio / 2) := by
  rcases truncates with ⟨low, high, exact_iff⟩
  rcases extended with ⟨significand, roundBit, stickyBit⟩
  dsimp only [ExtendedMantissa.shiftRightOne] at *
  have halves : ((significand / 2 : ℕ) : ℚ) * 2 + (significand % 2 : ℕ) = significand := by
    exact_mod_cast Nat.div_add_mod' significand 2
  rcases Nat.mod_two_eq_zero_or_one significand with even | odd
  · rw [even, Nat.cast_zero] at halves
    refine ⟨by linarith, by linarith, ?_⟩
    simp only [even, bne_self_eq_false, Bool.or_eq_false_iff,
      true_and, exact_iff]
    constructor <;> intro eq <;> linarith
  · rw [odd, Nat.cast_one] at halves
    refine ⟨by linarith, by linarith, ?_⟩
    simp only [odd]
    exact iff_of_false (by simp) (by linarith)

theorem shiftRight (truncates : Truncates extended ratio) (amount : ℕ) :
    Truncates (extended >>> amount) (ratio / 2 ^ amount) := by
  change Truncates (Nat.repeat ExtendedMantissa.shiftRightOne amount extended) _
  induction amount with
  | zero => simpa [Nat.repeat] using truncates
  | succ amount ih =>
      rw [Nat.repeat, pow_succ, ← div_div]
      exact ih.shiftRightOne

theorem le_roundedMantissa (truncates : Truncates extended ratio) {bound : Nat}
    (le : bound ≤ ratio) : bound ≤ extended.roundedMantissa := by
  have below : bound < extended.mantissa + 1 := by exact_mod_cast le.trans_lt truncates.high
  unfold ExtendedMantissa.roundedMantissa Accuracy.roundToNearestEven
  split <;> omega

/-- A mantissa that reaches the bound stays there, as nothing was cut off that could be rounded up.
-/
theorem roundedMantissa_le (truncates : Truncates extended ratio) {bound : Nat}
    (le : ratio ≤ bound) : extended.roundedMantissa ≤ bound := by
  have mantissaLe : extended.mantissa ≤ bound := by exact_mod_cast truncates.low.trans le
  rcases mantissaLe.lt_or_eq with lt | eq
  · exact (Json.roundedMantissa_le extended).trans lt
  · have ratioEq : ratio = extended.mantissa := le_antisymm (by rwa [eq]) truncates.low
    rcases truncates.exact_iff.mpr ratioEq with ⟨noRound, noSticky⟩
    rcases extended with ⟨significand, roundBit, stickyBit⟩
    dsimp only at noRound noSticky
    subst noRound noSticky
    exact mantissaLe

end Truncates

section Shift

variable {significand : Nat} {exponent : Int} {accuracy : Accuracy}

theorem truncates_shiftToTargetExponent {ratio : ℚ}
    (truncates : Truncates (.ofMantissaAndAccuracy significand accuracy) ratio) (exponent : Int) :
    Truncates (shiftToTargetExponent .binary64 significand exponent accuracy).1
      (ratio * 2 ^ exponent /
        2 ^ (shiftToTargetExponent .binary64 significand exponent accuracy).2) := by
  simp only [shiftToTargetExponent, shiftToExponent]
  convert truncates.shiftRight _ using 1
  rw [zpow_add₀ (by norm_num), zpow_natCast]
  field_simp

theorem mantissa_shiftToTargetExponent :
    (shiftToTargetExponent .binary64 significand exponent accuracy).1.mantissa =
      significand / 2 ^
        (max (totalExponent significand exponent - 53) (-1074) - exponent).toNat := by
  simp only [shiftToTargetExponent, shiftToExponent, mantissa_shiftRight,
    mantissa_ofMantissaAndAccuracy, targetExponent_eq]

theorem mantissa_shiftToTargetExponent_lt :
    (shiftToTargetExponent .binary64 significand exponent accuracy).1.mantissa < 2 ^ 53 := by
  have log := log2_div_pow significand
    (max (totalExponent significand exponent - 53) (-1074) - exponent).toNat
  rw [← @mantissa_shiftToTargetExponent _ _ accuracy] at log
  generalize (shiftToTargetExponent .binary64 significand exponent accuracy).1.mantissa = cut at *
  unfold totalExponent at log
  calc cut < 2 ^ (cut.log2 + 1) := Nat.lt_log2_self
    _ ≤ 2 ^ 53 := Nat.pow_le_pow_right (by decide) (by omega)

/-- A significand that is cut off keeps 53 bits, unless this takes it to the least exponent. -/
theorem full_shiftToTargetExponent
    (low : exponent ≤ max (totalExponent significand exponent - 53) (-1074)) :
    2 ^ 52 ≤ (shiftToTargetExponent .binary64 significand exponent accuracy).1.mantissa ∨
      (shiftToTargetExponent .binary64 significand exponent accuracy).2 = -1074 := by
  have log := log2_div_pow significand
    (max (totalExponent significand exponent - 53) (-1074) - exponent).toNat
  have cutExponent := Json.shiftToTargetExponent_snd significand exponent accuracy
  rw [← @mantissa_shiftToTargetExponent _ _ accuracy] at log
  generalize shiftToTargetExponent .binary64 significand exponent accuracy = cut at *
  unfold totalExponent at *
  by_cases least : cut.2 = -1074
  · exact .inr least
  · left
    have bits : cut.1.mantissa.log2 = 52 := by omega
    have nonzero : cut.1.mantissa ≠ 0 := by
      intro zero
      rw [zero] at bits
      exact absurd bits (by decide)
    exact bits ▸ Nat.log2_self_le nonzero

/-- A significand of at most 53 bits that stands as low as the grid allows. -/
structure Fits (significand : Nat) (exponent : Int) : Prop where
  bits : significand ≤ 2 ^ 53
  least : -1074 ≤ exponent
  full : 2 ^ 52 ≤ significand ∨ exponent = -1074

theorem Fits.exponent_le (fits : Fits significand exponent) :
    exponent ≤ max (totalExponent significand exponent - 53) (-1074) := by
  rcases fits.full with full | isLeast
  · have := (Nat.le_log2 (by omega)).mpr full
    unfold totalExponent
    omega
  · omega

/-- What a significand that is low enough is cut off to and rounded to. -/
theorem fits_roundedMantissa {ratio : ℚ}
    (truncates : Truncates (.ofMantissaAndAccuracy significand accuracy) ratio)
    (low : exponent ≤ max (totalExponent significand exponent - 53) (-1074)) :
    Fits (shiftToTargetExponent .binary64 significand exponent accuracy).1.roundedMantissa
        (shiftToTargetExponent .binary64 significand exponent accuracy).2 ∧
      Rounds (ratio * 2 ^ exponent)
        ((shiftToTargetExponent .binary64 significand exponent accuracy).1.roundedMantissa *
          2 ^ (shiftToTargetExponent .binary64 significand exponent accuracy).2) := by
  have cutTruncates := truncates_shiftToTargetExponent truncates exponent
  have cutBits := @mantissa_shiftToTargetExponent_lt significand exponent accuracy
  have cutFull := @full_shiftToTargetExponent significand exponent accuracy low
  have cutExponent := Json.shiftToTargetExponent_snd significand exponent accuracy
  generalize shiftToTargetExponent .binary64 significand exponent accuracy = cut at *
  have fits : Fits cut.1.roundedMantissa cut.2 := by
    refine ⟨(Json.roundedMantissa_le cut.1).trans cutBits, by omega, ?_⟩
    exact cutFull.imp_left fun full =>
      full.trans (cutTruncates.le_roundedMantissa cutTruncates.low)
  refine ⟨fits, ?_⟩
  rw [← div_mul_cancel₀ (ratio * 2 ^ exponent) (two_zpow_pos cut.2).ne']
  apply rounds_of_significand
  · exact (Nat.cast_nonneg cut.1.mantissa).trans cutTruncates.low
  · exact ⟨cut.1.roundedMantissa, cut.2, by rw [Nat.abs_cast]; exact_mod_cast fits.bits,
      fits.least, by rw [Int.cast_natCast]⟩
  · exact cutFull.imp_left fun full => le_trans (by exact_mod_cast full) cutTruncates.low
  · exact fun bound le => cutTruncates.roundedMantissa_le le
  · exact fun bound ge => cutTruncates.le_roundedMantissa ge

/-- A significand that was rounded up to one bit too many loses a zero when it is cut off again. -/
theorem Fits.carry (fits : Fits significand exponent) :
    ((shiftToTargetExponent .binary64 significand exponent .exact).1.mantissa : ℚ) *
        2 ^ (shiftToTargetExponent .binary64 significand exponent .exact).2 =
      significand * 2 ^ exponent := by
  have newExponent := Json.shiftToTargetExponent_snd significand exponent .exact
  have least := fits.least
  rw [mantissa_shiftToTargetExponent]
  generalize (shiftToTargetExponent .binary64 significand exponent .exact).2 = target at *
  rcases fits.bits.lt_or_eq with lt | rfl
  · have log := Json.log2_lt_of_lt lt (by decide)
    unfold totalExponent at *
    have same : target = exponent := by omega
    have uncut : (max (significand.log2 + 1 + exponent - 53) (-1074) - exponent).toNat = 0 := by
      omega
    rw [uncut, same, pow_zero, Nat.div_one]
  · have log : (2 ^ 53).log2 = 53 := Nat.log2_two_pow
    unfold totalExponent at *
    rw [log] at newExponent ⊢
    have raised : target = exponent + 1 := by omega
    have cut : (max (((53 : ℕ) : ℤ) + 1 + exponent - 53) (-1074) - exponent).toNat = 1 := by omega
    rw [cut, raised, zpow_add_one₀ (by norm_num)]
    norm_num
    ring

end Shift

/-- What an operation gives before it is packed: the exact result, rounded. -/
structure IsRounded (exact : ℚ) (unpacked : UnpackedFloat) : Prop where
  canonical : Canonical unpacked
  rounds : Rounds exact (valueOf unpacked)

theorem isRounded_zero (sign : Sign) : IsRounded 0 (.zero sign) :=
  ⟨.zero sign, .refl onGrid_zero⟩

theorem isRounded_self {unpacked : UnpackedFloat} (canonical : Canonical unpacked) :
    IsRounded (valueOf unpacked) unpacked :=
  ⟨canonical, .refl canonical.onGrid⟩

/-- A significand that is low enough is rounded from what it truncates. -/
theorem isRounded_roundWithAccuracy (sign : Sign) {significand : Nat} {exponent : Int}
    {accuracy : Accuracy} {ratio : ℚ}
    (truncates : Truncates (.ofMantissaAndAccuracy significand accuracy) ratio)
    (low : exponent ≤ max (totalExponent significand exponent - 53) (-1074)) :
    IsRounded (signed sign (ratio * 2 ^ exponent))
      (roundWithAccuracy .binary64 sign significand exponent accuracy) := by
  rcases fits_roundedMantissa truncates low with ⟨fits, rounds⟩
  simp only [roundWithAccuracy]
  generalize shiftToTargetExponent .binary64 significand exponent accuracy = cut at *
  have bits := @mantissa_shiftToTargetExponent_lt cut.1.roundedMantissa cut.2 .exact
  have full := @full_shiftToTargetExponent _ _ .exact fits.exponent_le
  have finalExponent := Json.shiftToTargetExponent_snd cut.1.roundedMantissa cut.2 .exact
  rw [← fits.carry] at rounds
  generalize shiftToTargetExponent .binary64 cut.1.roundedMantissa cut.2 .exact = final at *
  split
  next isZero =>
    rw [isZero, Nat.cast_zero, zero_mul] at rounds
    refine ⟨.zero sign, ?_⟩
    convert rounds.signed sign using 1
    cases sign <;> simp [signed]
  next => exact ⟨.finite bits (by omega) full, rounds.signed sign⟩

end SampleChart.Double
