import SampleChart.Proofs.Json.Numbers

/-!
# Numbers with a given number of places

The text of a finite double with some places is told by the number that its digits denote without
the point: it is the natural number next to the exact value times a power of ten, and the even one
where two are as near. `IsNearestEven` says this without a word on how the number is found.
-/

namespace SampleChart.Decimal

/-- No natural number is nearer to a quotient, and none that is as near is even if this one is
not. -/
structure IsNearestEven (number numerator denominator : Nat) : Prop where
  not_above : 2 * (number * denominator) ≤ 2 * numerator + denominator
  not_below : 2 * numerator ≤ 2 * (number * denominator) + denominator
  even_of_tie : 2 * (number * denominator) = 2 * numerator + denominator ∨
    2 * numerator = 2 * (number * denominator) + denominator → number % 2 = 0

theorem isNearestEven_roundQuotient (numerator : Nat) {denominator : Nat}
    (positive : 0 < denominator) :
    IsNearestEven (roundQuotient .even numerator denominator) numerator denominator := by
  have parts : numerator / denominator * denominator + numerator % denominator = numerator :=
    Nat.div_add_mod' numerator denominator
  have small := Nat.mod_lt numerator positive
  have next : (numerator / denominator + 1) * denominator =
      numerator / denominator * denominator + denominator := Nat.succ_mul ..
  unfold roundQuotient
  dsimp only
  split_ifs with low high even
  · exact ⟨by omega, by omega, by omega⟩
  · exact ⟨by omega, by omega, by omega⟩
  · exact ⟨by omega, by omega, by omega⟩
  · exact ⟨by omega, by omega, by omega⟩

section Padded

variable (places number : Nat)

theorem digitsValue_paddedDigits : digitsValue (paddedDigits places number) = number := by
  rw [paddedDigits]
  induction places + 1 - (Nat.toDigits 10 number).length with
  | zero => exact Json.digitsValue_toDigits number
  | succ count ih => exact ih

theorem isDigit_of_mem_paddedDigits : ∀ digit ∈ paddedDigits places number,
    digit.isDigit = true := by
  intro digit present
  rcases List.mem_append.mp present with isZero | inNumber
  · rw [List.eq_of_mem_replicate isZero]
    rfl
  · exact Nat.isDigit_of_mem_toDigits (by decide) (by decide) inNumber

theorem lt_length_paddedDigits : places < (paddedDigits places number).length := by
  simp only [paddedDigits, List.length_append, List.length_replicate]
  omega

/-- Zeros are put in front of a number only to have one digit in front of the places. -/
theorem isWhole_take_paddedDigits :
    Json.IsWhole ((paddedDigits places number).take
      ((paddedDigits places number).length - places)) := by
  by_cases short : (Nat.toDigits 10 number).length ≤ places
  · have first : places + 1 - (Nat.toDigits 10 number).length =
        places - (Nat.toDigits 10 number).length + 1 := by omega
    have one : (paddedDigits places number).length - places = 1 := by
      simp only [paddedDigits, List.length_append, List.length_replicate]
      omega
    have alone : (paddedDigits places number).take 1 = ['0'] := by
      rw [paddedDigits, first, List.replicate_succ]
      rfl
    rw [one, alone]
    exact ⟨by decide, fun _ => rfl⟩
  · have unpadded : paddedDigits places number = Nat.toDigits 10 number := by
      rw [paddedDigits, Nat.sub_eq_zero_of_le (by omega), List.replicate_zero, List.nil_append]
    have positive : (Nat.toDigits 10 number).length - places ≠ 0 := by omega
    rcases Json.isWhole_toDigits number with ⟨nonempty, zeroAlone⟩
    rw [unpadded]
    refine ⟨by simp [nonempty, positive], fun zeroFirst => ?_⟩
    rw [List.head?_take, if_neg positive] at zeroFirst
    rw [zeroAlone zeroFirst] at positive ⊢
    exact List.take_of_length_le (Nat.one_le_iff_ne_zero.mpr positive)

end Padded

/-- A finite double with some places is a sign, a whole number without needless zeros, a point and
so many digits. They denote the nearest number that has no more places. -/
theorem fixed_of_finite (places : Nat) {value : Float} {negative : Bool} {significand : Nat}
    {exponent : Int} (isFinite : Binary.ofFloat value = .finite negative significand exponent) :
    ∃ whole fraction,
      (fixed places value).toList = signText negative ++ whole ++ '.' :: fraction ∧
      Json.IsWhole whole ∧ fraction.length = places ∧
      (∀ digit ∈ whole ++ fraction, digit.isDigit = true) ∧
      IsNearestEven (digitsValue (whole ++ fraction))
        (significand * 2 ^ exponent.toNat * 10 ^ places) (2 ^ (-exponent).toNat) := by
  have nearest := isNearestEven_roundQuotient
    (significand * 2 ^ exponent.toNat * 10 ^ places) (Nat.two_pow_pos (-exponent).toNat)
  simp only [fixed, isFinite, String.toList_ofList, Nat.pow_eq]
  generalize roundQuotient .even (significand * 2 ^ exponent.toNat * 10 ^ places)
    (2 ^ (-exponent).toNat) = scaled at nearest ⊢
  refine ⟨_, _, rfl, isWhole_take_paddedDigits places scaled, ?_, ?_, ?_⟩
  · have longer := lt_length_paddedDigits places scaled
    rw [List.length_drop]
    omega
  · rw [List.take_append_drop]
    exact isDigit_of_mem_paddedDigits places scaled
  · rw [List.take_append_drop, digitsValue_paddedDigits]
    exact nearest

end SampleChart.Decimal
