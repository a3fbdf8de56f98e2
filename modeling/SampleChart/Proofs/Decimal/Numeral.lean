import Mathlib.Data.List.TakeWhile
import SampleChart.Decimal.Numeral
import SampleChart.Text.Blank

/-!
# No numeral has a blank

A reader of numerals takes a text apart piece by piece, and no piece that it takes can hold a blank:
a sign, digits, a point, the mark of an exponent. So a blank is never passed over. It stays in what
is left, and what is left at the end is not nothing.
-/

namespace SampleChart.Decimal

variable {text : List Char}

/-- Some character of a text is blank. -/
def HasBlank (text : List Char) : Prop :=
  ∃ character ∈ text, Text.isBlank character = true

/-- A blank behind a character that is none is in the rest. -/
theorem hasBlank_of_cons {character : Char} (isMark : Text.isBlank character = false)
    (blank : HasBlank (character :: text)) : HasBlank text := by
  rcases blank with ⟨other, present, isBlank⟩
  rcases List.mem_cons.mp present with rfl | inRest
  · simp [isMark] at isBlank
  · exact ⟨other, inRest, isBlank⟩

theorem isDigit_of_isBlank {character : Char} (blank : Text.isBlank character = true) :
    character.isDigit = false := by
  simp only [Text.isBlank, Char.toNat] at blank
  simp only [Char.isDigit, Bool.and_eq_false_iff, decide_eq_false_iff_not, ge_iff_le,
    UInt32.le_iff_toNat_le]
  simp only [Bool.or_eq_true, Bool.and_eq_true, decide_eq_true_eq, beq_iff_eq] at blank
  have zero : '0'.val.toNat = 48 := rfl
  have nine : '9'.val.toNat = 57 := rfl
  omega

theorem toLower_of_isBlank {character : Char} (blank : Text.isBlank character = true) :
    character.toLower = character := by
  simp only [Text.isBlank, Char.toNat] at blank
  simp only [Bool.or_eq_true, Bool.and_eq_true, decide_eq_true_eq, beq_iff_eq] at blank
  have first : 'A'.val.toNat = 65 := rfl
  have last : 'Z'.val.toNat = 90 := rfl
  have notCapital : ¬(character.val ≥ 'A'.val ∧ character.val ≤ 'Z'.val) := by
    simp only [ge_iff_le, UInt32.le_iff_toNat_le, not_and]
    omega
  exact dif_neg notCapital

/-- No sign takes a blank away. -/
theorem hasBlank_splitSign (blank : HasBlank text) : HasBlank (splitSign text).2 := by
  rw [splitSign.eq_def]
  split
  next => exact hasBlank_of_cons (by decide) blank
  next => exact hasBlank_of_cons (by decide) blank
  next => exact blank

theorem hasBlank_splitDigits (blank : HasBlank text) : HasBlank (splitDigits text).2 := by
  rcases blank with ⟨character, present, isBlank⟩
  refine ⟨character, ?_, isBlank⟩
  rw [← List.takeWhile_append_dropWhile (p := Char.isDigit) (l := text), List.mem_append] at present
  rcases present with amongDigits | behind
  · have isDigit := List.mem_takeWhile_imp amongDigits
    simp [isDigit_of_isBlank isBlank] at isDigit
  · exact behind

theorem hasBlank_splitFraction (blank : HasBlank text) : HasBlank (splitFraction text).2 := by
  rw [splitFraction.eq_def]
  split
  next => exact hasBlank_splitDigits (hasBlank_of_cons (by decide) blank)
  next => exact blank

/-- What stands behind an exponent is no exponent's end, so a blank there is refused. -/
theorem exponent?_of_hasBlank (blank : HasBlank text) : exponent? text = none := by
  cases text with
  | nil => simp [HasBlank] at blank
  | cons mark rest =>
      by_cases isMark : mark = 'e' ∨ mark = 'E'
      · have noBlank : Text.isBlank mark = false := by rcases isMark with rfl | rfl <;> decide
        have left := hasBlank_splitDigits (hasBlank_splitSign (hasBlank_of_cons noBlank blank))
        simp only [exponent?, isMark, if_true]
        rcases parts : splitDigits (splitSign rest).2 with ⟨digits, behind⟩
        rw [parts] at left
        cases behind with
        | nil => simp [HasBlank] at left
        | cons next others => cases digits <;> rfl
      · simp [exponent?, isMark]

/-- A text with a blank in it is no number, with or without a fraction and an exponent. -/
theorem ofDigits?_of_hasBlank (negative : Bool) (blank : HasBlank text) :
    Numeral.ofDigits? negative text = none := by
  have left := exponent?_of_hasBlank (hasBlank_splitFraction (hasBlank_splitDigits blank))
  simp [Numeral.ofDigits?, left]

/-- A word in small letters is none of the words for infinity and for what is no number if it has a
blank, which small letters leave as it is. -/
theorem word_ne_of_hasBlank (word : String)
    (noBlank : word.toList.any Text.isBlank = false) (blank : HasBlank text) :
    String.ofList (text.map Char.toLower) ≠ word := by
  rintro rfl
  rcases blank with ⟨character, present, isBlank⟩
  have among : character ∈ text.map Char.toLower :=
    List.mem_map.mpr ⟨character, present, toLower_of_isBlank isBlank⟩
  rw [String.toList_ofList, List.any_eq_false] at noBlank
  exact noBlank character among isBlank

/-- A numeral has no blank in it. -/
theorem ofText?_of_hasBlank (blank : HasBlank text) : Numeral.ofText? text = none := by
  have left := hasBlank_splitSign blank
  have notInf := word_ne_of_hasBlank "inf" (by decide) left
  have notInfinity := word_ne_of_hasBlank "infinity" (by decide) left
  have notNan := word_ne_of_hasBlank "nan" (by decide) left
  simp [Numeral.ofText?, notInf, notInfinity, notNan, ofDigits?_of_hasBlank _ left]

/-- No text with a blank in it denotes a number. -/
theorem float?_of_hasBlank {text : String} (blank : HasBlank text.toList) : float? text = none := by
  simp [float?, ofText?_of_hasBlank blank]

end SampleChart.Decimal
