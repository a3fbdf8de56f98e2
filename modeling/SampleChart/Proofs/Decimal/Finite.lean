import SampleChart.Decimal.Style
import SampleChart.Proofs.Double.Packing

/-!
# Texts of finite doubles

The exponent field among the bits of a double tells whether it is finite. The text of a finite
double is a number, with the places that were asked for behind a point; it is never one of the words
for what is not finite, nor the word that stands for it in a document.
-/

namespace SampleChart.Decimal

open Float.Model (UnpackedFloat)
open Float.Model.UnpackedFloat

namespace Binary

theorem isFinite_unpack_iff (bits : BitVec 64) :
    (UnpackedFloat.unpack .binary64 bits).isFinite = true ↔
      (@unpackExponent .binary64 bits).toNat + 1 ≠ fieldCount := by
  by_cases last : @unpackExponent .binary64 bits = -1#11
  · have isLast : (@unpackExponent .binary64 bits).toNat + 1 = fieldCount := by
      rw [last]
      rfl
    refine iff_of_false ?_ (not_not.mpr isLast)
    simp only [UnpackedFloat.unpack]
    rw [if_pos last]
    split <;> exact Bool.false_ne_true
  · refine iff_of_true ?_ fun isLast => last (BitVec.eq_of_toNat_eq (Nat.succ.inj isLast))
    simp only [UnpackedFloat.unpack]
    rw [if_neg last]
    split
    next => split <;> rfl
    next => rfl

/-- A double is finite exactly if its bits are taken apart as those of a finite number. -/
theorem isFinite_iff (number : Float) :
    number.isFinite = true ↔
      ∃ negative significand exponent, ofFloat number = finite negative significand exponent := by
  have field : (@unpackExponent .binary64 number.toModel.toBits.toBitVec).toNat =
      number.toBits.toNat / leadingBit % fieldCount := by
    rw [unpackExponent_def, BitVec.extractLsb'_toNat, Nat.shiftRight_eq_div_pow]
    rfl
  change (UnpackedFloat.unpack .binary64 number.toModel.toBits.toBitVec).isFinite = true ↔ _
  rw [isFinite_unpack_iff, field]
  unfold ofFloat
  dsimp only
  split
  next last => split <;> simp [last]
  next notLast => split <;> simp [notLast]

end Binary

/-- The words that stand for what is not finite. -/
def words : List String := ["NaN", "inf", "-inf"]

/-- A number with a given number of places is a word exactly if it is not finite. -/
theorem fixed_mem_words_iff (places : Nat) (number : Float) :
    fixed places number ∈ words ↔ number.isFinite = false := by
  rw [← Bool.not_eq_true, Binary.isFinite_iff]
  unfold fixed
  split
  next isNan => simp [words, isNan]
  next negative isInfinite => cases negative <;> simp [words, isInfinite, signText]
  next negative significand exponent isFinite =>
    refine iff_of_false ?_ (by simp [isFinite])
    intro isWord
    have noPoint : ∀ word ∈ words, '.' ∉ word.toList := by decide
    apply noPoint _ isWord
    simp

section Marks

variable {mark : Char} (notDigit : mark.isDigit = false)

include notDigit

/-- A character that is no digit is not in the digits of a number. -/
theorem not_mem_toDigits (number : Nat) : mark ∉ Nat.toDigits 10 number := by
  intro present
  have isDigit := Nat.isDigit_of_mem_toDigits (by decide) (by decide) present
  simp [notDigit] at isDigit

variable {digits : List Char} (absent : mark ∉ digits) (notPoint : mark ≠ '.') (point : Int)

include absent notPoint

theorem not_mem_positionalText (style : Style) : mark ∉ style.positionalText digits point := by
  have notTaken (count : Nat) : mark ∉ digits.take count := mt List.mem_of_mem_take absent
  have notDropped (count : Nat) : mark ∉ digits.drop count := mt List.mem_of_mem_drop absent
  have notZero : mark ≠ '0' := by
    rintro rfl
    cases notDigit
  unfold Style.positionalText
  split
  next => simp [absent, notPoint, notZero]
  next =>
    split
    next => simp [notTaken, notDropped, notPoint]
    next => split <;> simp [absent, notPoint, notZero]

theorem not_mem_scientificText (notSign : mark ≠ '-' ∧ mark ≠ '+') (notExponent : mark ≠ 'e') :
    mark ∉ Style.scientificText digits point := by
  have notTaken (count : Nat) : mark ∉ digits.take count := mt List.mem_of_mem_take absent
  have notDropped (count : Nat) : mark ∉ digits.drop count := mt List.mem_of_mem_drop absent
  have notDigits := not_mem_toDigits notDigit (point - 1).natAbs
  simp only [Style.scientificText, List.mem_append, List.mem_cons, not_or]
  refine ⟨⟨notTaken 1, ?_⟩, notExponent, ?_, notDigits⟩
  · split
    next => exact List.not_mem_nil
    next => simpa [notPoint] using notDropped 1
  · split
    next => exact notSign.1
    next => exact notSign.2

end Marks

/-- A plain number has no characters but digits, a sign, a point and the letters of the words. -/
theorem not_mem_plain {mark : Char} (notDigit : mark.isDigit = false)
    (other : mark ∉ ['-', '.', 'N', 'a', 'i', 'n', 'f']) (value : Float) :
    mark ∉ (plain.text value).toList := by
  simp only [List.mem_cons, List.not_mem_nil, or_false, not_or] at other
  have sign (negative : Bool) : mark ∉ signText negative := by
    cases negative <;> simp [signText, other]
  rw [Style.text]
  split
  next => simp [other]
  next negative _ => simp [sign, other]
  next negative significand exponent _ =>
    rw [String.toList_ofList, List.mem_append, not_or, Style.magnitudeText]
    refine ⟨sign negative, ?_⟩
    split
    next =>
      have notZero : mark ≠ '0' := by
        rintro rfl
        cases notDigit
      simp [plain, notZero]
    next =>
      exact not_mem_positionalText notDigit (not_mem_toDigits notDigit _) other.2.1 _ _

/-- The text of a finite number in a document is not the word for what is missing. -/
theorem document_text_ne_null {number : Float} (finite : number.isFinite = true) :
    (document.text number).toList ≠ ['n', 'u', 'l', 'l'] := by
  rcases (Binary.isFinite_iff number).mp finite with ⟨negative, significand, exponent, isFinite⟩
  have noLetter : 'n' ∉ (document.text number).toList := by
    have notDigit : 'n'.isDigit = false := by decide
    have absent :=
      not_mem_toDigits notDigit (shortest document.tie significand exponent).coefficient
    simp only [Style.text, isFinite, String.toList_ofList, List.mem_append, not_or,
      Style.magnitudeText]
    refine ⟨by cases negative <;> decide, ?_⟩
    split
    next => decide
    next =>
      split
      next => exact not_mem_positionalText notDigit absent (by decide) _ _
      next => exact not_mem_scientificText notDigit absent (by decide) _ (by decide) (by decide)
  intro isNull
  rw [isNull] at noLetter
  exact noLetter List.mem_cons_self

end SampleChart.Decimal
