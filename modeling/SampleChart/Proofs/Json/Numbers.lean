import Mathlib
import SampleChart.Decimal.Style
import SampleChart.Json.Number

/-!
# Printed numbers

A number is read up to the first character that cannot continue it. So it is read in the same way in
front of any text that does not begin with such a character. An integer of 64 bits is read as it was
printed.
-/

namespace SampleChart.Json

open Decimal (digitsValue splitDigits splitSign)

/-- Whether a number could go on with a character. -/
def continuesNumber (character : Char) : Bool :=
  character.isDigit || character == '.' || character == 'e' || character == 'E'

/-- A text in front of which a number ends. -/
def EndsNumber (rest : List Char) : Prop :=
  ∀ character ∈ rest.head?, continuesNumber character = false

/-- Digits that may stand before the point: there is one at least, and a zero stands alone. -/
def IsWhole (digits : List Char) : Prop :=
  digits ≠ [] ∧ (digits.head? = some '0' → digits = ['0'])

variable {text left rest digits : List Char}

theorem endsNumber_cons {character : Char} (other : continuesNumber character = false)
    (rest : List Char) : EndsNumber (character :: rest) := by
  simpa [EndsNumber] using other

/-- Digits are told from what is behind a number, if this does not go on with one. -/
theorem splitDigits_append (ends : EndsNumber rest) (text : List Char) :
    splitDigits (text ++ rest) = ((splitDigits text).1, (splitDigits text).2 ++ rest) := by
  have stops : splitDigits rest = ([], rest) := by
    cases rest with
    | nil => rfl
    | cons character others =>
        have notDigit : character.isDigit = false := by
          simp_all [EndsNumber, continuesNumber]
        simp [splitDigits, notDigit]
  induction text with
  | nil => exact stops
  | cons character others ih =>
      simp only [splitDigits, Prod.mk.injEq] at ih
      by_cases isDigit : character.isDigit = true <;> simp [splitDigits, isDigit, ih]

theorem splitSign_append (nonempty : text ≠ []) (rest : List Char) :
    splitSign (text ++ rest) = ((splitSign text).1, (splitSign text).2 ++ rest) := by
  cases text with
  | nil => exact absurd rfl nonempty
  | cons character others =>
      by_cases isMinus : character = '-' <;> by_cases isPlus : character = '+' <;>
        simp_all [splitSign]

/-- Digits are read as a whole number exactly if they have no zero too many in front. -/
theorem readWhole_eq_some_iff :
    readWhole text = some (digits, left) ↔ splitDigits text = (digits, left) ∧ IsWhole digits := by
  rw [readWhole]
  rcases splitDigits text with ⟨_ | ⟨first, _ | ⟨second, others⟩⟩, behind⟩
  · simp [IsWhole]
    grind
  · by_cases isZero : first = '0' <;> simp [IsWhole, isZero] <;> grind
  · by_cases isZero : first = '0' <;> simp [IsWhole, isZero] <;> grind

/-- A whole number is read the same, whatever is behind the number. -/
theorem readWhole_append (ends : EndsNumber rest) (read : readWhole text = some (digits, left)) :
    readWhole (text ++ rest) = some (digits, left ++ rest) := by
  rw [readWhole_eq_some_iff] at read ⊢
  rw [splitDigits_append ends, read.1]
  exact ⟨rfl, read.2⟩

theorem readFraction_of_no_point (noPoint : text.head? ≠ some '.') :
    readFraction text = some ([], text) := by
  cases text with
  | nil => rfl
  | cons character others =>
      have notPoint : character ≠ '.' := by simpa using noPoint
      simp [readFraction, notPoint]

/-- A fraction is read the same, whatever is behind the number. -/
theorem readFraction_append (ends : EndsNumber rest)
    (read : readFraction text = some (digits, left)) :
    readFraction (text ++ rest) = some (digits, left ++ rest) := by
  by_cases noPoint : (text ++ rest).head? = some '.'
  · rcases text with _ | ⟨character, others⟩
    · simp [EndsNumber, show rest.head? = some '.' by simpa using noPoint, continuesNumber] at ends
    · rcases show character = '.' by simpa using noPoint with rfl
      simp only [List.cons_append, readFraction, splitDigits_append ends] at read ⊢
      generalize splitDigits others = parts at read ⊢
      rcases parts with ⟨_ | _, behind⟩ <;> simp_all
  · have alone : text.head? ≠ some '.' := by
      rcases text with _ | _ <;> simp_all
    rw [readFraction_of_no_point alone] at read
    cases read
    exact readFraction_of_no_point noPoint

theorem readExponent_of_no_mark (noMark : text.head? ≠ some 'e' ∧ text.head? ≠ some 'E') :
    readExponent text = some (none, text) := by
  cases text with
  | nil => rfl
  | cons character others =>
      have notMark : ¬(character = 'e' ∨ character = 'E') := by simpa using noMark
      simp [readExponent, notMark]

/-- An exponent is read the same, whatever is behind the number. -/
theorem readExponent_append (ends : EndsNumber rest) {exponent : Option Int}
    (read : readExponent text = some (exponent, left)) :
    readExponent (text ++ rest) = some (exponent, left ++ rest) := by
  rcases text with _ | ⟨mark, others⟩
  · cases read
    have noMark : rest.head? ≠ some 'e' ∧ rest.head? ≠ some 'E' := by
      constructor <;> intro isMark <;> simp [EndsNumber, isMark, continuesNumber] at ends
    exact readExponent_of_no_mark noMark
  · by_cases isMark : mark = 'e' ∨ mark = 'E'
    · rcases others with _ | ⟨next, later⟩
      · simp [readExponent, isMark, splitSign, splitDigits] at read
      · simp only [List.cons_append, readExponent, isMark, if_true] at read ⊢
        rw [← List.cons_append, splitSign_append (by simp)]
        dsimp only
        rw [splitDigits_append ends]
        generalize splitDigits (splitSign (next :: later)).2 = parts at read ⊢
        rcases parts with ⟨_ | _, behind⟩ <;> simp_all
    · rw [readExponent_of_no_mark (by simpa using isMark)] at read
      cases read
      exact readExponent_of_no_mark (by simpa using isMark)

/-- Reads what follows the sign of a number. -/
def readUnsigned (negative : Bool) (text : List Char) : Option (Value × List Char) := do
  let (whole, rest) ← readWhole text
  let (fraction, rest) ← readFraction rest
  let (exponent, rest) ← readExponent rest
  return (NumberParts.value ⟨negative, whole, fraction, exponent⟩, rest)

theorem readNumber_minus (text : List Char) :
    readNumber ('-' :: text) = readUnsigned true text := rfl

theorem readNumber_of_no_minus (noMinus : text.head? ≠ some '-') :
    readNumber text = readUnsigned false text := by
  rcases text with _ | ⟨first, others⟩
  · rfl
  · have notMinus : first ≠ '-' := by simpa using noMinus
    unfold readNumber
    split
    next signEq =>
      split at signEq
      next isMinus => exact absurd (List.cons.inj isMinus).1 notMinus
      next =>
        cases signEq
        rfl

/-- A number is read part by part, each from where the one before it ended. -/
theorem readUnsigned_eq_some_iff {negative : Bool} {value : Value} :
    readUnsigned negative text = some (value, left) ↔
      ∃ whole behindWhole fraction behindFraction exponent,
        readWhole text = some (whole, behindWhole) ∧
        readFraction behindWhole = some (fraction, behindFraction) ∧
        readExponent behindFraction = some (exponent, left) ∧
        NumberParts.value ⟨negative, whole, fraction, exponent⟩ = value := by
  simp [readUnsigned, Option.bind_eq_some_iff]

/-- What is behind a number does not matter, as long as it does not go on with it. -/
theorem readUnsigned_append (ends : EndsNumber rest) {negative : Bool} {value : Value}
    (read : readUnsigned negative text = some (value, left)) :
    readUnsigned negative (text ++ rest) = some (value, left ++ rest) := by
  rw [readUnsigned_eq_some_iff] at read ⊢
  rcases read with ⟨whole, _, fraction, _, exponent, readWhole, readFraction, readExponent, same⟩
  exact ⟨whole, _, fraction, _, exponent, readWhole_append ends readWhole,
    readFraction_append ends readFraction, readExponent_append ends readExponent, same⟩

/-- A number is read as the same number in front of a text that does not continue it. -/
theorem readNumber_append (ends : EndsNumber rest) {value : Value}
    (read : readNumber text = some (value, left)) :
    readNumber (text ++ rest) = some (value, left ++ rest) := by
  rcases text with _ | ⟨first, others⟩
  · cases read
  · by_cases isMinus : first = '-'
    · rw [isMinus, readNumber_minus] at read
      rw [isMinus, List.cons_append, readNumber_minus]
      exact readUnsigned_append ends read
    · rw [readNumber_of_no_minus (by simpa using isMinus)] at read ⊢
      exact readUnsigned_append ends read

/-- A number begins with a minus or a digit. -/
theorem head_of_readNumber {value : Value} (read : readNumber text = some (value, left)) :
    ∃ first others, text = first :: others ∧ (first = '-' ∨ first.isDigit = true) := by
  rcases text with _ | ⟨first, others⟩
  · cases read
  · refine ⟨first, others, rfl, ?_⟩
    by_cases isMinus : first = '-'
    · exact Or.inl isMinus
    · rw [readNumber_of_no_minus (by simpa using isMinus), readUnsigned_eq_some_iff] at read
      rcases read with ⟨whole, _, _, _, _, readWhole, _⟩
      rw [readWhole_eq_some_iff] at readWhole
      by_contra noDigit
      simp only [not_or, Bool.not_eq_true] at noDigit
      simp [splitDigits, noDigit.2, IsWhole] at readWhole
      grind

/-- The decimal digits of a number have it as their value. -/
theorem digitsValue_toDigits (number : Nat) :
    digitsValue (Nat.toDigits 10 number) = number :=
  Nat.ofDigitChars_ten_toDigits

/-- No zero stands in front of other digits. -/
theorem isWhole_toDigits (number : Nat) : IsWhole (Nat.toDigits 10 number) := by
  refine ⟨Nat.toDigits_ne_nil, ?_⟩
  induction number using Nat.strongRecOn with
  | ind number ih =>
      intro zeroFirst
      by_cases small : number < 10
      · rw [Nat.toDigits_of_lt_base small] at zeroFirst ⊢
        simpa using zeroFirst
      · rw [Nat.toDigits_of_base_le (by omega) (by omega),
          List.head?_append_of_ne_nil _ Nat.toDigits_ne_nil] at zeroFirst
        have frontIsZero := congrArg digitsValue (ih (number / 10) (by omega) zeroFirst)
        rw [digitsValue_toDigits] at frontIsZero
        change number / 10 = 0 at frontIsZero
        omega

theorem splitDigits_toDigits (number : Nat) :
    splitDigits (Nat.toDigits 10 number) = (Nat.toDigits 10 number, []) := by
  have allDigits : ∀ digit ∈ Nat.toDigits 10 number, digit.isDigit = true :=
    fun digit present => Nat.isDigit_of_mem_toDigits (by decide) (by decide) present
  simp only [splitDigits, List.takeWhile_eq_self_iff.mpr allDigits,
    List.dropWhile_eq_nil_iff.mpr allDigits]

/-- The decimal digits of a number are read as a number without fraction and exponent. -/
theorem readUnsigned_toDigits (negative : Bool) (number : Nat) :
    readUnsigned negative (Nat.toDigits 10 number) =
      some (NumberParts.value ⟨negative, Nat.toDigits 10 number, [], none⟩, []) := by
  rw [readUnsigned_eq_some_iff]
  exact ⟨_, [], [], [], none,
    readWhole_eq_some_iff.mpr ⟨splitDigits_toDigits number, isWhole_toDigits number⟩, rfl, rfl, rfl⟩

/-- An integer of 64 bits is read as it was printed. -/
theorem readNumber_toString {number : Int} (least : -(2 ^ 63) ≤ number) (most : number < 2 ^ 64) :
    readNumber (toString number).toList = some (.integer number, []) := by
  rcases number with count | count
  · have text : (toString (Int.ofNat count)).toList = Nat.toDigits 10 count := by
      simp [toString, Int.repr, Nat.repr_eq_ofList_toDigits]
    have noMinus : (Nat.toDigits 10 count).head? ≠ some '-' := by
      intro isMinus
      have isDigit := Nat.isDigit_of_mem_toDigits (by decide) (by decide)
        (List.mem_of_mem_head? isMinus)
      cases isDigit
    have fits : count < NumberParts.significandBound := Int.ofNat_lt.mp most
    rw [text, readNumber_of_no_minus noMinus, readUnsigned_toDigits, NumberParts.value,
      NumberParts.integer?]
    simp [digitsValue_toDigits, fits]
  · have text : (toString (Int.negSucc count)).toList = '-' :: Nat.toDigits 10 (count + 1) := by
      simp [toString, Int.repr, Nat.repr_eq_ofList_toDigits]
    have fits : 2 * (count + 1) ≤ NumberParts.significandBound := by
      simp only [NumberParts.significandBound]
      omega
    rw [text, readNumber_minus, readUnsigned_toDigits, NumberParts.value, NumberParts.integer?]
    simp [digitsValue_toDigits, fits, Int.negSucc_eq]

end SampleChart.Json
