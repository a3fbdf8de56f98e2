import SampleChart.Json.Printer
import SampleChart.Json.Reader

/-!
# Printed strings

Every escape that is printed is read as its character, so a printed string is read as the text it
was printed for. No escape that is printed is half of a surrogate pair.
-/

namespace SampleChart.Json

/-- What a printed character is read as. -/
inductive Piece.Denotes : Piece → Char → Prop
  | character (character : Char) : Denotes (.character character) character
  | control {character : Char} (low : character.toNat < 0x20) :
      Denotes (.unit character.toNat) character

theorem hexDigit?_digitChar : ∀ digit < 16, hexDigit? (Nat.digitChar digit) = some digit := by
  decide

/-- The four digits of an escaped control character are read as its code. -/
theorem codeUnit?_of_lt {code : Nat} (low : code < 0x20) :
    codeUnit? '0' '0' (Nat.digitChar (code / 16)) (Nat.digitChar (code % 16)) = some code := by
  have zero : hexDigit? '0' = some 0 := by decide
  have sixteens := hexDigit?_digitChar (code / 16) (by omega)
  have ones := hexDigit?_digitChar (code % 16) (by omega)
  simp only [codeUnit?, zero, sixteens, ones, Option.bind_eq_bind, Option.bind_some,
    Option.pure_def, Option.some.injEq]
  omega

/-- A character that needs no escape stands for itself. -/
theorem readPieces_of_plain {character : Char} {text rest : List Char} {pieces : List Piece}
    (notQuote : character ≠ '"') (notBackslash : character ≠ '\\')
    (notControl : ¬character.toNat < 0x20) (read : readPieces text = some (pieces, rest)) :
    readPieces (character :: text) = some (.character character :: pieces, rest) := by
  rw [readPieces.eq_def]
  split
  next heq => cases heq
  next heq => cases heq; contradiction
  next heq => cases heq; contradiction
  next heq => cases heq; contradiction
  next heq =>
    cases heq
    simp [notControl, notBackslash, read]

/-- The printed form of a character is read as one piece, which denotes it. -/
theorem exists_readPieces_escapedCharacter (character : Char) {text rest : List Char}
    {pieces : List Piece} (read : readPieces text = some (pieces, rest)) :
    ∃ piece : Piece, piece.Denotes character ∧
      readPieces (escapedCharacter character ++ text) = some (piece :: pieces, rest) := by
  rw [escapedCharacter.eq_def]
  split
  case h_8 notQuote notBackslash _ _ _ _ _ =>
    split
    next control =>
      exact ⟨_, .control control, by simp [readPieces, codeUnit?_of_lt control, read]⟩
    next notControl =>
      exact ⟨_, .character character, readPieces_of_plain notQuote notBackslash notControl read⟩
  all_goals exact ⟨_, .character _, by simp [readPieces, shortEscape?, read]⟩

/-- An escaped code that is no half of a pair stands for its character. -/
theorem joinPieces_unit {code : Nat} (scalar : code < 0xd800) (pieces : List Piece) :
    joinPieces (.unit code :: pieces) = (joinPieces pieces).map (Char.ofNat code :: ·) := by
  have notHigh : ¬0xd800 ≤ code := by omega
  have notLow : ¬0xdc00 ≤ code := by omega
  rcases pieces with _ | ⟨_ | _, _⟩ <;> simp [joinPieces, notHigh, notLow]

theorem Piece.Denotes.joinPieces_cons {piece : Piece} {character : Char} {pieces : List Piece}
    {text : List Char} (denotes : piece.Denotes character)
    (joined : joinPieces pieces = some text) :
    joinPieces (piece :: pieces) = some (character :: text) := by
  cases denotes with
  | character => rw [joinPieces, joined, Option.map_some]
  | control low => rw [joinPieces_unit (by omega), joined, Option.map_some, Char.ofNat_toNat]

/-- A text that is printed with its escapes is read as this text. -/
theorem readString_escaped (text : String) (rest : List Char) :
    readString (text.toList.flatMap escapedCharacter ++ '"' :: rest) = some (some text, rest) := by
  have read : ∀ characters : List Char, ∃ pieces,
      readPieces (characters.flatMap escapedCharacter ++ '"' :: rest) = some (pieces, rest) ∧
        joinPieces pieces = some characters := by
    intro characters
    induction characters with
    | nil => exact ⟨[], by simp [readPieces], rfl⟩
    | cons character others ih =>
        rcases ih with ⟨pieces, read, joined⟩
        rcases exists_readPieces_escapedCharacter character read with ⟨piece, denotes, readBoth⟩
        refine ⟨piece :: pieces, ?_, denotes.joinPieces_cons joined⟩
        rw [List.flatMap_cons, List.append_assoc, readBoth]
  rcases read text.toList with ⟨pieces, read, joined⟩
  simp [readString, read, joined]

end SampleChart.Json
