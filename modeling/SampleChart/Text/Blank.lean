/-!
# Blank characters

The blanks of a results file are the characters with the Unicode property White_Space. Two readings
of a text rest on them: `trim` takes the blanks off both ends, and `fields` lists the maximal runs
of characters that are not blank. Both work on the list of characters; `Text.trim` and `Text.fields`
are the same functions on strings.
-/

namespace SampleChart.Text

/-- Holds of the twenty-five characters with the Unicode property White_Space. -/
def isBlank (character : Char) : Bool :=
  let code := character.toNat
  (0x9 ≤ code && code ≤ 0xd) || code == 0x20 || code == 0x85 || code == 0xa0 || code == 0x1680 ||
    (0x2000 ≤ code && code ≤ 0x200a) || code == 0x2028 || code == 0x2029 || code == 0x202f ||
    code == 0x205f || code == 0x3000

theorem isBlank_space : isBlank ' ' = true := rfl

namespace Characters

/-- Drops the blanks at the end. -/
def trimEnd : List Char → List Char
  | [] => []
  | character :: rest =>
      match trimEnd rest with
      | [] => if isBlank character then [] else [character]
      | kept => character :: kept

/-- Drops the blanks at both ends. -/
def trim (text : List Char) : List Char :=
  trimEnd (text.dropWhile isBlank)

/-- Puts a character in front of the first piece, which it opens if there is none. -/
def consFirst (character : Char) : List (List Char) → List (List Char)
  | [] => [[character]]
  | piece :: pieces => (character :: piece) :: pieces

/-- Whether the text opens with a character that is not blank. -/
def opensField : List Char → Bool
  | [] => false
  | character :: _ => !isBlank character

/-- The maximal runs of characters that are not blank, from left to right. -/
def fields : List Char → List (List Char)
  | [] => []
  | character :: rest =>
      if isBlank character then fields rest
      else if opensField rest then consFirst character (fields rest)
      else [character] :: fields rest

end Characters

def trim (text : String) : String :=
  String.ofList (Characters.trim text.toList)

/-- The maximal runs of characters that are not blank, from left to right. -/
def fields (text : String) : List String :=
  (Characters.fields text.toList).map String.ofList

end SampleChart.Text
