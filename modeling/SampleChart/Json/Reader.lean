import SampleChart.Json.Number

/-!
# Reading JSON

A document is one value with blanks around it. Reading is by descent on the list of characters that
are left. The number of steps is bounded by twice the length of the document: every second step
takes a character.
-/

namespace SampleChart.Json

/-- The blanks of JSON. -/
def isBlank (character : Char) : Bool :=
  character = ' ' || character = '\n' || character = '\t' || character = '\r'

def skipBlanks (text : List Char) : List Char :=
  text.dropWhile isBlank

def hexDigit? (character : Char) : Option Nat :=
  if '0' ≤ character ∧ character ≤ '9' then some (character.toNat - '0'.toNat)
  else if 'a' ≤ character ∧ character ≤ 'f' then some (character.toNat - 'a'.toNat + 10)
  else if 'A' ≤ character ∧ character ≤ 'F' then some (character.toNat - 'A'.toNat + 10)
  else none

/-- The number that four hexadecimal digits denote. -/
def codeUnit? (first second third fourth : Char) : Option Nat := do
  return 0x1000 * (← hexDigit? first) + 0x100 * (← hexDigit? second) + 0x10 * (← hexDigit? third) +
    (← hexDigit? fourth)

/-- A piece of a string: a character, or a code unit that stands in an escape. -/
inductive Piece where
  | character (character : Char)
  | unit (code : Nat)

/-- The character that a backslash and another character stand for. -/
def shortEscape? : Char → Option Char
  | '"' => some '"'
  | '\\' => some '\\'
  | '/' => some '/'
  | 'b' => some '\x08'
  | 'f' => some '\x0c'
  | 'n' => some '\n'
  | 'r' => some '\r'
  | 't' => some '\t'
  | _ => none

/-- Reads the rest of a string behind its opening quote, and gives what follows the closing one. -/
def readPieces : List Char → Option (List Piece × List Char)
  | [] => none
  | '"' :: rest => some ([], rest)
  | '\\' :: 'u' :: first :: second :: third :: fourth :: rest => do
      let code ← codeUnit? first second third fourth
      let (pieces, rest) ← readPieces rest
      return (.unit code :: pieces, rest)
  | '\\' :: escape :: rest => do
      let character ← shortEscape? escape
      let (pieces, rest) ← readPieces rest
      return (.character character :: pieces, rest)
  | character :: rest =>
      if character.toNat < 0x20 ∨ character = '\\' then none
      else do
        let (pieces, rest) ← readPieces rest
        return (.character character :: pieces, rest)

/-- The text that pieces denote. A code unit from D800 to DBFF needs one from DC00 to DFFF behind
it, which belongs to nothing else. -/
def joinPieces : List Piece → Option (List Char)
  | [] => some []
  | .character character :: rest => (joinPieces rest).map (character :: ·)
  | .unit high :: .unit low :: rest =>
      if 0xd800 ≤ high ∧ high < 0xdc00 then
        if 0xdc00 ≤ low ∧ low < 0xe000 then
          (joinPieces rest).map
            (Char.ofNat (0x10000 + 0x400 * (high - 0xd800) + (low - 0xdc00)) :: ·)
        else none
      else if 0xdc00 ≤ high ∧ high < 0xe000 then none
      else (joinPieces (.unit low :: rest)).map (Char.ofNat high :: ·)
  | .unit code :: rest =>
      if 0xd800 ≤ code ∧ code < 0xe000 then none
      else (joinPieces rest).map (Char.ofNat code :: ·)

/-- Reads the rest of a string behind its opening quote. There is no text if the string holds half
of a surrogate pair. -/
def readString (text : List Char) : Option (Option String × List Char) :=
  (readPieces text).map fun (pieces, rest) => ((joinPieces pieces).map String.ofList, rest)

/-- An object with fields of which some may lack a name that can be read. -/
def objectOf (fields : List (Option String × Value)) : Value :=
  match fields.mapM fun (name, value) => name.map fun name => (name, value) with
  | some fields => .object fields
  | none => .unreadable

mutual

/-- Reads a value and gives what follows it. -/
def readValue : Nat → List Char → Option (Value × List Char)
  | 0, _ => none
  | steps + 1, text =>
      match skipBlanks text with
      | 'n' :: 'u' :: 'l' :: 'l' :: rest => some (.null, rest)
      | 't' :: 'r' :: 'u' :: 'e' :: rest => some (.boolean true, rest)
      | 'f' :: 'a' :: 'l' :: 's' :: 'e' :: rest => some (.boolean false, rest)
      | '"' :: rest =>
          (readString rest).map fun (text, rest) =>
            (text.elim Value.unreadable Value.string, rest)
      | '[' :: rest =>
          match skipBlanks rest with
          | ']' :: rest => some (.array [], rest)
          | rest => (readItems steps rest).map fun (items, rest) => (.array items, rest)
      | '\x7b' :: rest =>
          match skipBlanks rest with
          | '\x7d' :: rest => some (.object [], rest)
          | rest => (readFields steps rest).map fun (fields, rest) => (objectOf fields, rest)
      | rest => readNumber rest

/-- Reads the items of an array, of which there is at least one, and its closing bracket. -/
def readItems : Nat → List Char → Option (List Value × List Char)
  | 0, _ => none
  | steps + 1, text => do
      let (item, rest) ← readValue steps text
      match skipBlanks rest with
      | ',' :: rest =>
          let (items, rest) ← readItems steps rest
          return (item :: items, rest)
      | ']' :: rest => return ([item], rest)
      | _ => none

/-- Reads the fields of an object, of which there is at least one, and its closing bracket. -/
def readFields : Nat → List Char → Option (List (Option String × Value) × List Char)
  | 0, _ => none
  | steps + 1, text =>
      match skipBlanks text with
      | '"' :: rest => do
          let (name, rest) ← readString rest
          match skipBlanks rest with
          | ':' :: rest =>
              let (value, rest) ← readValue steps rest
              match skipBlanks rest with
              | ',' :: rest =>
                  let (fields, rest) ← readFields steps rest
                  return ((name, value) :: fields, rest)
              | '\x7d' :: rest => return ([(name, value)], rest)
              | _ => none
          | _ => none
      | _ => none

end

/-- Reads a document, which is one value with nothing but blanks around it. -/
def read (text : String) : Option Value :=
  match readValue (2 * text.length + 2) text.toList with
  | some (value, rest) => if (skipBlanks rest).isEmpty then some value else none
  | none => none

end SampleChart.Json
