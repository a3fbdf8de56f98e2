import SampleChart.Decimal.Style
import SampleChart.Json.Value

/-!
# Printing JSON

A value is printed on one line or with every item and field on a line of its own, two blanks deeper
than what it belongs to. The two forms differ in the `Spacing` alone. An empty array or object is
printed as its two brackets in both. A double that is not finite has no JSON form and is printed as
`null`.
-/

namespace SampleChart.Json

/-- What is printed besides the brackets, commas and colons. -/
structure Spacing where
  /-- What precedes an item or a field at some depth, or the bracket that closes a depth. -/
  newline : Nat → List Char
  /-- What follows a colon. -/
  gap : List Char

/-- Every item and every field on a line of its own. -/
def pretty : Spacing := ⟨fun depth => '\n' :: List.replicate (2 * depth) ' ', [' ']⟩

/-- The form of a character inside a string: quote and backslash stand behind a backslash, control
characters have a short or a four-digit escape, and everything else stands as it is. -/
def escapedCharacter (character : Char) : List Char :=
  match character with
  | '"' => ['\\', '"']
  | '\\' => ['\\', '\\']
  | '\x08' => ['\\', 'b']
  | '\t' => ['\\', 't']
  | '\n' => ['\\', 'n']
  | '\x0c' => ['\\', 'f']
  | '\r' => ['\\', 'r']
  | _ =>
      if character.toNat < 0x20 then
        ['\\', 'u', '0', '0', Nat.digitChar (character.toNat / 16),
          Nat.digitChar (character.toNat % 16)]
      else [character]

def literal (text : String) : List Char :=
  '"' :: text.toList.flatMap escapedCharacter ++ ['"']

namespace Value

variable (spacing : Spacing)

mutual

/-- The text of a value at some depth. -/
def print (depth : Nat) : Value → List Char
  | null => ['n', 'u', 'l', 'l']
  | boolean true => ['t', 'r', 'u', 'e']
  | boolean false => ['f', 'a', 'l', 's', 'e']
  | integer value => (toString value).toList
  | real value =>
      if value.isFinite then (Decimal.document.text value).toList else ['n', 'u', 'l', 'l']
  | string text => literal text
  | array [] => ['[', ']']
  | array (item :: rest) =>
      '[' :: spacing.newline (depth + 1) ++ item.print (depth + 1) ++
        printItems (depth + 1) rest ++ spacing.newline depth ++ [']']
  | object [] => ['\x7b', '\x7d']
  | object ((name, value) :: rest) =>
      '\x7b' :: spacing.newline (depth + 1) ++ literal name ++ ':' :: spacing.gap ++
        value.print (depth + 1) ++ printFields (depth + 1) rest ++ spacing.newline depth ++ ['\x7d']
  | unreadable => ['n', 'u', 'l', 'l']

/-- The text of the items behind the first one. -/
def printItems (depth : Nat) : List Value → List Char
  | [] => []
  | item :: rest =>
      ',' :: spacing.newline depth ++ item.print depth ++ printItems depth rest

/-- The text of the fields behind the first one. -/
def printFields (depth : Nat) : List (String × Value) → List Char
  | [] => []
  | (name, value) :: rest =>
      ',' :: spacing.newline depth ++ literal name ++ ':' :: spacing.gap ++ value.print depth ++
        printFields depth rest

end

def text (value : Value) : String :=
  String.ofList (value.print spacing 0)

end Value

end SampleChart.Json
