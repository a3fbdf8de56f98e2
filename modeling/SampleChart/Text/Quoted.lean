import SampleChart.Text.Printable

/-!
# Quoted text

Messages show a line of the input between double quotes. Tab, carriage return, line feed and the
null character have a short escape, the quote and the backslash are written behind a backslash, and
a character that cannot be seen by itself is written by its code in hexadecimal digits. The single
quote stands as it is.
-/

namespace SampleChart.Text

/-- The code of a character between braces, behind a backslash and a `u`. -/
def codeEscape (character : Char) : List Char :=
  ['\\', 'u', '\x7b'] ++ Nat.toDigits 16 character.toNat ++ ['\x7d']

/-- The form of one character inside quotes. -/
def quotedCharacter (character : Char) : List Char :=
  match character with
  | '\x00' => ['\\', '0']
  | '\t' => ['\\', 't']
  | '\r' => ['\\', 'r']
  | '\n' => ['\\', 'n']
  | '"' => ['\\', '"']
  | '\\' => ['\\', '\\']
  | _ =>
      if isExtending character || !isPrintable character then codeEscape character
      else [character]

/-- The text between double quotes, with every character in its quoted form. -/
def quoted (text : String) : String :=
  String.ofList ('"' :: text.toList.flatMap quotedCharacter ++ ['"'])

end SampleChart.Text
