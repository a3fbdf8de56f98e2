import SampleChart.Decimal.Binary

/-!
# Reading numbers

A numeral is an optional sign and either digits, with a decimal point anywhere between or beside
them and an exponent behind them, or one of the words `inf`, `infinity` and `nan` in any mixture of
cases. Nothing else is a number, and no blank may stand anywhere in it. Its double is the one
nearest to the exact value.
-/

namespace SampleChart.Decimal

/-- A numeral by its value: `finite negative coefficient exponent` is `coefficient * 10 ^ exponent`
behind its sign. -/
inductive Numeral where
  | nan
  | infinite (negative : Bool)
  | finite (negative : Bool) (coefficient : Nat) (exponent : Int)
  deriving DecidableEq, Repr

/-- The number that a row of decimal digits denotes. -/
def digitsValue (digits : List Char) : Nat :=
  digits.foldl (fun value digit => 10 * value + (digit.toNat - '0'.toNat)) 0

/-- Reads a sign, which is plus where none stands, and gives what follows it. -/
def splitSign : List Char → Bool × List Char
  | '-' :: rest => (true, rest)
  | '+' :: rest => (false, rest)
  | text => (false, text)

/-- Splits a text behind its leading decimal digits. -/
def splitDigits (text : List Char) : List Char × List Char :=
  (text.takeWhile Char.isDigit, text.dropWhile Char.isDigit)

/-- Reads the digits after a decimal point, of which there are none where no point stands. -/
def splitFraction : List Char → List Char × List Char
  | '.' :: rest => splitDigits rest
  | text => ([], text)

/-- Reads what stands behind the digits: nothing, or an exponent. -/
def exponent? : List Char → Option Int
  | [] => some 0
  | mark :: rest =>
      if mark = 'e' ∨ mark = 'E' then
        let (negative, rest) := splitSign rest
        match splitDigits rest with
        | ([], _) => none
        | (digits, []) =>
            some (if negative then -(digitsValue digits : Int) else digitsValue digits)
        | _ => none
      else none

namespace Numeral

/-- Reads a numeral without a sign that is made of digits. -/
def ofDigits? (negative : Bool) (text : List Char) : Option Numeral :=
  let (whole, rest) := splitDigits text
  let (fraction, rest) := splitFraction rest
  if whole.isEmpty && fraction.isEmpty then none
  else
    (exponent? rest).map fun exponent =>
      finite negative (digitsValue (whole ++ fraction)) (exponent - fraction.length)

def ofText? (text : List Char) : Option Numeral :=
  let (negative, rest) := splitSign text
  let word := String.ofList (rest.map Char.toLower)
  if word = "inf" ∨ word = "infinity" then some (infinite negative)
  else if word = "nan" then some nan
  else ofDigits? negative rest

/-- The double nearest to `coefficient * 10 ^ exponent`. A number of more than 310 digits before the
point is infinite, and one that begins more than 330 places behind it is zero; in between the exact
quotient is rounded. -/
def nearest (coefficient : Nat) (exponent : Int) : Float :=
  let point := digitCount coefficient + exponent
  if coefficient = 0 then 0
  else if 310 < point then 1 / 0
  else if point < -330 then 0
  else Float.ofScientific coefficient (decide (exponent < 0)) exponent.natAbs

/-- The double that a numeral denotes. -/
def toFloat : Numeral → Float
  | nan => 0 / 0
  | infinite negative => if negative then -1 / 0 else 1 / 0
  | finite negative coefficient exponent =>
      if negative then -nearest coefficient exponent else nearest coefficient exponent

end Numeral

/-- The double that a text denotes, if it is a numeral. -/
def float? (text : String) : Option Float :=
  (Numeral.ofText? text.toList).map Numeral.toFloat

end SampleChart.Decimal
