import SampleChart.Decimal.Numeral
import SampleChart.Json.Value

/-!
# JSON numbers

A number is read in a single pass with a significand of 64 bits. Digits go into the significand as
long as they fit; those of the whole part that do not fit count as factors of ten, and those of the
fraction are passed over. The double is the significand, multiplied or divided once by a power of
ten. For the numbers of few digits this is the double nearest to them, and for others it may be one
beside it.
-/

namespace SampleChart.Json

open Decimal (digitsValue splitDigits splitSign)

/-- What a number is made of, as it is written. -/
structure NumberParts where
  negative : Bool
  whole : List Char
  /-- The digits behind the point, of which there are none where no point stands. -/
  fraction : List Char
  exponent : Option Int

namespace NumberParts

/-- One more than the largest significand. -/
def significandBound : Nat := 0x10000000000000000

/-- Takes digits into a significand as long as they fit, and gives those that are left. -/
def gather (significand : Nat) : List Char → Nat × List Char
  | [] => (significand, [])
  | digit :: rest =>
      let next := 10 * significand + (digit.toNat - '0'.toNat)
      if next < significandBound then gather next rest else (significand, digit :: rest)

/-- A power of ten as a double. -/
def powerOfTen (exponent : Nat) : Float :=
  Float.ofScientific 1 false exponent

/-- The product of a significand and a power of ten, unless that is beyond the doubles. A power from
309 to 616 that divides is no double and is taken in two steps, and a greater one leaves nothing. -/
def scale (significand : Float) (exponent : Int) : Option Float :=
  if significand == 0 then some significand
  else if 308 < exponent then none
  else if 0 ≤ exponent then
    let product := significand * powerOfTen exponent.toNat
    if product.isInf then none else some product
  else if -308 ≤ exponent then some (significand / powerOfTen exponent.natAbs)
  else if -616 ≤ exponent then
    some (significand / powerOfTen 308 / powerOfTen (exponent.natAbs - 308))
  else some 0

/-- The double that a number denotes, unless it is beyond the doubles. -/
def float? (parts : NumberParts) : Option Float :=
  let (significand, wholeLeft) := gather 0 parts.whole
  let (significand, fractionLeft) := gather significand parts.fraction
  let taken : Nat := parts.fraction.length - fractionLeft.length
  let exponent : Int := wholeLeft.length - taken + parts.exponent.getD 0
  (scale (Float.ofNat significand) exponent).map fun value =>
    if parts.negative then -value else value

/-- The integer that a number denotes if it has neither a fraction nor an exponent and fits 64 bits.
Minus zero is no integer. -/
def integer? (parts : NumberParts) : Option Int :=
  let value := digitsValue parts.whole
  if !parts.fraction.isEmpty || parts.exponent.isSome then none
  else if parts.negative then
    if 0 < value ∧ 2 * value ≤ significandBound then some (-value) else none
  else if value < significandBound then some value
  else none

def value (parts : NumberParts) : Value :=
  match parts.integer? with
  | some integer => .integer integer
  | none =>
      match parts.float? with
      | some real => .real real
      | none => .unreadable

end NumberParts

/-- Reads the digits before the point: a single zero, or digits that begin with another one. -/
def readWhole (text : List Char) : Option (List Char × List Char) :=
  match splitDigits text with
  | ([], _) => none
  | (['0'], rest) => some (['0'], rest)
  | ('0' :: _, _) => none
  | (digits, rest) => some (digits, rest)

/-- Reads a point and at least one digit, if a point stands there. -/
def readFraction : List Char → Option (List Char × List Char)
  | '.' :: rest =>
      match splitDigits rest with
      | ([], _) => none
      | (digits, rest) => some (digits, rest)
  | text => some ([], text)

/-- Reads an exponent with at least one digit, if its mark stands there. -/
def readExponent : List Char → Option (Option Int × List Char)
  | [] => some (none, [])
  | mark :: rest =>
      if mark = 'e' ∨ mark = 'E' then
        let (negative, rest) := splitSign rest
        match splitDigits rest with
        | ([], _) => none
        | (digits, rest) =>
            some (some (if negative then -(digitsValue digits : Int) else digitsValue digits), rest)
      else some (none, mark :: rest)

/-- Reads a number and gives what follows it. -/
def readNumber (text : List Char) : Option (Value × List Char) := do
  let (negative, rest) :=
    match text with
    | '-' :: rest => (true, rest)
    | text => (false, text)
  let (whole, rest) ← readWhole rest
  let (fraction, rest) ← readFraction rest
  let (exponent, rest) ← readExponent rest
  return (NumberParts.value ⟨negative, whole, fraction, exponent⟩, rest)

end SampleChart.Json
