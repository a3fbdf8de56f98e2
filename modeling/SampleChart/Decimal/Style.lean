import SampleChart.Decimal.Shortest

/-!
# Decimal texts of doubles

A `Style` says how the shortest digits of a double are laid out. Two styles are in use: plain
numbers, in messages and in the commands of a chart, and the numbers of a JSON document. `fixed` is
the third form, with a given number of places, for listings.
-/

namespace SampleChart.Decimal

/-- The choices that turn shortest digits into a text. -/
structure Style where
  /-- Which of two equally near shortest forms is written. -/
  tie : Tie
  /-- The positions of the decimal point, counted from the first digit, that are written without an
  exponent; all of them if there are no bounds. -/
  positional : Option (Int × Int)
  /-- Whether a whole number ends in a point and a zero. -/
  pointed : Bool

/-- Numbers in messages and chart commands never have an exponent, nor a point that they can do
without. -/
def plain : Style := ⟨.up, none, false⟩

/-- Numbers in a JSON document have an exponent below 0.00001 and from 10 to the 16 on, and without
an exponent always a point. -/
def document : Style := ⟨.even, some (-4, 16), true⟩

def signText (negative : Bool) : List Char :=
  if negative then ['-'] else []

namespace Style

/-- Whether digits with the decimal point at this position are written without an exponent. -/
def isPositional (style : Style) (point : Int) : Bool :=
  match style.positional with
  | none => true
  | some (low, high) => low ≤ point && point ≤ high

/-- Digits with the decimal point behind the first `point` of them. -/
def positionalText (style : Style) (digits : List Char) (point : Int) : List Char :=
  if point ≤ 0 then ['0', '.'] ++ List.replicate (-point).toNat '0' ++ digits
  else if point < digits.length then digits.take point.toNat ++ '.' :: digits.drop point.toNat
  else
    digits ++ List.replicate (point.toNat - digits.length) '0' ++
      if style.pointed then ['.', '0'] else []

/-- Digits with the decimal point behind the first one, and an exponent that makes up for it. -/
def scientificText (digits : List Char) (point : Int) : List Char :=
  let exponent := point - 1
  digits.take 1 ++ (if digits.length ≤ 1 then [] else '.' :: digits.drop 1) ++
    'e' :: (if exponent < 0 then '-' else '+') :: Nat.toDigits 10 exponent.natAbs

/-- The text of `significand * 2 ^ exponent`. -/
def magnitudeText (style : Style) (significand : Nat) (exponent : Int) : List Char :=
  if significand = 0 then if style.pointed then ['0', '.', '0'] else ['0']
  else
    let shortest := shortest style.tie significand exponent
    let digits := Nat.toDigits 10 shortest.coefficient
    let point := digits.length + shortest.exponent
    if style.isPositional point then style.positionalText digits point
    else scientificText digits point

def text (style : Style) (value : Float) : String :=
  match Binary.ofFloat value with
  | .nan => "NaN"
  | .infinite negative => String.ofList (signText negative ++ ['i', 'n', 'f'])
  | .finite negative significand exponent =>
      String.ofList (signText negative ++ style.magnitudeText significand exponent)

end Style

/-- The digits of a number, with so many zeros before them that one digit is left in front of the
places. -/
def paddedDigits (places number : Nat) : List Char :=
  let digits := Nat.toDigits 10 number
  List.replicate (places + 1 - digits.length) '0' ++ digits

/-- The text of a double with a given number of places, which is its exact value rounded with a half
going to the even neighbour. The sign stays even if nothing else is left of a negative number. -/
def fixed (places : Nat) (value : Float) : String :=
  match Binary.ofFloat value with
  | .nan => "NaN"
  | .infinite negative => String.ofList (signText negative ++ ['i', 'n', 'f'])
  | .finite negative significand exponent =>
      let scaled :=
        roundQuotient .even (significand * Nat.pow 2 exponent.toNat * Nat.pow 10 places)
          (Nat.pow 2 (-exponent).toNat)
      let padded := paddedDigits places scaled
      let whole := padded.length - places
      String.ofList
        (signText negative ++ padded.take whole ++ '.' :: padded.drop whole)

end SampleChart.Decimal
