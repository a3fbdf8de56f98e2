/-!
# Doubles as exact numbers

A finite double is a sign and `significand * 2 ^ exponent`. Decimal texts are made and compared with
this exact value in natural numbers, so that no digit depends on floating point arithmetic.
-/

namespace SampleChart.Decimal

/-- What a double stands for. -/
inductive Binary where
  | nan
  | infinite (negative : Bool)
  | finite (negative : Bool) (significand : Nat) (exponent : Int)
  deriving DecidableEq, Repr

namespace Binary

/-- The exponent of the smallest doubles. -/
def leastExponent : Int := -1074

/-- The bit in front of the fifty-two bits of a fraction, which the bits of a double leave out. -/
def leadingBit : Nat := 0x10000000000000

def signBit : Nat := 0x8000000000000000

/-- The number of exponent fields. The last of them marks what is not finite. -/
def fieldCount : Nat := 2048

/-- Splits the bits of a double into sign, exponent field and fraction. -/
def ofFloat (value : Float) : Binary :=
  let bits : Nat := value.toBits.toNat
  let negative := decide (signBit ≤ bits)
  let field : Nat := bits / leadingBit % fieldCount
  let fraction : Nat := bits % leadingBit
  if field + 1 = fieldCount then if fraction = 0 then infinite negative else nan
  else if field = 0 then finite negative fraction leastExponent
  else finite negative (leadingBit + fraction) ((field : Int) - 1075)

end Binary

/-- How a number half way between two neighbours is rounded. -/
inductive Tie where
  /-- To the larger neighbour. -/
  | up
  /-- To the neighbour that is even. -/
  | even
  deriving DecidableEq, Repr

/-- The natural number nearest to a quotient. -/
def roundQuotient (tie : Tie) (numerator denominator : Nat) : Nat :=
  let below := numerator / denominator
  let rest := numerator % denominator
  if 2 * rest < denominator then below
  else if denominator < 2 * rest then below + 1
  else
    match tie with
    | .up => below + 1
    | .even => if below % 2 = 0 then below else below + 1

/-- How many decimal digits a natural number has, of which zero has none. -/
def digitCount (number : Nat) : Nat :=
  if number = 0 then 0 else (Nat.toDigits 10 number).length

end SampleChart.Decimal
