import SampleChart.Decimal.Binary

/-!
# Shortest digits

The shortest decimal form of a double is a point of the coarsest decimal grid that meets the
interval of the numbers that round to the double; of two such points it is the nearer one. The ends
of the interval belong to it if the significand is even. It reaches half a unit up and down, but
only a quarter down where the doubles below lie twice as close.

Only the two neighbours of the double on a grid have to be tried: if any point of the grid lies in
the interval, one of these does.
-/

namespace SampleChart.Decimal

/-- The number `coefficient * 10 ^ exponent`. -/
structure Digits where
  coefficient : Nat
  exponent : Int
  deriving DecidableEq, Repr

/-- The numbers that round to a double, in quarters of its last place. -/
structure Span where
  low : Nat
  value : Nat
  high : Nat
  closed : Bool

namespace Span

/-- The span of `significand * 2 ^ exponent`. -/
def of (significand : Nat) (exponent : Int) : Span where
  low :=
    if significand = Binary.leadingBit ∧ Binary.leastExponent < exponent then 4 * significand - 1
    else 4 * significand - 2
  value := 4 * significand
  high := 4 * significand + 2
  closed := significand % 2 == 0

/-- Whether a multiple of a grid's step lies in the span, where a quarter of the last place is
`numerator / denominator` steps. -/
def contains (span : Span) (numerator denominator multiple : Nat) : Bool :=
  if span.closed then
    span.low * numerator ≤ multiple * denominator && multiple * denominator ≤ span.high * numerator
  else
    span.low * numerator < multiple * denominator && multiple * denominator < span.high * numerator

/-- The multiple of a grid's step that lies in the span and next to its double, if there is one. -/
def multiple? (span : Span) (tie : Tie) (numerator denominator : Nat) : Option Nat :=
  let below := span.value * numerator / denominator
  match span.contains numerator denominator below,
      span.contains numerator denominator (below + 1) with
  | true, true => some (roundQuotient tie (span.value * numerator) denominator)
  | true, false => some below
  | false, true => some (below + 1)
  | false, false => none

end Span

/-- The least `place` with `significand * 2 ^ exponent < 10 ^ place`. -/
def magnitude (significand : Nat) (exponent : Int) : Int :=
  let numerator := significand * Nat.pow 2 exponent.toNat
  let denominator := Nat.pow 2 (-exponent).toNat
  if denominator ≤ numerator then digitCount (numerator / denominator)
  else 1 - digitCount ((denominator - 1) / numerator)

/-- Goes through ever finer decimal grids, one power of ten at a time, to the first with a point in
the span. -/
def coarsest (tie : Tie) (span : Span) (exponent : Int) : Nat → Int → Digits
  | 0, place => ⟨0, place⟩
  | steps + 1, place =>
      let numerator := Nat.pow 2 (exponent - 2).toNat * Nat.pow 10 (-place).toNat
      let denominator := Nat.pow 2 (2 - exponent).toNat * Nat.pow 10 place.toNat
      match span.multiple? tie numerator denominator with
      | some multiple => ⟨multiple, place⟩
      | none => coarsest tie span exponent steps (place - 1)

/-- The shortest digits that read back as `significand * 2 ^ exponent`. Seventeen digits are always
enough, so the search ends before its steps do. -/
def shortest (tie : Tie) (significand : Nat) (exponent : Int) : Digits :=
  coarsest tie (Span.of significand exponent) exponent 20 (magnitude significand exponent)

end SampleChart.Decimal
