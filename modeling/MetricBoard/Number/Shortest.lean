import MetricBoard.Number.Binary64

/-!
# Shortest decimals

The decimal with the fewest digits that still rounds to a given binary number, and among those
of that many digits the one nearest to it; of two that are equally near, a tie rule takes one. The
search asks, for one digit, two digits and so on, whether one of the two neighbours on that
decimal grid lies in the interval of values that round to the number; the ends of the interval
belong to it when the significand is even.
-/

namespace MetricBoard

/-- A positive decimal: `digits * 10 ^ exponent`. -/
structure Decimal where
  digits : Nat
  exponent : Int
  deriving DecidableEq, Repr

/-- Which of two equally near decimals is taken: the one with an even last digit, or the one
that is greater in magnitude. -/
inductive TieRule where
  | toEven
  | away
  deriving DecidableEq, Repr

/-- Of the two points around a tie, the lower one is taken. -/
def TieRule.takesLower (tie : TieRule) (lower : Nat) : Bool :=
  match tie with
  | .toEven => lower % 2 == 0
  | .away => false

namespace Decimal

/-- The greatest power of ten that does not exceed the quotient. -/
def orderOf (numerator denominator : Nat) : Int :=
  if denominator ≤ numerator then (Binary64.decimalLength (numerator / denominator) : Int) - 1
  else -(Binary64.decimalLength ((denominator + numerator - 1) / numerator - 1) : Int)

/-- The values that round to one number, over a common denominator. -/
structure Neighbourhood where
  low : Nat
  value : Nat
  high : Nat
  denominator : Nat
  endsIncluded : Bool

/-- The values that round to `significand * 2 ^ shift / 2 ^ 1074`. Below a power of two the
gap is half as wide as above it. -/
def Neighbourhood.of (significand shift : Nat) : Neighbourhood where
  low :=
    if significand = Nat.pow 2 (Binary64.precision - 1) && 0 < shift then
      (4 * significand - 1) * Nat.pow 2 shift
    else (4 * significand - 2) * Nat.pow 2 shift
  value := 4 * significand * Nat.pow 2 shift
  high := (4 * significand + 2) * Nat.pow 2 shift
  denominator := 4 * Nat.pow 2 Binary64.unitPower
  endsIncluded := significand % 2 = 0

/-- The nearest grid point of the given exponent that lies in the neighbourhood. -/
def Neighbourhood.gridPoint? (around : Neighbourhood) (tie : TieRule) (exponent : Int) :
    Option Nat :=
  let up := Nat.pow 10 exponent.toNat * around.denominator
  let down := Nat.pow 10 (-exponent).toNat
  let below := around.value * down / up
  let remainder := around.value * down % up
  let inside (point : Nat) : Bool :=
    if around.endsIncluded then around.low * down ≤ point * up && point * up ≤ around.high * down
    else around.low * down < point * up && point * up < around.high * down
  let preferBelow :=
    2 * remainder < up || (2 * remainder == up && tie.takesLower below)
  if inside below && (preferBelow || !inside (below + 1)) then some below
  else if inside (below + 1) then some (below + 1)
  else none

/-- The first grid with a point in the neighbourhood, of `tries` grids from `exponent` down. -/
def Neighbourhood.firstPoint (around : Neighbourhood) (tie : TieRule) :
    (tries : Nat) → Int → Decimal
  | 0, exponent => ⟨around.value / around.denominator, exponent⟩
  | tries + 1, exponent =>
      match around.gridPoint? tie exponent with
      | some point => ⟨point, exponent⟩
      | none => around.firstPoint tie tries (exponent - 1)

/-- Zeros at the end of the digits become part of the exponent; `fuel` bounds their number. -/
def withoutTrailingZeros : (fuel : Nat) → Decimal → Decimal
  | 0, d => d
  | fuel + 1, d =>
      if d.digits % 10 = 0 && d.digits ≠ 0 then
        withoutTrailingZeros fuel ⟨d.digits / 10, d.exponent + 1⟩
      else d

/-- The shortest decimal of a positive number. Seventeen digits always suffice. -/
def shortest (tie : TieRule) (significand shift : Nat) : Decimal :=
  let around := Neighbourhood.of significand shift
  let order := orderOf around.value around.denominator
  withoutTrailingZeros 20 (around.firstPoint tie 17 order)

end Decimal

end MetricBoard
