/-!
# Binary floating-point numbers of 64 bits

A finite number is a sign and a whole number of units of 2 ^ -1074, kept as a significand
below 2 ^ 53 and a power of two. The module rounds an exact decimal to the nearest such
number; a tie goes to the even significand, and what lies beyond the largest one becomes
infinite. All arithmetic is on natural numbers.
-/

namespace MetricBoard

/-- A number of the format. The value of `finite negative significand shift` is
`significand * 2 ^ shift / 2 ^ 1074`, with a minus sign where `negative` says so. -/
inductive Binary64 where
  | finite (negative : Bool) (significand shift : Nat)
  | infinite (negative : Bool)
  | notANumber
  deriving DecidableEq, Repr

namespace Binary64

/-- Significands have this many binary digits at most. -/
def precision : Nat := 53

/-- The unit of the smallest numbers is two to the negative of this power. -/
def unitPower : Nat := 1074

def maxShift : Nat := 2045

/-- The quotient rounded to the nearest whole number, a tie to the even one. -/
def nearest (numerator denominator : Nat) : Nat :=
  let quotient := numerator / denominator
  let twice := 2 * (numerator % denominator)
  if twice < denominator then quotient
  else if denominator < twice then quotient + 1
  else if quotient % 2 = 0 then quotient
  else quotient + 1

/-- The number nearest to a quotient of natural numbers. -/
def ofRatio (negative : Bool) (numerator denominator : Nat) : Binary64 :=
  let units := numerator * Nat.pow 2 unitPower
  let shift := (units / denominator).log2 + 1 - precision
  let significand := nearest units (denominator * Nat.pow 2 shift)
  let (significand, shift) :=
    if significand = Nat.pow 2 precision then (Nat.pow 2 (precision - 1), shift + 1)
    else (significand, shift)
  if maxShift < shift then .infinite negative else .finite negative significand shift

/-- How many decimal digits a natural number has; zero has one. -/
def decimalLength (n : Nat) : Nat :=
  (Nat.toDigits 10 n).length

/-- The number nearest to `digits * 10 ^ exponent`. Magnitudes far outside the format are
decided by their order alone. -/
def ofDecimal (negative : Bool) (digits : Nat) (exponent : Int) : Binary64 :=
  let order := (decimalLength digits : Int) + exponent
  if digits = 0 then .finite negative 0 0
  else if 310 < order then .infinite negative
  else if order < -330 then .finite negative 0 0
  else if 0 ≤ exponent then ofRatio negative (digits * Nat.pow 10 exponent.toNat) 1
  else ofRatio negative digits (Nat.pow 10 (-exponent).toNat)

def isFinite : Binary64 → Bool
  | .finite .. => true
  | _ => false

/-- Two numbers are the same when they have one value: the sign of zero does not count, and
there is a single undefined number. -/
def same : Binary64 → Binary64 → Bool
  | .finite n s k, .finite n' s' k' => (s == 0 && s' == 0) || (n == n' && s == s' && k == k')
  | .infinite n, .infinite n' => n == n'
  | .notANumber, .notANumber => true
  | _, _ => false

end Binary64

end MetricBoard
