/-!
# Digit strings

Reading a number from its digits in a base up to sixteen, and the two bounded readers for
decimal texts: counts, which are 64-bit natural numbers, and integers, which are 64-bit with a
sign. The readers take no blanks, no separators and no digits outside ASCII, and any number
of leading zeros.
-/

namespace MetricBoard.Number

/-- The value of a digit; letters of either case go on from ten. -/
def digitValue (c : Char) : Option Nat :=
  if '0' ≤ c && c ≤ '9' then some (c.toNat - '0'.toNat)
  else if 'a' ≤ c && c ≤ 'f' then some (c.toNat - 'a'.toNat + 10)
  else if 'A' ≤ c && c ≤ 'F' then some (c.toNat - 'A'.toNat + 10)
  else none

def digitIn (base : Nat) (c : Char) : Option Nat :=
  (digitValue c).filter (· < base)

/-- The value of the digits that follow those of `high`. -/
def naturalAfter (base : Nat) : Nat → List Char → Option Nat
  | high, [] => some high
  | high, c :: rest =>
      match digitIn base c with
      | some digit => naturalAfter base (high * base + digit) rest
      | none => none

/-- One or more digits of the base and nothing else. -/
def natural? (base : Nat) (text : List Char) : Option Nat :=
  if text.isEmpty then none else naturalAfter base 0 text

def countBound : Nat := Nat.pow 2 64

/-- Integers lie from the negative of this bound up to, but without, the bound itself. -/
def integerBound : Nat := Nat.pow 2 63

/-- A count: an optional plus sign and decimal digits, below the bound for counts. -/
def count? (text : List Char) : Option Nat :=
  let digits := match text with
    | '+' :: rest => rest
    | _ => text
  (natural? 10 digits).filter (· < countBound)

/-- An integer: an optional sign and decimal digits, within the bounds for integers. -/
def integer? (text : List Char) : Option Int :=
  match text with
  | '-' :: rest => ((natural? 10 rest).filter (· ≤ integerBound)).map fun n => -(n : Int)
  | '+' :: rest => ((natural? 10 rest).filter (· < integerBound)).map fun n => (n : Int)
  | _ => ((natural? 10 text).filter (· < integerBound)).map fun n => (n : Int)

end MetricBoard.Number
