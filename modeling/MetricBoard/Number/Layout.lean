import MetricBoard.Number.Shortest

/-!
# Layouts of floating-point numbers

How the digits of a number are laid out as a text. A layout says which magnitudes are written
with all their places and which with an exponent, names the numbers that have no digits, and
settles which of two equally short and equally near decimals is written. A number written with all
its places always shows at least one after the point.
-/

namespace MetricBoard

/-- The decisions of one notation. `plainFrom` and `plainTo` bound the exponent of the leading
digit for which all places are written; an absent bound sets no limit. -/
structure NumberLayout where
  plainFrom : Option Int
  plainTo : Option Int
  infinity : String
  undefinedNumber : String
  tie : TieRule

namespace NumberLayout

/-- The notation of option values: all places from 0.00001 up to sixteen before the point. A tie
goes to the even digit. -/
def compact : NumberLayout := ⟨some (-5), some 15, ".inf", ".nan", .toEven⟩

/-- The notation of messages: all places always. A tie goes away from zero. -/
def positional : NumberLayout := ⟨none, none, "inf", "NaN", .away⟩

def plainText (digits : List Char) (exponent : Int) : List Char :=
  let point := (digits.length : Int) + exponent
  if 0 ≤ exponent then digits ++ List.replicate exponent.toNat '0' ++ ['.', '0']
  else if 0 < point then digits.take point.toNat ++ ['.'] ++ digits.drop point.toNat
  else ['0', '.'] ++ List.replicate (-point).toNat '0' ++ digits

/-- One digit stands before the point and the exponent follows; a lone digit has no point. -/
def exponentText (digits : List Char) (exponent : Int) : List Char :=
  let order := (digits.length : Int) + exponent - 1
  let fraction := if digits.length ≤ 1 then [] else ['.'] ++ digits.drop 1
  digits.take 1 ++ fraction ++ ['e'] ++ (toString order).toList

/-- The layout writes all places of numbers whose leading digit has this exponent. -/
def isPlain (layout : NumberLayout) (order : Int) : Bool :=
  layout.plainFrom.all (· ≤ order) && layout.plainTo.all (order ≤ ·)

def decimalText (layout : NumberLayout) (decimal : Decimal) : List Char :=
  let digits := Nat.toDigits 10 decimal.digits
  if layout.isPlain ((digits.length : Int) + decimal.exponent - 1) then
    plainText digits decimal.exponent
  else exponentText digits decimal.exponent

def sign (negative : Bool) : List Char :=
  if negative then ['-'] else []

end NumberLayout

/-- The text of a number in a layout, with the shortest digits that read back. -/
def Binary64.text (layout : NumberLayout) : Binary64 → String
  | .finite negative 0 _ => String.ofList (NumberLayout.sign negative ++ ['0', '.', '0'])
  | .finite negative significand shift =>
      String.ofList (NumberLayout.sign negative ++
        layout.decimalText (Decimal.shortest layout.tie significand shift))
  | .infinite negative => String.ofList (NumberLayout.sign negative ++ layout.infinity.toList)
  | .notANumber => layout.undefinedNumber

end MetricBoard
