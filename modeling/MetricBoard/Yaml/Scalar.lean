import MetricBoard.Number.Binary64
import MetricBoard.Number.Digits
import MetricBoard.Yaml.Tag

/-!
# Scalars

What one scalar means. A plain scalar is resolved by its text, in this order: absence, truth
values, integers, floating-point numbers, and text for everything else. A tag of a standard
kind forces that kind.
-/

namespace MetricBoard.Yaml

inductive Scalar where
  | null
  | boolean (value : Bool)
  /-- An integer of 64 bits, with or without a sign. -/
  | integer (value : Int)
  /-- An integer of 128 bits that 64 bits cannot hold. -/
  | wideInteger (value : Int)
  | float (value : Binary64)
  | text (value : String)
  deriving DecidableEq, Repr

inductive ForcedKind where
  | boolean
  | integer
  | float
  | null
  deriving DecidableEq, Repr

namespace Scalar

/-- The spellings of no value. -/
def isNull (text : String) : Bool :=
  ["~", "null", "Null", "NULL"].contains text

/-- The spellings of the truth values. -/
def boolean? (text : String) : Option Bool :=
  if ["true", "True", "TRUE"].contains text then some true
  else if ["false", "False", "FALSE"].contains text then some false
  else none

def splitSign (text : List Char) : Option Char × List Char :=
  match text with
  | '+' :: rest => (some '+', rest)
  | '-' :: rest => (some '-', rest)
  | _ => (none, text)

/-- Digits with a needless zero in front, perhaps after a sign. They are text. -/
def isZeroPadded (text : List Char) : Bool :=
  match (splitSign text).2 with
  | '0' :: c :: rest => (c :: rest).all Char.isDigit
  | _ => false

/-- A natural number, in decimal digits or in another base after its mark. -/
def magnitude? (text : List Char) : Option Nat :=
  match text with
  | '0' :: 'x' :: digits => Number.natural? 16 digits
  | '0' :: 'o' :: digits => Number.natural? 8 digits
  | '0' :: 'b' :: digits => Number.natural? 2 digits
  | _ => if isZeroPadded text then none else Number.natural? 10 text

/-- An integer of any size, with an optional sign. -/
def wholeNumber? (text : List Char) : Option Int :=
  match splitSign text with
  | (some '-', rest) => (magnitude? rest).map fun n => -(n : Int)
  | (_, rest) => (magnitude? rest).map fun n => (n : Int)

/-- An integer that these many bits hold, whether one of them is the sign or not. -/
def fitsIn (bits : Nat) (n : Int) : Bool :=
  match n with
  | .ofNat size => size < Nat.pow 2 bits
  | .negSucc size => size < Nat.pow 2 (bits - 1)

/-- An integer as a scalar, if 128 bits hold it. -/
def ofInteger? (n : Int) : Option Scalar :=
  if fitsIn 64 n then some (.integer n)
  else if fitsIn 128 n then some (.wideInteger n)
  else none

def integer? (text : String) : Option Scalar :=
  (wholeNumber? text.toList).bind ofInteger?

def exponent? (text : List Char) : Option Int :=
  match text with
  | [] => some 0
  | c :: rest =>
      if c == 'e' || c == 'E' then
        match splitSign rest with
        | (some '-', digits) => (Number.natural? 10 digits).map fun n => -(n : Int)
        | (_, digits) => (Number.natural? 10 digits).map fun n => (n : Int)
      else none

/-- A decimal without a sign: digits with a point somewhere or none, and an exponent. -/
def decimal? (negative : Bool) (text : List Char) : Option Binary64 := do
  let whole := text.takeWhile Char.isDigit
  let rest := text.dropWhile Char.isDigit
  let (fraction, rest) :=
    match rest with
    | '.' :: rest => (rest.takeWhile Char.isDigit, rest.dropWhile Char.isDigit)
    | _ => ([], rest)
  let digits ← Number.natural? 10 (whole ++ fraction)
  let exponent ← exponent? rest
  let value := Binary64.ofDecimal negative digits (exponent - fraction.length)
  if value.isFinite then some value else none

/-- The floating-point number that a text spells. Decimals beyond the format are none. -/
def float? (text : String) : Option Binary64 :=
  if [".inf", ".Inf", ".INF", "+.inf", "+.Inf", "+.INF"].contains text then
    some (.infinite false)
  else if ["-.inf", "-.Inf", "-.INF"].contains text then some (.infinite true)
  else if [".nan", ".NaN", ".NAN"].contains text then some .notANumber
  else
    match splitSign text.toList with
    | (some '-', rest) => decimal? true rest
    | (_, rest) => decimal? false rest

/-- The meaning of a plain scalar without a forcing tag. -/
def ofPlain (text : String) : Scalar :=
  if text.isEmpty || isNull text then .null
  else
    match boolean? text, integer? text with
    | some value, _ => .boolean value
    | _, some scalar => scalar
    | _, _ =>
        if isZeroPadded text.toList then .text text
        else
          match float? text with
          | some value => .float value
          | none => .text text

def forcedKind? (tag : Tag) : Option ForcedKind :=
  if tag == .core "bool" then some .boolean
  else if tag == .core "int" then some .integer
  else if tag == .core "float" then some .float
  else if tag == .core "null" then some .null
  else none

/-- A scalar of a forced kind, if its text spells one. -/
def ofForced? (kind : ForcedKind) (text : String) : Option Scalar :=
  match kind with
  | .boolean => (boolean? text).map .boolean
  | .integer => integer? text
  | .float => (float? text).map .float
  | .null => if isNull text then some .null else none

/-- The meaning of a scalar. Under a local tag a plain scalar is resolved as without one;
under any other tag that forces no kind, and in quotes, a scalar is text. A text that does not
spell the forced kind is refused with that kind. -/
def resolve (tag : Option Tag) (style : ScalarStyle) (text : String) :
    Except ForcedKind Scalar :=
  match tag with
  | none => .ok (if style == .plain then ofPlain text else .text text)
  | some tag =>
      match forcedKind? tag with
      | some kind =>
          match ofForced? kind text with
          | some scalar => .ok scalar
          | none => .error kind
      | none => .ok (if tag.isLocal && style == .plain then ofPlain text else .text text)

end Scalar

end MetricBoard.Yaml
