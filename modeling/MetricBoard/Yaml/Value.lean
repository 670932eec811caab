import MetricBoard.Number.Layout
import MetricBoard.Yaml.Scalar

/-!
# Values

Trees of values, with the sameness that decides whether a mapping repeats a key.
-/

namespace MetricBoard.Yaml

inductive Numeral where
  | integer (value : Int)
  | float (value : Binary64)
  deriving DecidableEq, Repr

def Numeral.text : Numeral → String
  | .integer value => toString value
  | .float value => value.text .compact

/-- Two numbers are the same when they are of one kind and have one value. -/
def Numeral.same : Numeral → Numeral → Bool
  | .integer a, .integer b => a == b
  | .float a, .float b => a.same b
  | _, _ => false

inductive Value where
  | null
  | boolean (value : Bool)
  | number (value : Numeral)
  | text (value : String)
  | sequence (items : List Value)
  | mapping (entries : List (Value × Value))
  /-- A value under a local tag of this name. -/
  | tagged (name : String) (value : Value)
  deriving Repr

namespace Value

/-- Names of local tags are compared without an exclamation mark in front. -/
def bareName (name : String) : List Char :=
  match name.toList with
  | '!' :: c :: rest => c :: rest
  | bare => bare

mutual

/-- Two trees are the same. The order of the entries of a mapping does not count. -/
def same : Value → Value → Bool
  | .null, .null => true
  | .boolean a, .boolean b => a == b
  | .number a, .number b => a.same b
  | .text a, .text b => a == b
  | .sequence a, .sequence b => sameItems a b
  | .mapping a, .mapping b => a.length == b.length && sameEntries a b
  | .tagged n a, .tagged m b => bareName n == bareName m && same a b
  | _, _ => false
termination_by structural a => a

def sameItems : List Value → List Value → Bool
  | [], [] => true
  | a :: as, b :: bs => same a b && sameItems as bs
  | _, _ => false
termination_by structural a => a

/-- Each entry has its like among the others. -/
def sameEntries : List (Value × Value) → List (Value × Value) → Bool
  | [], _ => true
  | entry :: rest, others => others.any (sameEntry entry ·) && sameEntries rest others
termination_by structural a => a

def sameEntry : Value × Value → Value × Value → Bool
  | (key, value), other => same key other.1 && same value other.2
termination_by structural a => a

end

end Value

end MetricBoard.Yaml
