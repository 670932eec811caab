import MetricBoard.Text.Quoted
import MetricBoard.Yaml.Source
import MetricBoard.Yaml.Value

/-!
# Problems with a document

Why a well-formed document cannot be read as what it should be: what is wrong, at which path
from the root, and where in the text.
-/

namespace MetricBoard.Yaml

/-- The way from the root to a node. -/
inductive Path where
  | root
  | field (parent : Path) (name : String)
  | item (parent : Path) (index : Nat)
  /-- The value under a key that is not written out. -/
  | unnamed (parent : Path)
  deriving DecidableEq, Repr

namespace Path

/-- The text of a path: names with points between them, and indices in square brackets. -/
def text : Path → String
  | .root => "."
  | .field .root name => name
  | .field parent name => parent.text ++ "." ++ name
  | .item parent index => parent.text ++ "[" ++ toString index ++ "]"
  | .unnamed .root => "?"
  | .unnamed parent => parent.text ++ ".?"

end Path

inductive Found where
  | scalar (value : Scalar)
  | sequence
  | mapping
  deriving DecidableEq, Repr

def Found.text : Found → String
  | .scalar .null => "unit value"
  | .scalar (.boolean value) => "boolean \x60" ++ toString value ++ "\x60"
  | .scalar (.integer value) => "integer \x60" ++ toString value ++ "\x60"
  | .scalar (.wideInteger value) =>
      "integer \x60" ++ toString value ++ "\x60 as " ++ (if value < 0 then "i128" else "u128")
  | .scalar (.float value) => "floating point \x60" ++ value.text .positional ++ "\x60"
  | .scalar (.text value) => "string " ++ Text.quoted value
  | .sequence => "sequence"
  | .mapping => "map"

def ForcedKind.text : ForcedKind → String
  | .boolean => "a boolean"
  | .integer => "an integer"
  | .float => "a float"
  | .null => "null"

inductive KeyLabel where
  | null
  | boolean (value : Bool)
  | number (digits : String)
  | text (value : String)
  | compound
  deriving DecidableEq, Repr

namespace KeyLabel

def of : Value → KeyLabel
  | .null => .null
  | .boolean value => .boolean value
  | .number value => .number value.text
  | .text value => .text value
  | .sequence _ | .mapping _ | .tagged .. => .compound

def words : KeyLabel → String
  | .null => "with null key"
  | .boolean value => "with key \x60" ++ toString value ++ "\x60"
  | .number digits => "with key " ++ digits
  | .text value => "with key " ++ Text.quoted value
  | .compound => "in YAML map"

end KeyLabel

/-- What is wrong at a node. -/
inductive Complaint where
  | wrongShape (found : Found) (wanted : String)
  | unfitText (text : String) (wanted : ForcedKind)
  | missingField (name : String)
  | repeatedField (name : String)
  | repeatedKey (key : KeyLabel)
  /-- An option whose value has no text. -/
  | optionWithoutText (key : String)
  deriving DecidableEq, Repr

def Complaint.text : Complaint → String
  | .wrongShape found wanted => "invalid type: " ++ found.text ++ ", expected " ++ wanted
  | .unfitText text wanted =>
      "invalid value: string " ++ Text.quoted text ++ ", expected " ++ wanted.text
  | .missingField name => "missing field \x60" ++ name ++ "\x60"
  | .repeatedField name => "duplicate field \x60" ++ name ++ "\x60"
  | .repeatedKey key => "duplicate entry " ++ key.words
  | .optionWithoutText key => "option '" ++ key ++ "' must be a scalar or a list of scalars"

inductive Problem where
  | complaint (what : Complaint) (path : Path) (mark : Mark)
  | tooDeep (mark : Mark)
  | tooManyAliases
  deriving DecidableEq, Repr

namespace Problem

/-- The place in words; the start of the text is not mentioned. -/
def placeText (mark : Mark) : String :=
  if mark.isStart then "" else " at " ++ mark.text

/-- The path in front of a complaint; the root is not mentioned. -/
def pathText (path : Path) : String :=
  if path = .root then "" else path.text ++ ": "

/-- The wording of a problem. -/
def text : Problem → String
  | .complaint what path mark => pathText path ++ what.text ++ placeText mark
  | .tooDeep mark => "recursion limit exceeded" ++ placeText mark
  | .tooManyAliases => "repetition limit exceeded"

end Problem

end MetricBoard.Yaml
