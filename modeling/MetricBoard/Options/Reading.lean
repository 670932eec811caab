import MetricBoard.Error
import MetricBoard.Number.Digits
import MetricBoard.Options.Bag
import MetricBoard.Text.Parts

/-!
# Typed readings of options

The options that widgets know are the settings; others may be given and are passed on to the
display. Values stay texts until a number or a list is asked for. A number is read from the text as
it stands; a list is cut at a separator, its items are trimmed and blank ones left out.
-/

namespace MetricBoard

/-- An option with a meaning for some widget. -/
inductive Setting where
  | repository
  | title
  | rowLimit
  | metrics
  | order
  | scope
  | startDate
  | endDate
  deriving DecidableEq, Repr

namespace Setting

def all : List Setting :=
  [.repository, .title, .rowLimit, .metrics, .order, .scope, .startDate, .endDate]

def key : Setting → String
  | .repository => "repository"
  | .title => "title"
  | .rowLimit => "row_limit"
  | .metrics => "metrics"
  | .order => "order"
  | .scope => "scope"
  | .startDate => "start_date"
  | .endDate => "end_date"

theorem mem_all (setting : Setting) : setting ∈ all := by cases setting <;> decide

end Setting

/-- What separates the items of a list. -/
def listSeparator : String := ","

namespace OptionBag

/-- A number read from the value of a key; the default where there is no value. -/
def readNumber {α : Type} (bag : OptionBag) (read : List Char → Option α) (key : String)
    (default : α) : Except WidgetError α :=
  match bag.raw key with
  | none => .ok default
  | some value =>
      match read value.toList with
      | some number => .ok number
      | none => .error (.invalidNumber "" key value)

def getInt (bag : OptionBag) (key : String) (default : Int) : Except WidgetError Int :=
  bag.readNumber Number.integer? key default

def getCount (bag : OptionBag) (key : String) (default : Nat) : Except WidgetError Nat :=
  bag.readNumber Number.count? key default

/-- The items of a text: its trimmed pieces that are not blank. -/
def items (separator value : String) : List String :=
  let pieces := (Text.pieces separator.toList (Text.trimmed value)).map Text.trim
  (pieces.filter (!·.isEmpty)).map String.ofList

/-- A list. A value without items counts as none and yields the default. -/
def getList (bag : OptionBag) (key : String) (default : List String) (separator : String) :
    List String :=
  match bag.raw key with
  | none => default
  | some value =>
      match items separator value with
      | [] => default
      | first :: rest => first :: rest

/-! A reader sees nothing of the bag but the value of its key. -/

theorem readNumber_congr {α : Type} {bag other : OptionBag} {key : String}
    (h : bag.raw key = other.raw key) (read : List Char → Option α) (default : α) :
    bag.readNumber read key default = other.readNumber read key default := by
  unfold readNumber
  rw [h]

theorem getList_congr {bag other : OptionBag} {key : String} (h : bag.raw key = other.raw key)
    (default : List String) (separator : String) :
    bag.getList key default separator = other.getList key default separator := by
  unfold getList
  rw [h]

end OptionBag

end MetricBoard
