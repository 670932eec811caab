import MetricBoard.Options.Reading

/-!
# Histories of bags

A bag is used step by step. A write leaves another bag for the next step, a question leaves the
bag as it is; each step has its answer.
-/

namespace MetricBoard

/-- Something that is asked about one key, with the default for it. -/
inductive Question where
  | raw
  | text (default : String)
  | integer (default : Int)
  | count (default : Nat)
  | list (default : List String) (separator : String)
  deriving DecidableEq, Repr

/-- One use of a bag: a value written for a key, or something asked about a key or about the bag
as a whole. A bag that is changed where it stands and one that is handed on changed are used
alike. -/
inductive Use where
  | write (key value : String)
  | ask (key : String) (question : Question)
  | size
  | isEmpty
  deriving DecidableEq, Repr

/-- The answer to a use. A write has none but that it was made. -/
inductive Answer where
  | written
  | raw (value : Option String)
  | text (value : String)
  | integer (result : Except WidgetError Int)
  | count (result : Except WidgetError Nat)
  | list (items : List String)
  | size (keys : Nat)
  | isEmpty (holds : Bool)

namespace OptionBag

/-- A use that was made: the bag that it left, and its answer. -/
structure Step where
  bag : OptionBag
  answer : Answer

def reply (bag : OptionBag) (key : String) : Question → Answer
  | .raw => .raw (bag.raw key)
  | .text default => .text (bag.get key default)
  | .integer default => .integer (bag.getInt key default)
  | .count default => .count (bag.getCount key default)
  | .list default separator => .list (bag.getList key default separator)

def use (bag : OptionBag) : Use → Step
  | .write key value => ⟨bag.insert key value, .written⟩
  | .ask key question => ⟨bag, bag.reply key question⟩
  | .size => ⟨bag, .size bag.size⟩
  | .isEmpty => ⟨bag, .isEmpty bag.isEmpty⟩

/-- Uses in their order, each of the bag that the one before it left. -/
def useAll : OptionBag → List Use → List Step
  | _, [] => []
  | bag, use :: uses =>
      let step := bag.use use
      step :: useAll step.bag uses

end OptionBag

end MetricBoard
