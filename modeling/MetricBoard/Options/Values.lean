import MetricBoard.Options.Reading
import MetricBoard.Yaml.Value

/-!
# Options from values

An option is given as a scalar or as a list of scalars, and is kept as text: a list as the texts
of its items with the list separator between them, which is how lists are read from options.
-/

namespace MetricBoard

namespace Yaml.Value

/-- A collection without a tag, which is no item of a list. -/
def isBareCollection : Value → Bool
  | .sequence _ | .mapping _ => true
  | _ => false

mutual

/-- The text of a value, if it has one. A tag is passed over. -/
def optionText? : Value → Option String
  | .null => some ""
  | .boolean value => some (toString value)
  | .number value => some value.text
  | .text value => some value
  | .sequence items => (itemTexts? items).map (Text.joined listSeparator)
  | .mapping _ => none
  | .tagged _ value => optionText? value
termination_by structural value => value

/-- The texts of the items of a list, if all have one. Lists do not hold bare collections. -/
def itemTexts? : List Value → Option (List String)
  | [] => some []
  | item :: items =>
      if item.isBareCollection then none
      else
        match optionText? item, itemTexts? items with
        | some first, some rest => some (first :: rest)
        | _, _ => none
termination_by structural items => items

end

end Yaml.Value

namespace OptionBag

open Yaml (Value)

/-- The entries without those that a later one of the same key replaces. -/
def lastOfEach {α : Type} : List (String × α) → List (String × α)
  | [] => []
  | entry :: rest =>
      if rest.any (·.1 == entry.1) then lastOfEach rest else entry :: lastOfEach rest

instance : Min String := minOfLe

def keysWithoutText (entries : List (String × Value)) : List String :=
  (entries.filter (·.2.optionText?.isNone)).map (·.1)

/-- The bag of entries of which the last counts for each key. The error is the first key in
ascending order whose value has no text. -/
def ofValues (entries : List (String × Value)) : Except String OptionBag :=
  let last := lastOfEach entries
  match (keysWithoutText last).min? with
  | some key => .error key
  | none => .ok (ofList (last.filterMap fun entry => entry.2.optionText?.map (entry.1, ·)))

end OptionBag

end MetricBoard
