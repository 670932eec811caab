import MetricBoard.Proofs.Number.Count
import MetricBoard.Proofs.Options.Lists
import MetricBoard.Proofs.Text.Pieces
import MetricBoard.Proofs.Yaml.Meaning

/-!
# Values that are counts

An integer is kept as its decimal text, from which it is read back if it is not negative. Neither
the absence of a value nor a truth value nor a list has a text that is read as a number, unless the
list has one item, whose text is then that of the list.
-/

namespace MetricBoard

open Yaml (Value)

/-- The value is an integer, or a list of which it is the only item. -/
def GivesInteger (value : Value) (n : Int) : Prop :=
  value.untagged = .number (.integer n) ∨
    ∃ item, value.untagged = .sequence [item] ∧ item.untagged = .number (.integer n)

/-- The value is nothing, a truth value, or a list of scalars that are none or several. Its text
belongs to it. -/
inductive GivesNoCount (value : Value) : String → Prop
  | null (is : value.untagged = .null) : GivesNoCount value ""
  | boolean {truth : Bool} (is : value.untagged = .boolean truth) :
      GivesNoCount value (toString truth)
  | list {texts : List String} (lists : ListTexts value texts) (many : texts.length ≠ 1) :
      GivesNoCount value (Text.joined listSeparator texts)

/-! ## Texts of values -/

theorem optionText?_untagged (value : Value) : value.untagged.optionText? = value.optionText? := by
  match value with
  | .tagged name inner => exact optionText?_untagged inner
  | .null | .boolean _ | .number _ | .text _ | .sequence _ | .mapping _ => rfl

/-- A list of one item has the text of the item. -/
theorem optionText?_single {item : Value} {text : String}
    (hb : item.isBareCollection = false) (h : item.optionText? = some text) :
    (Value.sequence [item]).optionText? = some text := by
  have hi : Value.itemTexts? [item] = some [text] := by
    unfold Value.itemTexts?
    rw [hb, h]
    rfl
  unfold Value.optionText?
  rw [hi, Option.map_some, Text.joined_singleton]

theorem GivesInteger.optionText? {value : Value} {n : Int} (h : GivesInteger value n) :
    value.optionText? = some (toString n) := by
  rw [← optionText?_untagged]
  rcases h with h | ⟨item, hs, hi⟩
  · rw [h]
    rfl
  · have hb : item.isBareCollection = false := by
      cases item <;> first | rfl | cases hi
    rw [hs]
    refine optionText?_single hb ?_
    rw [← optionText?_untagged, hi]
    rfl

theorem GivesNoCount.optionText? {value : Value} {text : String} (h : GivesNoCount value text) :
    value.optionText? = some text := by
  cases h with
  | null is =>
    rw [← optionText?_untagged, is]
    rfl
  | boolean is =>
    rw [← optionText?_untagged, is]
    rfl
  | list lists many => exact lists.optionText?

theorem GivesInteger.isWord {document : Yaml.Document} {depth : Nat} {node : Yaml.Node}
    {value : Value} {n : Int} (h : GivesInteger value n)
    (hm : document.Means depth node value) : Yaml.Scalar.IsWord n := by
  rcases h with h | ⟨item, hs, hi⟩
  · exact hm.isWord h
  · exact hm.isWord_of_item hs List.mem_cons_self hi

/-! ## Texts that are counts -/

theorem writesCount_of_nonneg {n : Int} (hn : 0 ≤ n) (hb : n < 2 ^ 64) :
    Number.WritesCount (toString n) n.toNat := by
  obtain ⟨size, rfl⟩ := Int.eq_ofNat_of_zero_le hn
  exact Number.writesCount_toString (by omega)

theorem not_writesCount_of_neg {n : Int} (hn : n < 0) :
    ¬ ∃ limit, Number.WritesCount (toString n) limit := by
  obtain ⟨size, rfl⟩ := Int.eq_negSucc_of_lt_zero hn
  have ht : toString (Int.negSucc size) = "-" ++ toString (size + 1) := rfl
  have hm : '-' ∈ (toString (Int.negSucc size)).toList := by
    rw [ht, String.toList_append]
    exact List.mem_append_left _ (by decide)
  exact Number.not_writesCount_of_mem hm (by decide) (by decide)

theorem mem_joined {first second : String} {texts : List String} :
    ',' ∈ (Text.joined listSeparator (first :: second :: texts)).toList := by
  unfold Text.joined
  rw [String.toList_ofList, List.map_cons, List.map_cons, List.intercalate_cons_cons]
  exact List.mem_append_left _ (List.mem_append_right _ (by decide))

theorem not_writesCount_joined {texts : List String} (h : texts.length ≠ 1) :
    ¬ ∃ limit, Number.WritesCount (Text.joined listSeparator texts) limit := by
  match texts, h with
  | [], _ => exact Number.not_writesCount_empty
  | first :: second :: texts, _ =>
    exact Number.not_writesCount_of_mem mem_joined (by decide) (by decide)

/-- Such a value is kept as a text that is no number. -/
theorem GivesNoCount.not_writesCount {value : Value} {text : String}
    (h : GivesNoCount value text) : ¬ ∃ limit, Number.WritesCount text limit := by
  cases h with
  | null => exact Number.not_writesCount_empty
  | @boolean truth is =>
    have hm : 'e' ∈ (toString truth).toList := by cases truth <;> decide
    exact Number.not_writesCount_of_mem hm (by decide) (by decide)
  | list lists many => exact not_writesCount_joined many

end MetricBoard
