import MetricBoard.Options.Reading
import MetricBoard.Proofs.Text.Trim

/-!
# The items of a text

A text that is cut at one character has as its items the pieces that are not blank, each without
the blanks around it. Blanks at the ends of the whole text make no difference to the items, and
the items of texts that are joined with the separator are those of the texts, one after the other.
-/

namespace MetricBoard.Text

/-- The pieces between separators without the blanks around them, where anything is left. -/
def items (separator : Char) (text : List Char) : List (List Char) :=
  ((text.splitOn separator).map trim).filter (!·.isEmpty)

theorem ontoFirst_eq_modifyHead (c : Char) {parts : List (List Char)} (h : parts ≠ []) :
    ontoFirst c parts = parts.modifyHead (List.cons c) := by
  cases parts with
  | nil => exact absurd rfl h
  | cons part parts => rfl

theorem pieces_singleton (separator : Char) (text : List Char) :
    pieces [separator] text = text.splitOn separator := by
  change piecesAfter [separator] 0 text = text.splitOn separator
  induction text with
  | nil => rfl
  | cons c rest ih =>
    have hs : [separator].isPrefixOf (c :: rest) = (c == separator) := by
      simp [List.isPrefixOf, Bool.beq_comm (a := separator)]
    rw [List.splitOn_cons_eq_if_modifyHead, piecesAfter, hs, List.length_singleton, Nat.sub_self,
      ih, ontoFirst_eq_modifyHead c (List.splitOn_ne_nil separator rest)]

/-! ## Blanks at the ends of the text -/

theorem items_cons_blank {c : Char} (h : isBlank c = true) (separator : Char) (text : List Char) :
    items separator (c :: text) = items separator text := by
  unfold items
  rw [List.splitOn_cons_eq_if_modifyHead]
  split
  · rfl
  · -- The blank comes in front of the first piece, where trimming takes it away.
    cases hs : text.splitOn separator with
    | nil => exact absurd hs (List.splitOn_ne_nil separator text)
    | cons piece rest =>
      have hc : AllBlank [c] := by simpa [AllBlank] using h
      have ht : trim (c :: piece) = trim piece := trim_prepend hc piece
      rw [List.modifyHead_cons, List.map_cons, List.map_cons, ht]

theorem splitOn_concat {c separator : Char} (h : c ≠ separator) (text : List Char) :
    ∃ front last, text.splitOn separator = front ++ [last] ∧
      (text ++ [c]).splitOn separator = front ++ [last ++ [c]] := by
  induction text with
  | nil => exact ⟨[], [], rfl, by simp [List.splitOn_cons_eq_if_modifyHead, h]⟩
  | cons d text ih =>
    obtain ⟨front, last, ht, hc⟩ := ih
    rw [List.cons_append, List.splitOn_cons_eq_if_modifyHead, List.splitOn_cons_eq_if_modifyHead,
      ht, hc]
    split
    · exact ⟨[] :: front, last, rfl, rfl⟩
    · cases front with
      | nil => exact ⟨[], d :: last, rfl, rfl⟩
      | cons piece front => exact ⟨(d :: piece) :: front, last, rfl, rfl⟩

theorem items_concat_blank {c : Char} (h : isBlank c = true) (separator : Char)
    (text : List Char) : items separator (text ++ [c]) = items separator text := by
  unfold items
  by_cases hc : c = separator
  · subst hc
    rw [List.splitOn_append_cons_self, List.splitOn_nil, List.map_append, List.filter_append]
    exact List.append_nil _
  · obtain ⟨front, last, ht, hs⟩ := splitOn_concat hc text
    have hl : trim (last ++ [c]) = trim last :=
      trim_append (by simpa [AllBlank] using h) last
    rw [ht, hs, List.map_append, List.map_append, List.map_singleton, List.map_singleton, hl]

theorem items_trim (separator : Char) (text : List Char) :
    items separator (trim text) = items separator text := by
  obtain ⟨before, after, hb, ha, ht⟩ := surrounds_trim text
  have hfront : ∀ rest, items separator (before ++ rest) = items separator rest := by
    intro rest
    clear ht
    induction before with
    | nil => rfl
    | cons c before ih =>
      rw [List.cons_append, items_cons_blank (hb c List.mem_cons_self)]
      exact ih fun d hd => hb d (List.mem_cons_of_mem _ hd)
  have hback : items separator (trim text ++ after) = items separator (trim text) := by
    clear ht
    induction after using List.reverseRecOn with
    | nil => rw [List.append_nil]
    | append_singleton after c ih =>
      rw [← List.append_assoc, items_concat_blank (ha c (by simp))]
      exact ih fun d hd => ha d (List.mem_append_left _ hd)
  have hw : items separator text = items separator (before ++ trim text ++ after) := by rw [← ht]
  rw [hw, List.append_assoc, hfront, hback]

/-! ## Joined texts -/

/-- Texts with a separator between them have the items of the one and then of the other. -/
theorem items_append (separator : Char) (text rest : List Char) :
    items separator (text ++ separator :: rest) =
      items separator text ++ items separator rest := by
  unfold items
  rw [List.splitOn_append_cons_self, List.map_append, List.filter_append]

theorem items_intercalate (separator : Char) (texts : List (List Char)) :
    items separator ([separator].intercalate texts) = texts.flatMap (items separator) := by
  induction texts with
  | nil => rfl
  | cons text texts ih =>
    cases texts with
    | nil => simp [List.intercalate]
    | cons next texts =>
      rw [List.intercalate_cons_cons, List.append_assoc, List.singleton_append, items_append, ih,
        List.flatMap_cons (x := text)]

/-- A text without separator, and without blanks at its ends, is its own only item. -/
theorem items_self {separator : Char} {text : List Char} (hs : separator ∉ text)
    (hb : trim text = text) (hn : text ≠ []) : items separator text = [text] := by
  unfold items
  rw [List.splitOn_eq_singleton hs, List.map_singleton, hb]
  simp [hn]

end MetricBoard.Text

namespace MetricBoard.OptionBag

theorem items_of_char {separator : String} {c : Char} (h : separator.toList = [c])
    (value : String) : items separator value = (Text.items c value.toList).map String.ofList := by
  unfold items Text.trimmed
  rw [h, Text.pieces_singleton, ← Text.items_trim]
  rfl

/-- A list reads from the joined texts the items of each of them. -/
theorem items_joined {separator : String} {c : Char} (h : separator.toList = [c])
    (texts : List String) :
    items separator (Text.joined separator texts) =
      texts.flatMap fun text => (Text.items c text.toList).map String.ofList := by
  rw [items_of_char h, Text.joined, String.toList_ofList, h, Text.items_intercalate,
    List.map_flatMap, List.flatMap_map]

end MetricBoard.OptionBag
