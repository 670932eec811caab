import MetricBoard.Proofs.Options.Lists
import MetricBoard.Proofs.Text.Pieces

/-!
# Reading lists

What is read as a list does not depend on the default, unless the default is all there is to read.
With a separator of one character it is the trimmed segments of the value that are not blank, and a
list that is written back with the separator is read again as it was. With any separator but the
empty one the items are clean; the empty separator makes an item of each character.
-/

namespace MetricBoard.OptionBag

/-- Whatever the default is, it is what is read. -/
def FallsBack (bag : OptionBag) (key separator : String) : Prop :=
  ∀ default, bag.getList key default separator = default

/-- Whatever the default is, this list is read. -/
def ReadsList (bag : OptionBag) (key separator : String) (list : List String) : Prop :=
  ∀ default, bag.getList key default separator = list

/-- The item is not empty, has no blank at its ends and does not hold the separator. -/
structure CleanItem (separator item : String) : Prop where
  nonempty : item ≠ ""
  bare : Text.Bare item.toList
  apart : ¬ separator.toList <:+: item.toList

variable {bag : OptionBag} {key separator value : String} {list : List String}

theorem fallsBack_of_absent (h : bag.raw key = none) : bag.FallsBack key separator := by
  intro default
  unfold getList
  rw [h]

theorem fallsBack_of_no_items (h : bag.raw key = some value) (hi : items separator value = []) :
    bag.FallsBack key separator := by
  intro default
  rw [bag.getList_eq h, if_pos hi]

theorem readsList_items (h : bag.raw key = some value) (hi : items separator value ≠ []) :
    bag.ReadsList key separator (items separator value) := by
  intro default
  rw [bag.getList_eq h, if_neg hi]

theorem ReadsList.not_fallsBack (h : bag.ReadsList key separator list) :
    ¬ bag.FallsBack key separator := by
  intro hf
  have hn : [] = list := (hf []).symm.trans (h [])
  have hs : [""] = list := (hf [""]).symm.trans (h [""])
  cases hn.trans hs.symm

theorem ReadsList.exists_items (h : bag.ReadsList key separator list) :
    ∃ value, bag.raw key = some value ∧ items separator value = list ∧ list ≠ [] := by
  cases hr : bag.raw key with
  | none => exact absurd (fallsBack_of_absent hr) h.not_fallsBack
  | some value =>
    have hi : items separator value ≠ [] := fun hi =>
      h.not_fallsBack (fallsBack_of_no_items hr hi)
    have he : items separator value = list := (readsList_items hr hi []).symm.trans (h [])
    exact ⟨value, rfl, he, he ▸ hi⟩

theorem fallsBack_iff (h : bag.raw key = some value) :
    bag.FallsBack key separator ↔ items separator value = [] := by
  constructor
  · intro hf
    by_contra hi
    exact (readsList_items h hi).not_fallsBack hf
  · exact fallsBack_of_no_items h

/-- No third thing can come of reading a list. -/
theorem fallsBack_or_readsList (bag : OptionBag) (key separator : String) :
    bag.FallsBack key separator ∨ ∃ list ≠ [], bag.ReadsList key separator list := by
  cases hr : bag.raw key with
  | none => exact .inl (fallsBack_of_absent hr)
  | some value =>
    by_cases hi : items separator value = []
    · exact .inl (fallsBack_of_no_items hr hi)
    · exact .inr ⟨_, hi, readsList_items hr hi⟩

/-! ## Items -/

/-- Items are clean whichever separator they were cut at, unless it is empty. -/
theorem cleanItem_of_mem_items (hs : separator ≠ "") {item : String}
    (h : item ∈ items separator value) : CleanItem separator item := by
  obtain ⟨text, ht, rfl⟩ := List.mem_map.mp h
  obtain ⟨hm, hn⟩ := List.mem_filter.mp ht
  obtain ⟨piece, hp, rfl⟩ := List.mem_map.mp hm
  have hl : separator.toList ≠ [] := by simpa using hs
  have hapart := Text.not_infix_of_mem_pieces hl hp
  constructor
  · simpa using hn
  · rw [String.toList_ofList]
    exact Text.bare_trim piece
  · rw [String.toList_ofList]
    exact fun hi => hapart (hi.trans (Text.trim_infix piece))

theorem items_of_empty (value : String) :
    items "" value = (value.toList.filter (!Text.isBlank ·)).map String.singleton := by
  have hs : String.ofList ∘ ([·]) = String.singleton := by
    funext c
    exact String.singleton_eq_ofList.symm
  unfold items Text.trimmed
  dsimp only
  rw [String.toList_empty, Text.filter_pieces_nil, Text.filter_trim, List.map_map, hs]

/-- A list that is written back is read as it was, under any key of any bag. -/
theorem readsList_insert_joined {c : Char} (hs : separator.toList = [c])
    (h : bag.ReadsList key separator list) (other : OptionBag) (name : String) :
    (other.insert name (Text.joined separator list)).ReadsList name separator list := by
  obtain ⟨value, -, rfl, hn⟩ := h.exists_items
  have hr : (other.insert name (Text.joined separator (items separator value))).raw name =
      some (Text.joined separator (items separator value)) := other.raw_insert_self name _
  have hi : items separator (Text.joined separator (items separator value)) =
      items separator value := by
    rw [items_joined hs]
    apply flatMap_items_self
    intro item hm
    have hitem := cleanItem_of_mem_items (by rintro rfl; cases hs) hm
    have hc : c ∉ item.toList := by
      rw [← List.singleton_infix_iff, ← hs]
      exact hitem.apart
    exact ⟨hc, hitem.bare.trim_eq, hitem.nonempty⟩
  have hread := readsList_items hr (hi.symm ▸ hn)
  rwa [hi] at hread

/-- Either the default is read, whatever it is, or a list is read that does not depend on it. With
a separator of one character the list has the segments of the value that are not blank, trimmed
and in order, and is read again as it was when it is written back; the default is read where there
is nothing but blanks and separators. The items are clean for any separator but the empty one,
which makes an item of each character that is not blank. -/
theorem list_read_from_segments (bag : OptionBag) (key separator : String) :
    (bag.FallsBack key separator ∨ ∃ list ≠ [], bag.ReadsList key separator list) ∧
    (bag.raw key = none → bag.FallsBack key separator) ∧
    (∀ c raw, separator = String.singleton c → bag.raw key = some raw →
      (bag.FallsBack key separator ↔ ∀ d ∈ raw.toList, Text.isBlank d = true ∨ d = c) ∧
      (¬ bag.FallsBack key separator → ∃ segments, Text.Segments c raw.toList segments ∧
        bag.ReadsList key separator
          (((segments.map Text.trim).filter (!·.isEmpty)).map String.ofList)) ∧
      ∀ list, bag.ReadsList key separator list → ∀ (other : OptionBag) (name : String),
        (other.insert name (Text.joined separator list)).ReadsList name separator list) ∧
    (separator ≠ "" → ∀ list, bag.ReadsList key separator list →
      ∀ item ∈ list, CleanItem separator item) ∧
    (∀ raw, separator = "" → bag.raw key = some raw →
      let characters := (raw.toList.filter (!Text.isBlank ·)).map String.singleton
      (characters = [] → bag.FallsBack key separator) ∧
      (characters ≠ [] → bag.ReadsList key separator characters)) ∧
    ∀ default ≠ [], bag.getList key default separator ≠ [] := by
  have hcases := bag.fallsBack_or_readsList key separator
  refine ⟨hcases, fallsBack_of_absent, ?_, ?_, ?_, ?_⟩
  · intro c raw hs hr
    have hc : separator.toList = [c] := by rw [hs, String.toList_singleton]
    have hi : items separator raw = (Text.items c raw.toList).map String.ofList :=
      items_of_char hc raw
    refine ⟨?_, fun hf => ?_, fun list hl => readsList_insert_joined hc hl⟩
    · rw [fallsBack_iff hr, hi, List.map_eq_nil_iff, Text.items_eq_nil_iff]
    · refine ⟨_, Text.segments_splitOn c raw.toList, ?_⟩
      rw [fallsBack_iff hr] at hf
      have hread := readsList_items hr hf
      rwa [hi] at hread
  · intro hs list hl item hm
    obtain ⟨value, -, rfl, -⟩ := hl.exists_items
    exact cleanItem_of_mem_items hs hm
  · rintro raw rfl hr
    rw [← items_of_empty]
    exact ⟨fallsBack_of_no_items hr, readsList_items hr⟩
  · intro default hd
    rcases hcases with hf | ⟨list, hn, hl⟩
    · rwa [hf]
    · rwa [hl]

end MetricBoard.OptionBag
