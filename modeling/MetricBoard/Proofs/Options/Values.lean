import Mathlib.Data.List.Induction
import Mathlib.Data.List.Sort
import MetricBoard.Options.Values

/-!
# What a bag of values holds

A bag that is made of values has under each key the text of the last value given for it. Earlier
values of the key do not count, whether they have a text or not; if a last one has none, there is
no bag, and the first key of such a one is blamed. Two bags that hold the same under every key are
equal.
-/

namespace MetricBoard.OptionBag

open Yaml (Value)

/-! ## The last entry of a key -/

/-- The value of the last entry with a key. -/
def lastValue? {α : Type} (entries : List (String × α)) (key : String) : Option α :=
  entries.reverse.lookup key

section

variable {α : Type}

theorem lastValue?_append (front back : List (String × α)) (key : String) :
    lastValue? (front ++ back) key = (lastValue? back key).or (lastValue? front key) := by
  unfold lastValue?
  rw [List.reverse_append, List.lookup_append]

theorem lastValue?_cons (entry : String × α) (rest : List (String × α)) (key : String) :
    lastValue? (entry :: rest) key =
      (lastValue? rest key).or (if key = entry.1 then some entry.2 else none) := by
  have h := lastValue?_append [entry] rest key
  rw [List.singleton_append] at h
  rw [h]
  unfold lastValue?
  rw [List.reverse_singleton, List.lookup_cons]
  by_cases hk : key = entry.1
  · rw [if_pos hk, beq_iff_eq.mpr hk]
  · rw [if_neg hk, beq_eq_false_iff_ne.mpr hk]
    rfl

theorem lastValue?_concat (entries : List (String × α)) (entry : String × α) (key : String) :
    lastValue? (entries ++ [entry]) key =
      if key = entry.1 then some entry.2 else lastValue? entries key := by
  rw [lastValue?_append, lastValue?_cons]
  by_cases hk : key = entry.1
  · rw [if_pos hk, if_pos hk]
    rfl
  · rw [if_neg hk, if_neg hk]
    rfl

theorem lastValue?_eq_none_iff {entries : List (String × α)} {key : String} :
    lastValue? entries key = none ↔ ∀ entry ∈ entries, entry.1 ≠ key := by
  unfold lastValue?
  rw [List.lookup_eq_none_iff]
  simp only [List.mem_reverse, bne_iff_ne, ne_comm]

theorem mem_keys_iff_lastValue? {entries : List (String × α)} {key : String} :
    key ∈ entries.map (·.1) ↔ lastValue? entries key ≠ none := by
  rw [ne_eq, lastValue?_eq_none_iff]
  simp

/-- An entry that a later one of the same key replaces is not seen under any key. -/
theorem lastValue?_cons_of_any {entry : String × α} {rest : List (String × α)}
    (h : rest.any (·.1 == entry.1) = true) (key : String) :
    lastValue? (entry :: rest) key = lastValue? rest key := by
  rw [lastValue?_cons]
  by_cases hk : key = entry.1
  · obtain ⟨later, hm, he⟩ := List.any_eq_true.mp h
    have hn : lastValue? rest key ≠ none := by
      intro hn
      exact lastValue?_eq_none_iff.mp hn later hm ((eq_of_beq he).trans hk.symm)
    obtain ⟨value, hv⟩ := Option.ne_none_iff_exists'.mp hn
    rw [hv, Option.some_or]
  · rw [if_neg hk, Option.or_none]

theorem lastValue?_of_not_any {entry : String × α} {rest : List (String × α)}
    (h : ¬ rest.any (·.1 == entry.1) = true) : lastValue? rest entry.1 = none := by
  rw [lastValue?_eq_none_iff]
  intro later hm he
  exact h (List.any_eq_true.mpr ⟨later, hm, beq_iff_eq.mpr he⟩)

/-- Where no key is repeated every entry is the last of its key. -/
theorem lastValue?_eq_some_iff_mem {entries : List (String × α)}
    (hn : (entries.map (·.1)).Nodup) {key : String} {value : α} :
    lastValue? entries key = some value ↔ (key, value) ∈ entries := by
  induction entries with
  | nil => exact ⟨nofun, nofun⟩
  | cons first rest ih =>
    rw [List.map_cons, List.nodup_cons] at hn
    obtain ⟨hf, hrest⟩ := hn
    rw [lastValue?_cons, List.mem_cons]
    by_cases hk : key = first.1
    · subst hk
      have hnone : lastValue? rest first.1 = none :=
        lastValue?_eq_none_iff.mpr fun entry hm he => hf (he ▸ List.mem_map_of_mem hm)
      rw [hnone, if_pos rfl, Option.none_or, Option.some_inj]
      constructor
      · rintro rfl
        exact .inl rfl
      · rintro (he | hm)
        · exact (congrArg Prod.snd he).symm
        · exact absurd (List.mem_map_of_mem hm) hf
    · rw [if_neg hk, Option.or_none, ih hrest]
      exact ⟨.inr, fun h => h.resolve_left fun he => hk (congrArg Prod.fst he)⟩

theorem lastValue?_of_perm {entries others : List (String × α)} (h : others.Perm entries)
    (hn : (entries.map (·.1)).Nodup) (key : String) :
    lastValue? others key = lastValue? entries key := by
  have ho : (others.map (·.1)).Nodup := (h.map (·.1)).nodup_iff.mpr hn
  ext value
  rw [lastValue?_eq_some_iff_mem ho, lastValue?_eq_some_iff_mem hn, h.mem_iff]

theorem mem_lastOfEach_iff {entries : List (String × α)} {entry : String × α} :
    entry ∈ lastOfEach entries ↔ lastValue? entries entry.1 = some entry.2 := by
  induction entries with
  | nil => exact ⟨nofun, nofun⟩
  | cons first rest ih =>
    unfold lastOfEach
    split
    · rename_i ha
      rw [lastValue?_cons_of_any ha]
      exact ih
    · rename_i ha
      have hn : lastValue? rest first.1 = none := lastValue?_of_not_any ha
      rw [List.mem_cons, ih, lastValue?_cons]
      by_cases hk : entry.1 = first.1
      · rw [hk, hn, if_pos rfl, Option.none_or, Option.some_inj]
        constructor
        · rintro (rfl | h)
          · rfl
          · cases h
        · intro h
          exact .inl (Prod.ext hk h.symm)
      · rw [if_neg hk, Option.or_none]
        refine ⟨fun h => h.resolve_left fun he => hk (congrArg Prod.fst he), .inr⟩

theorem lastValue?_filterMap_lastOfEach {β : Type} (text? : α → Option β)
    (entries : List (String × α)) (key : String) :
    lastValue? ((lastOfEach entries).filterMap fun entry => (text? entry.2).map (entry.1, ·)) key =
      (lastValue? entries key).bind text? := by
  induction entries with
  | nil => rfl
  | cons first rest ih =>
    unfold lastOfEach
    split
    · rename_i ha
      rw [lastValue?_cons_of_any ha]
      exact ih
    · rename_i ha
      rw [lastValue?_cons, List.filterMap_cons]
      by_cases hk : key = first.1
      · -- No later entry has this key, so only the first can be seen under it.
        have hn : lastValue? rest key = none := hk ▸ lastValue?_of_not_any ha
        rw [hn] at ih ⊢
        rw [if_pos hk, Option.none_or, Option.bind_some]
        cases text? first.2 with
        | none => exact ih
        | some text =>
          dsimp only [Option.map_some]
          rw [lastValue?_cons, ih, if_pos hk]
          rfl
      · rw [if_neg hk, Option.or_none, ← ih]
        cases text? first.2 with
        | none => rfl
        | some text =>
          dsimp only [Option.map_some]
          rw [lastValue?_cons, if_neg hk, Option.or_none]

end

/-! ## Bags by what they hold -/

theorem ofList_concat (pairs : List (String × String)) (pair : String × String) :
    ofList (pairs ++ [pair]) = (ofList pairs).insert pair.1 pair.2 := by
  unfold ofList
  rw [List.foldl_append]
  rfl

/-- A bag of writes has the last value of each key. -/
theorem raw_ofList (pairs : List (String × String)) (key : String) :
    (ofList pairs).raw key = lastValue? pairs key := by
  induction pairs using List.reverseRecOn with
  | nil => rfl
  | append_singleton pairs pair ih =>
    rw [ofList_concat, raw_insert, lastValue?_concat, ih]

theorem mem_entries_iff (bag : OptionBag) {key value : String} :
    (key, value) ∈ bag.entries ↔ bag.raw key = some value := by
  unfold raw
  rw [List.lookup_eq_some_iff]
  constructor
  · intro h
    obtain ⟨front, back, hs⟩ := List.append_of_mem h
    refine ⟨front, back, hs, fun entry hm => ?_⟩
    have ha := bag.ascending
    rw [hs] at ha
    have hlt : entry.1 < key :=
      (List.pairwise_append.mp ha).2.2 entry hm (key, value) List.mem_cons_self
    rw [bne_iff_ne]
    intro he
    rw [he] at hlt
    exact String.lt_irrefl _ hlt
  · rintro ⟨front, back, hs, -⟩
    rw [hs]
    exact List.mem_append_right _ List.mem_cons_self

/-- Bags are equal that hold the same under every key. -/
theorem eq_of_raw {bag other : OptionBag} (h : ∀ key, bag.raw key = other.raw key) :
    bag = other := by
  have hm : ∀ entry, entry ∈ bag.entries ↔ entry ∈ other.entries := by
    rintro ⟨key, value⟩
    rw [mem_entries_iff, mem_entries_iff, h]
  have : Std.Irrefl fun a b : String × String => a.1 < b.1 := ⟨fun a => String.lt_irrefl a.1⟩
  have : Std.Antisymm fun a b : String × String => a.1 < b.1 :=
    ⟨fun a b hab hba => absurd (String.lt_trans hab hba) (String.lt_irrefl a.1)⟩
  have he : bag.entries = other.entries := bag.ascending.eq_of_mem_iff other.ascending hm
  cases bag
  cases other
  cases he
  rfl

/-! ## Bags of values -/

instance : Std.LawfulOrderLeftLeaningMin String where
  min_eq_left _ _ h := if_pos h
  min_eq_right _ _ h := if_neg h

/-- The last value of the key is one without a text. -/
def Wordless (entries : List (String × Value)) (key : String) : Prop :=
  ∃ value, lastValue? entries key = some value ∧ value.optionText? = none

theorem mem_keysWithoutText_iff {entries : List (String × Value)} {key : String} :
    key ∈ keysWithoutText (lastOfEach entries) ↔ Wordless entries key := by
  unfold keysWithoutText
  rw [List.mem_map]
  constructor
  · rintro ⟨⟨name, value⟩, hm, rfl⟩
    obtain ⟨hm, ht⟩ := List.mem_filter.mp hm
    exact ⟨value, mem_lastOfEach_iff.mp hm, Option.isNone_iff_eq_none.mp ht⟩
  · rintro ⟨value, hv, ht⟩
    have hm : (key, value) ∈ lastOfEach entries := mem_lastOfEach_iff.mpr hv
    exact ⟨(key, value), List.mem_filter.mpr ⟨hm, Option.isNone_iff_eq_none.mpr ht⟩, rfl⟩

/-- The bag has under each key the text of its last value. -/
structure Texts (entries : List (String × Value)) (bag : OptionBag) : Prop where
  written : ∀ key value, lastValue? entries key = some value → value.optionText?.isSome = true
  kept : ∀ key, bag.raw key = (lastValue? entries key).bind Value.optionText?

/-- The key is the first, in ascending order, of those whose last value has no text. -/
structure Blamed (entries : List (String × Value)) (key : String) : Prop where
  wordless : Wordless entries key
  least : ∀ other, Wordless entries other → key ≤ other

theorem Texts.unique {entries : List (String × Value)} {bag other : OptionBag}
    (h : Texts entries bag) (ho : Texts entries other) : bag = other :=
  eq_of_raw fun key => (h.kept key).trans (ho.kept key).symm

theorem Texts.not_wordless {entries : List (String × Value)} {bag : OptionBag}
    (h : Texts entries bag) (key : String) : ¬ Wordless entries key := by
  rintro ⟨value, hv, ht⟩
  have hs := h.written key value hv
  rw [ht] at hs
  cases hs

/-- The keys of the bag are those of the entries. -/
theorem Texts.given_iff {entries : List (String × Value)} {bag : OptionBag} (h : Texts entries bag)
    {key : String} : (∃ text, bag.raw key = some text) ↔ ∃ entry ∈ entries, entry.1 = key := by
  rw [← List.mem_map, mem_keys_iff_lastValue?, h.kept]
  cases hv : lastValue? entries key with
  | none => simp
  | some value =>
    have ht := Option.isSome_iff_exists.mp (h.written key value hv)
    exact iff_of_true ht (Option.some_ne_none _)

theorem texts_of_ofValues {entries : List (String × Value)} {bag : OptionBag}
    (h : ofValues entries = .ok bag) : Texts entries bag := by
  unfold ofValues at h
  dsimp only at h
  split at h
  · cases h
  · rename_i hl
    obtain rfl := Except.ok.inj h
    have hk : ∀ key, (ofList ((lastOfEach entries).filterMap fun entry =>
        entry.2.optionText?.map (entry.1, ·))).raw key =
          (lastValue? entries key).bind Value.optionText? := by
      intro key
      rw [raw_ofList, lastValue?_filterMap_lastOfEach]
    refine ⟨fun key value hv => ?_, hk⟩
    rw [Option.isSome_iff_ne_none]
    intro ht
    have hm := mem_keysWithoutText_iff.mpr ⟨value, hv, ht⟩
    rw [List.min?_eq_none_iff.mp hl] at hm
    cases hm

theorem blamed_of_ofValues {entries : List (String × Value)} {key : String}
    (h : ofValues entries = .error key) : Blamed entries key := by
  unfold ofValues at h
  dsimp only at h
  split at h
  · rename_i least hl
    obtain rfl := Except.error.inj h
    obtain ⟨hm, hle⟩ := List.min?_eq_some_iff.mp hl
    refine ⟨mem_keysWithoutText_iff.mp hm, fun other ho => ?_⟩
    exact hle other (mem_keysWithoutText_iff.mpr ho)
  · cases h

theorem not_text_of_ofValues {entries : List (String × Value)} {key : String}
    (h : ofValues entries = .error key) :
    ∃ value, lastValue? entries key = some value ∧ value.optionText? = none :=
  (blamed_of_ofValues h).wordless

/-- Values are decoded to the bag of their last texts, and to no other. -/
theorem ofValues_eq_ok_iff {entries : List (String × Value)} {bag : OptionBag} :
    ofValues entries = .ok bag ↔ Texts entries bag := by
  refine ⟨texts_of_ofValues, fun h => ?_⟩
  cases ho : ofValues entries with
  | ok other => rw [(texts_of_ofValues ho).unique h]
  | error key => exact absurd (blamed_of_ofValues ho).wordless (h.not_wordless key)

/-- Values that are not decoded have a key to blame, and this key is reported. -/
theorem ofValues_eq_error_iff {entries : List (String × Value)} {key : String} :
    ofValues entries = .error key ↔ Blamed entries key := by
  refine ⟨blamed_of_ofValues, fun h => ?_⟩
  cases ho : ofValues entries with
  | ok bag => exact absurd h.wordless ((texts_of_ofValues ho).not_wordless key)
  | error other =>
    have hb := blamed_of_ofValues ho
    rw [String.le_antisymm (hb.least key h.wordless) (h.least other hb.wordless)]

theorem exists_blamed_iff {entries : List (String × Value)} :
    (∃ key, Blamed entries key) ↔ ∃ key, Wordless entries key := by
  refine ⟨fun ⟨key, hb⟩ => ⟨key, hb.wordless⟩, fun ⟨key, hw⟩ => ?_⟩
  cases ho : ofValues entries with
  | ok bag => exact absurd hw ((texts_of_ofValues ho).not_wordless key)
  | error least => exact ⟨least, blamed_of_ofValues ho⟩

/-- Nothing but the last value of each key counts. -/
theorem ofValues_of_lastValue? {entries others : List (String × Value)}
    (h : ∀ key, lastValue? others key = lastValue? entries key) :
    ofValues others = ofValues entries := by
  cases ho : ofValues entries with
  | ok bag =>
    obtain ⟨written, kept⟩ := texts_of_ofValues ho
    refine ofValues_eq_ok_iff.mpr ⟨fun key value hv => ?_, fun key => ?_⟩
    · exact written key value ((h key).symm.trans hv)
    · rw [h, kept]
  | error key =>
    have hw : ∀ other, Wordless others other ↔ Wordless entries other := by
      intro other
      unfold Wordless
      rw [h]
    obtain ⟨wordless, least⟩ := blamed_of_ofValues ho
    refine ofValues_eq_error_iff.mpr ⟨(hw key).mpr wordless, fun other hother => ?_⟩
    exact least other ((hw other).mp hother)

/-! ## Values with the same texts -/

theorem lastOfEach_map {α β : Type} (f : α → β) (entries : List (String × α)) :
    lastOfEach (entries.map (Prod.map id f)) = (lastOfEach entries).map (Prod.map id f) := by
  induction entries with
  | nil => rfl
  | cons first rest ih =>
    have ha : (rest.map (Prod.map id f)).any (·.1 == first.1) = rest.any (·.1 == first.1) := by
      rw [List.any_map]
      rfl
    rw [List.map_cons]
    unfold lastOfEach
    rw [Prod.map_fst, id_eq, ha, ih]
    split <;> rfl

/-- Of the values nothing but their texts counts. -/
theorem ofValues_congr {entries others : List (String × Value)}
    (h : entries.map (Prod.map id Value.optionText?) =
      others.map (Prod.map id Value.optionText?)) : ofValues entries = ofValues others := by
  have hl : (lastOfEach entries).map (Prod.map id Value.optionText?) =
      (lastOfEach others).map (Prod.map id Value.optionText?) := by
    rw [← lastOfEach_map, ← lastOfEach_map, h]
  have hw : ∀ last : List (String × Value), keysWithoutText last =
      ((last.map (Prod.map id Value.optionText?)).filter (·.2.isNone)).map (·.1) := by
    intro last
    rw [List.filter_map, List.map_map]
    rfl
  have ht : ∀ last : List (String × Value),
      (last.filterMap fun entry => entry.2.optionText?.map (entry.1, ·)) =
        (last.map (Prod.map id Value.optionText?)).filterMap
          fun entry => entry.2.map (entry.1, ·) := by
    intro last
    rw [List.filterMap_map]
    rfl
  unfold ofValues
  dsimp only
  rw [hw, hw (lastOfEach others), ht, ht (lastOfEach others), hl]

end MetricBoard.OptionBag
