import MetricBoard.Options.Values
import MetricBoard.Proofs.Text.Pieces

/-!
# The leaves of a value

A value has a text when nothing in its tree is a mapping and no sequence holds another one
without a tag. The text is then that of the leaves, from left to right, with the list separator
between each two of them: sequences inside sequences are joined as if they were one. Tags decide
whether there is a text and never what it is.
-/

namespace MetricBoard

namespace Yaml.Value

/-! ## Trees -/

/-- A claim on trees holds of a sequence if it holds of each of its items. -/
@[elab_as_elim]
theorem treeInduction {motive : Value → Prop} (null : motive .null)
    (boolean : ∀ value, motive (.boolean value)) (number : ∀ value, motive (.number value))
    (text : ∀ value, motive (.text value))
    (sequence : ∀ items, (∀ item ∈ items, motive item) → motive (.sequence items))
    (mapping : ∀ entries, motive (.mapping entries))
    (tagged : ∀ name value, motive value → motive (.tagged name value)) (value : Value) :
    motive value :=
  match value with
  | .null => null
  | .boolean value => boolean value
  | .number value => number value
  | .text value => text value
  | .sequence items => sequence items fun item _ =>
      treeInduction null boolean number text sequence mapping tagged item
  | .mapping entries => mapping entries
  | .tagged name value => tagged name value
      (treeInduction null boolean number text sequence mapping tagged value)

/-- A part of a tree: the tree itself, or a part of what its tag or its sequence holds. -/
inductive Part (part : Value) : Value → Prop
  | self : Part part part
  | tagged (name : String) {value : Value} (inner : Part part value) :
      Part part (.tagged name value)
  | item {items : List Value} {item : Value} (member : item ∈ items) (inner : Part part item) :
      Part part (.sequence items)

/-- No part is a mapping, and no sequence has a sequence for an item, unless under a tag. -/
structure Flat (value : Value) : Prop where
  no_mapping : ∀ entries, ¬ Part (.mapping entries) value
  no_sequence : ∀ items, Part (.sequence items) value → ∀ inner, .sequence inner ∉ items

mutual

/-- The texts of the leaves, from left to right. A sequence without items is a leaf. -/
def leafTexts : Value → List String
  | .null => [""]
  | .boolean value => [toString value]
  | .number value => [value.text]
  | .text value => [value]
  | .sequence items => if items.isEmpty then [""] else itemLeafTexts items
  | .mapping _ => []
  | .tagged _ value => leafTexts value
termination_by structural value => value

/-- The texts of the leaves of some trees, one tree after the other. -/
def itemLeafTexts : List Value → List String
  | [] => []
  | item :: items => leafTexts item ++ itemLeafTexts items
termination_by structural items => items

end

mutual

/-- The tree without its tags. Mappings are left as they are. -/
def withoutTags : Value → Value
  | .sequence items => .sequence (itemsWithoutTags items)
  | .tagged _ value => withoutTags value
  | value => value
termination_by structural value => value

def itemsWithoutTags : List Value → List Value
  | [] => []
  | item :: items => withoutTags item :: itemsWithoutTags items
termination_by structural items => items

end

/-! ## Parts -/

theorem Part.trans {inner middle value : Value} (h : Part inner middle) (hm : Part middle value) :
    Part inner value := by
  induction hm with
  | self => exact h
  | tagged name _ ih => exact .tagged name ih
  | item member _ ih => exact .item member ih

/-- What is true of the parts of a tree is true of the parts of a part. -/
theorem Flat.of_part {part value : Value} (h : Flat value) (hp : Part part value) : Flat part := by
  constructor
  · intro entries hm
    exact h.no_mapping entries (hm.trans hp)
  · intro items hs
    exact h.no_sequence items (hs.trans hp)

theorem not_flat_mapping (entries : List (Value × Value)) : ¬ Flat (.mapping entries) :=
  fun h => h.no_mapping entries .self

theorem flat_tagged_iff {name : String} {value : Value} :
    Flat (.tagged name value) ↔ Flat value := by
  constructor
  · intro h
    exact h.of_part (.tagged name .self)
  · intro h
    constructor
    · intro entries hm
      cases hm with
      | tagged _ inner => exact h.no_mapping entries inner
    · intro items hs
      cases hs with
      | tagged _ inner => exact h.no_sequence items inner

/-- Flat sequences have flat items, none of which is a collection without a tag. -/
theorem flat_sequence_iff {items : List Value} :
    Flat (.sequence items) ↔ ∀ item ∈ items, item.isBareCollection = false ∧ Flat item := by
  constructor
  · intro h item hm
    have hf : Flat item := h.of_part (.item hm .self)
    refine ⟨?_, hf⟩
    cases item with
    | mapping entries => exact absurd hf (not_flat_mapping entries)
    | sequence inner => exact absurd hm (h.no_sequence items .self inner)
    | _ => rfl
  · intro h
    constructor
    · intro entries hm
      cases hm with
      | item member inner => exact (h _ member).2.no_mapping entries inner
    · intro others hs
      cases hs with
      | self =>
        intro inner hm
        have hb := (h _ hm).1
        cases hb
      | item member inner => exact (h _ member).2.no_sequence others inner

/-! ## Texts -/

theorem itemLeafTexts_eq (items : List Value) :
    itemLeafTexts items = (items.map leafTexts).flatten := by
  induction items with
  | nil => rfl
  | cons item items ih =>
    rw [itemLeafTexts, ih, List.map_cons, List.flatten_cons]

theorem leafTexts_sequence {items : List Value} (h : items ≠ []) :
    (Value.sequence items).leafTexts = (items.map leafTexts).flatten := by
  have he : items.isEmpty = false := by simpa using h
  rw [leafTexts, he, ← itemLeafTexts_eq]
  rfl

theorem leafTexts_ne_nil {value : Value} (h : Flat value) : value.leafTexts ≠ [] := by
  induction value using treeInduction with
  | mapping entries => exact absurd h (not_flat_mapping entries)
  | tagged name value ih => exact ih (flat_tagged_iff.mp h)
  | sequence items ih =>
    cases items with
    | nil => exact List.cons_ne_nil _ _
    | cons item items =>
      have hi : Flat item := (flat_sequence_iff.mp h item List.mem_cons_self).2
      have hn : item.leafTexts ≠ [] := ih item List.mem_cons_self hi
      rw [leafTexts_sequence (List.cons_ne_nil item items)]
      simp [hn]
  | _ => exact List.cons_ne_nil _ _

/-- The leaves of a sequence are joined as the texts of its items are. -/
theorem joined_leafTexts_sequence {items : List Value} (h : Flat (.sequence items)) :
    Text.joined "," (Value.sequence items).leafTexts =
      Text.joined "," (items.map fun item => Text.joined "," item.leafTexts) := by
  cases items with
  | nil => decide
  | cons item items =>
    have hn : ∀ texts ∈ (item :: items).map leafTexts, texts ≠ [] := by
      intro texts hm
      obtain ⟨part, hp, rfl⟩ := List.mem_map.mp hm
      exact leafTexts_ne_nil (flat_sequence_iff.mp h part hp).2
    have hj := Text.joined_flatten "," hn
    rw [leafTexts_sequence (List.cons_ne_nil item items), ← hj, List.map_map]
    rfl

theorem flat_scalar {value : Value} (h : ∀ part, Part part value → part = value)
    (hb : value.isBareCollection = false) : Flat value := by
  constructor
  · intro entries hm
    rw [← h _ hm] at hb
    cases hb
  · intro items hs
    rw [← h _ hs] at hb
    cases hb

theorem optionText?_eq_some_iff_of_scalar {value : Value} {leaf text : String}
    (h : ∀ part, Part part value → part = value) (hb : value.isBareCollection = false)
    (ht : value.optionText? = some leaf) (hl : value.leafTexts = [leaf]) :
    value.optionText? = some text ↔ Flat value ∧ text = Text.joined "," value.leafTexts := by
  have hf : Flat value := flat_scalar h hb
  rw [ht, hl, Text.joined_singleton, Option.some_inj, eq_comm]
  exact (and_iff_right hf).symm

/-- A list has texts when each item has one and is no collection without a tag. -/
theorem itemTexts?_eq_some_iff {items : List Value} {texts : List String}
    (h : ∀ item ∈ items, ∀ text, item.optionText? = some text ↔
      Flat item ∧ text = Text.joined "," item.leafTexts) :
    itemTexts? items = some texts ↔
      (∀ item ∈ items, item.isBareCollection = false ∧ Flat item) ∧
        texts = items.map fun item => Text.joined "," item.leafTexts := by
  induction items generalizing texts with
  | nil =>
    constructor
    · intro ht
      obtain rfl := Option.some.inj ht
      exact ⟨nofun, rfl⟩
    · rintro ⟨-, rfl⟩
      rfl
  | cons item items ih =>
    obtain ⟨hitem, hitems⟩ := List.forall_mem_cons.mp h
    rw [List.forall_mem_cons, List.map_cons]
    unfold itemTexts?
    constructor
    · intro ht
      split at ht
      · cases ht
      · rename_i hb
        split at ht
        · rename_i first rest hf hr
          obtain rfl := Option.some.inj ht
          obtain ⟨hflat, rfl⟩ := (hitem first).mp hf
          obtain ⟨hrest, rfl⟩ := (ih hitems).mp hr
          exact ⟨⟨⟨by simpa using hb, hflat⟩, hrest⟩, rfl⟩
        · cases ht
    · rintro ⟨⟨⟨hb, hflat⟩, hrest⟩, rfl⟩
      have hf := (hitem _).mpr ⟨hflat, rfl⟩
      have hr := (ih hitems).mpr ⟨hrest, rfl⟩
      rw [hb, hf, hr]
      rfl

/-- A value has a text exactly when it is flat, and then that of its leaves. -/
theorem optionText?_eq_some_iff {value : Value} {text : String} :
    value.optionText? = some text ↔ Flat value ∧ text = Text.joined "," value.leafTexts := by
  induction value using treeInduction generalizing text with
  | mapping entries =>
    constructor
    · intro h
      cases h
    · rintro ⟨hf, -⟩
      exact absurd hf (not_flat_mapping entries)
  | tagged name value ih =>
    rw [flat_tagged_iff, leafTexts]
    exact ih
  | sequence items ih =>
    have ht : (Value.sequence items).optionText? =
        (itemTexts? items).map (Text.joined listSeparator) := by
      unfold optionText?
      rfl
    have hi : ∀ texts, itemTexts? items = some texts ↔ Flat (.sequence items) ∧
        texts = items.map fun item => Text.joined "," item.leafTexts := by
      intro texts
      rw [flat_sequence_iff]
      exact itemTexts?_eq_some_iff fun item hm text => ih item hm
    rw [ht, Option.map_eq_some_iff]
    constructor
    · rintro ⟨texts, hs, rfl⟩
      obtain ⟨hf, rfl⟩ := (hi texts).mp hs
      exact ⟨hf, (joined_leafTexts_sequence hf).symm⟩
    · rintro ⟨hf, rfl⟩
      exact ⟨_, (hi _).mpr ⟨hf, rfl⟩, (joined_leafTexts_sequence hf).symm⟩
  | null | boolean _ | number _ | text _ =>
    exact optionText?_eq_some_iff_of_scalar (fun part hp => by cases hp; rfl) rfl rfl rfl

/-! ## Tags -/

theorem itemLeafTexts_withoutTags {items : List Value}
    (h : ∀ item ∈ items, item.withoutTags.leafTexts = item.leafTexts) :
    itemLeafTexts (itemsWithoutTags items) = itemLeafTexts items := by
  induction items with
  | nil => rfl
  | cons item items ih =>
    obtain ⟨hitem, hitems⟩ := List.forall_mem_cons.mp h
    rw [itemsWithoutTags, itemLeafTexts, itemLeafTexts, hitem, ih hitems]

/-- Tags have no part in the texts of the leaves. -/
theorem leafTexts_withoutTags (value : Value) : value.withoutTags.leafTexts = value.leafTexts := by
  induction value using treeInduction with
  | tagged name value ih => exact ih
  | sequence items ih =>
    have hi := itemLeafTexts_withoutTags ih
    have he : (itemsWithoutTags items).isEmpty = items.isEmpty := by cases items <;> rfl
    rw [withoutTags, leafTexts, leafTexts, he, hi]
  | _ => rfl

/-- A value has a text exactly when no part of it is a mapping and no sequence in it holds
another one without a tag. One part without a text is enough for the whole to have none. The
text is that of the leaves, and is the same for two values that differ in their tags only. -/
theorem text_joins_leaves (value : Value) :
    (value.optionText?.isSome = true ↔
      (∀ entries, ¬ Part (.mapping entries) value) ∧
        ∀ items, Part (.sequence items) value → ∀ inner, .sequence inner ∉ items) ∧
    (∀ text, value.optionText? = some text → text = ",".intercalate value.leafTexts) ∧
    (∀ part, Part part value → part.optionText? = none → value.optionText? = none) ∧
    ∀ (other : Value) (text otherText : String), value.withoutTags = other.withoutTags →
      value.optionText? = some text → other.optionText? = some otherText → text = otherText := by
  have hflat : value.optionText?.isSome = true ↔ Flat value := by
    rw [Option.isSome_iff_exists]
    constructor
    · rintro ⟨text, ht⟩
      exact (optionText?_eq_some_iff.mp ht).1
    · intro hf
      exact ⟨_, optionText?_eq_some_iff.mpr ⟨hf, rfl⟩⟩
  refine ⟨hflat.trans ⟨fun h => ⟨h.no_mapping, h.no_sequence⟩, fun h => ⟨h.1, h.2⟩⟩,
    fun text ht => ?_, fun part hp hn => ?_, ?_⟩
  · rw [← Text.joined_eq_intercalate]
    exact (optionText?_eq_some_iff.mp ht).2
  · rw [← Option.not_isSome_iff_eq_none, hflat]
    intro hf
    have ht := optionText?_eq_some_iff.mpr ⟨hf.of_part hp, rfl⟩
    cases hn.symm.trans ht
  · intro other text otherText htags ht ho
    obtain ⟨-, rfl⟩ := optionText?_eq_some_iff.mp ht
    obtain ⟨-, rfl⟩ := optionText?_eq_some_iff.mp ho
    rw [← leafTexts_withoutTags value, htags, leafTexts_withoutTags]

/-- Sequences under tags are joined with what stands around them, and an empty one is a leaf. -/
example :
    (Value.sequence [.text "a", .tagged "t" (.sequence [.boolean true,
      .tagged "u" (.sequence [])]), .null]).optionText? = some "a,true,," := by
  decide

end Yaml.Value

end MetricBoard
