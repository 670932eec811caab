import MetricBoard.Proofs.Dashboard.Parse
import MetricBoard.Proofs.Yaml.Meaning

/-!
# The text of one option

Where an option of a widget stands in a document, and that the bag of the widget has the text of
what stands there.
-/

namespace MetricBoard.Dashboard

open Yaml (Document Node Mark Tag Value)

/-- The entries of the mapping that is read in the place of a node. -/
def entries? (document : Document) (node : Node) : Option (List (Node × Node)) :=
  match document.seen node with
  | .mapping _ _ entries => some entries
  | _ => none

/-- The items of the sequence that is read in the place of a node. -/
def items? (document : Document) (node : Node) : Option (List Node) :=
  match document.seen node with
  | .sequence _ _ items => some items
  | _ => none

/-- The node that gives the options of the widget at an index in the list of widgets. -/
def optionsNode? (document : Document) (index : Nat) : Option Node := do
  let fields ← entries? document (← document.root)
  let list ← (valuesUnder document "widgets" fields).head?
  let widget ← (← items? document list)[index]?
  (valuesUnder document "options" (← entries? document widget)).head?

/-- The node that gives an option of a widget: under its key in the options of the widget at an
index in the list of widgets. Of several it is the last. -/
def optionNode? (document : Document) (index : Nat) (key : String) : Option Node := do
  let bag ← optionsNode? document index
  (valuesUnder document key (← entries? document bag)).getLast?

variable {document : Document}

theorem format_of_parse {text : String} {dashboard : Dashboard}
    (h : Document.ofText text = .ok document) (hp : parse text = .ok dashboard) :
    Format document document.root dashboard := by
  rw [parse_of_document h] at hp
  cases hr : ofDocument document with
  | error problem =>
    rw [hr] at hp
    cases hp
  | ok read =>
    rw [hr] at hp
    replace hp : read.named.mapError (WidgetError.config <| .blankName ·) = .ok dashboard := hp
    cases hn : read.named with
    | error index =>
      rw [hn] at hp
      cases hp
    | ok other =>
      rw [hn] at hp
      obtain rfl := Except.ok.inj hp
      obtain ⟨rfl, -⟩ := named_eq_ok_iff.mp hn
      exact format_of_ofDocument hr

/-! ## One field -/

theorem Fills.of_mem {α : Type} {format : Node → α → Prop} {nodes : List Node} {after : Option α}
    (h : Fills format nodes none after) {node : Node} (hm : node ∈ nodes) :
    ∃ value, after = some value ∧ format node value := by
  cases h with
  | untouched => cases hm
  | given read =>
    obtain rfl := List.mem_singleton.mp hm
    exact ⟨_, rfl, read⟩

theorem seen_of_entries? {node : Node} {entries : List (Node × Node)}
    (h : entries? document node = some entries) :
    ∃ mark tag, document.seen node = .mapping mark tag entries := by
  unfold entries? at h
  split at h
  · rename_i mark tag _ hs
    cases h
    exact ⟨mark, tag, hs⟩
  · cases h

theorem seen_of_items? {node : Node} {items : List Node} (h : items? document node = some items) :
    ∃ mark tag, document.seen node = .sequence mark tag items := by
  unfold items? at h
  split at h
  · rename_i mark tag _ hs
    cases h
    exact ⟨mark, tag, hs⟩
  · cases h

theorem widgets_of_format {dashboard : Dashboard} {root list : Node}
    {fields : List (Node × Node)} (h : Format document (some root) dashboard)
    (hr : entries? document root = some fields)
    (hl : list ∈ valuesUnder document "widgets" fields) :
    WidgetsFormat document list dashboard.widgets := by
  obtain ⟨mark, tag, hs⟩ := seen_of_entries? hr
  cases h with
  | absent absent =>
    unfold Document.seen at hs
    split at hs
    · cases absent
    · rw [hs] at absent
      cases absent
  | mapping keys filled =>
    cases hs
    obtain ⟨widgets, rfl, read⟩ := filled.of_mem hl
    exact read

/-- Each item of the list gives a widget. -/
theorem exists_widget_of_format {list item : Node} {widgets : List WidgetDescriptor}
    {items : List Node} {index : Nat} (h : WidgetsFormat document list widgets)
    (hl : items? document list = some items) (hi : items[index]? = some item) :
    ∃ widget, widgets[index]? = some widget ∧ WidgetFormat document item widget := by
  obtain ⟨mark, tag, hs⟩ := seen_of_items? hl
  cases h with
  | absent absent =>
    rw [hs] at absent
    cases absent
  | sequence seen each =>
    rw [hs] at seen
    cases seen
    obtain ⟨hn, rfl⟩ := List.getElem?_eq_some_iff.mp hi
    have hw : index < widgets.length := each.length_eq ▸ hn
    exact ⟨_, List.getElem?_eq_getElem hw, each.get hn hw⟩

theorem options_of_format {item bag : Node} {widget : WidgetDescriptor}
    {entries : List (Node × Node)} (h : WidgetFormat document item widget)
    (hi : entries? document item = some entries)
    (hb : bag ∈ valuesUnder document "options" entries) :
    OptionsFormat document bag widget.options := by
  obtain ⟨mark, tag, hs⟩ := seen_of_entries? hi
  cases h with
  | mapping seen fields =>
    rw [hs] at seen
    cases seen
    obtain ⟨options, rfl, read⟩ := fields.options.of_mem hb
    exact read

/-- The options that stand in the document are those of the widget at the index. -/
theorem exists_options_of_format {dashboard : Dashboard} {index : Nat} {node : Node}
    (h : Format document document.root dashboard)
    (hn : optionsNode? document index = some node) :
    ∃ widget, dashboard.widgets[index]? = some widget ∧
      OptionsFormat document node widget.options := by
  unfold optionsNode? at hn
  obtain ⟨root, hroot, hn⟩ := Option.bind_eq_some_iff.mp hn
  obtain ⟨fields, hfields, hn⟩ := Option.bind_eq_some_iff.mp hn
  obtain ⟨list, hlist, hn⟩ := Option.bind_eq_some_iff.mp hn
  obtain ⟨items, hitems, hn⟩ := Option.bind_eq_some_iff.mp hn
  obtain ⟨item, hitem, hn⟩ := Option.bind_eq_some_iff.mp hn
  obtain ⟨entries, hentries, hn⟩ := Option.bind_eq_some_iff.mp hn
  rw [hroot] at h
  have hwidgets := widgets_of_format h hfields (List.mem_of_head? hlist)
  obtain ⟨widget, hw, hwidget⟩ := exists_widget_of_format hwidgets hitems hitem
  exact ⟨widget, hw, options_of_format hwidget hentries (List.mem_of_head? hn)⟩

/-! ## Entries of a mapping -/

/-- The last node under a key is the one that the last value of the key is read from. -/
theorem lastValue?_of_entries {entries : List (Node × Node)} {values : List (String × Value)}
    (h : List.Forall₂ (OptionEntry document) entries values) (key : String) :
    Option.Rel (document.Means optionDepth) (valuesUnder document key entries).getLast?
      (OptionBag.lastValue? values key) := by
  induction h with
  | nil => exact .none
  | @cons entry value entries values first _ ih =>
    obtain ⟨hk, hv⟩ := first
    rw [OptionBag.lastValue?_cons]
    by_cases hn : value.1 = key
    · rw [valuesUnder_cons_self (hn ▸ hk), List.getLast?_cons, if_pos hn.symm]
      -- A later entry of the key, if there is one, replaces this one on both sides.
      generalize (valuesUnder document key entries).getLast? = last at ih ⊢
      generalize OptionBag.lastValue? values key = found at ih ⊢
      cases ih with
      | none => exact .some hv
      | some later => exact .some later
    · rw [valuesUnder_cons_other hk hn, if_neg (Ne.symm hn), Option.or_none]
      exact ih

/-- The bag has under a key the text of what the last node of the key means. -/
theorem raw_of_format {bag : Node} {options : OptionBag} {entries : List (Node × Node)}
    (h : OptionsFormat document bag options) (hb : entries? document bag = some entries)
    {key : String} {node : Node} (hl : (valuesUnder document key entries).getLast? = some node) :
    ∃ value text, document.Means optionDepth node value ∧ value.optionText? = some text ∧
      options.raw key = some text := by
  obtain ⟨mark, tag, hs⟩ := seen_of_entries? hb
  cases h with
  | absent absent =>
    rw [hs] at absent
    cases absent
  | @mapping _ _ _ values _ seen each texts =>
    rw [hs] at seen
    cases seen
    have hr := lastValue?_of_entries each key
    rw [hl] at hr
    cases hv : OptionBag.lastValue? values key with
    | none =>
      rw [hv] at hr
      cases hr
    | some value =>
      rw [hv] at hr
      cases hr with
      | some read =>
        obtain ⟨text, ht⟩ := Option.isSome_iff_exists.mp (texts.written key value hv)
        refine ⟨value, text, read, ht, ?_⟩
        rw [texts.kept, hv, Option.bind_some, ht]

/-- The bag of a widget has the text of the value that the option means. -/
theorem raw_of_optionNode? {dashboard : Dashboard} {index : Nat} {key : String} {node : Node}
    {value : Value} {widget : WidgetDescriptor} (h : Format document document.root dashboard)
    (hn : optionNode? document index key = some node) (hm : document.Means optionDepth node value)
    (hw : dashboard.widgets[index]? = some widget) :
    ∃ text, value.optionText? = some text ∧ widget.options.raw key = some text := by
  unfold optionNode? at hn
  obtain ⟨bag, hbag, hn⟩ := Option.bind_eq_some_iff.mp hn
  obtain ⟨pairs, hpairs, hlast⟩ := Option.bind_eq_some_iff.mp hn
  obtain ⟨other, ho, hoptions⟩ := exists_options_of_format h hbag
  obtain rfl := Option.some.inj (hw.symm.trans ho)
  obtain ⟨found, text, hf, ht, hr⟩ := raw_of_format hoptions hpairs hlast
  obtain rfl := hm.unique hf
  exact ⟨text, ht, hr⟩

end MetricBoard.Dashboard
