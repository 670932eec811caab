import MetricBoard.Dashboard
import MetricBoard.Proofs.Options.Values
import MetricBoard.Proofs.Text.Trim
import MetricBoard.Proofs.Yaml.Reading

/-!
# The format of dashboards

A dashboard is read from exactly those documents that have its format, and is the one that the
format gives. The format says of each mapping which of its fields are wanted and how often they
may occur; how an option is read as a value is left to the reading of values. Blank names do not
belong to the format, as they are looked for only when the whole document has been read.
-/

namespace MetricBoard.Dashboard

open Yaml (Document Node Path Mark Tag Value Reading)

/-! ## Fields -/

def ScalarKeys (document : Document) (entries : List (Node × Node)) : Prop :=
  ∀ entry ∈ entries, ∃ key, document.text? entry.1 = some key

/-- The values of the entries with a key. -/
def valuesUnder (document : Document) (name : String) (entries : List (Node × Node)) : List Node :=
  (entries.filter fun entry => document.text? entry.1 = some name).map (·.2)

/-- What a field holds before and after the nodes that are given for it: it is left alone, or
filled once. -/
inductive Fills {α : Type} (format : Node → α → Prop) : List Node → Option α → Option α → Prop
  | untouched (content : Option α) : Fills format [] content content
  | given {node : Node} {value : α} (read : format node value) :
      Fills format [node] none (some value)

section

variable {α : Type} {document : Document} {format : Node → α → Prop}

theorem fills_nil_iff {before after : Option α} :
    Fills format [] before after ↔ before = after := by
  constructor
  · intro h
    cases h
    rfl
  · rintro rfl
    exact .untouched _

/-- A field is filled by the first node that is given for it, so no second one may follow. -/
theorem fills_cons_iff {node : Node} {nodes : List Node} {before after : Option α} :
    Fills format (node :: nodes) before after ↔
      before = none ∧ ∃ value, format node value ∧ Fills format nodes (some value) after := by
  constructor
  · intro h
    cases h with
    | given read => exact ⟨rfl, _, read, .untouched _⟩
  · rintro ⟨rfl, value, hv, h⟩
    cases h
    exact .given hv

theorem valuesUnder_cons_self {name : String} {entry : Node × Node}
    (h : document.text? entry.1 = some name) (rest : List (Node × Node)) :
    valuesUnder document name (entry :: rest) = entry.2 :: valuesUnder document name rest := by
  unfold valuesUnder
  rw [List.filter_cons_of_pos (by simpa using h), List.map_cons]

theorem valuesUnder_cons_other {name key : String} {entry : Node × Node}
    (h : document.text? entry.1 = some key) (hn : key ≠ name) (rest : List (Node × Node)) :
    valuesUnder document name (entry :: rest) = valuesUnder document name rest := by
  unfold valuesUnder
  rw [List.filter_cons_of_neg]
  rw [h]
  simpa using hn

theorem scalarKeys_cons_iff {entry : Node × Node} {rest : List (Node × Node)} :
    ScalarKeys document (entry :: rest) ↔
      (∃ key, document.text? entry.1 = some key) ∧ ScalarKeys document rest :=
  List.forall_mem_cons

end

/-! ## The format -/

def OptionEntry (document : Document) (entry : Node × Node) (option : String × Value) : Prop :=
  document.text? entry.1 = some option.1 ∧ document.Means optionDepth entry.2 option.2

/-- The options of a widget. -/
inductive OptionsFormat (document : Document) : Node → OptionBag → Prop
  | absent {node : Node} (absent : (document.seen node).isAbsent = true) :
      OptionsFormat document node .empty
  | mapping {node : Node} {mark : Mark} {tag : Option Tag} {entries : List (Node × Node)}
      {values : List (String × Value)} {bag : OptionBag}
      (seen : document.seen node = .mapping mark tag entries)
      (each : List.Forall₂ (OptionEntry document) entries values)
      (texts : OptionBag.Texts values bag) : OptionsFormat document node bag

/-- What the entries of a widget make of its fields. -/
structure FieldsFormat (document : Document) (entries : List (Node × Node))
    (before after : WidgetFields) : Prop where
  keys : ScalarKeys document entries
  name : Fills (fun node text => document.text? node = some text)
    (valuesUnder document "name" entries) before.name after.name
  options : Fills (OptionsFormat document) (valuesUnder document "options" entries)
    before.options after.options

/-- A widget. -/
inductive WidgetFormat (document : Document) : Node → WidgetDescriptor → Prop
  | mapping {node : Node} {mark : Mark} {tag : Option Tag} {entries : List (Node × Node)}
      {name : String} {options : Option OptionBag}
      (seen : document.seen node = .mapping mark tag entries)
      (fields : FieldsFormat document entries ⟨none, none⟩ ⟨some name, options⟩) :
      WidgetFormat document node ⟨name, options.getD .empty⟩

/-- The list of widgets. -/
inductive WidgetsFormat (document : Document) : Node → List WidgetDescriptor → Prop
  | absent {node : Node} (absent : (document.seen node).isAbsent = true) :
      WidgetsFormat document node []
  | sequence {node : Node} {mark : Mark} {tag : Option Tag} {items : List Node}
      {widgets : List WidgetDescriptor} (seen : document.seen node = .sequence mark tag items)
      (each : List.Forall₂ (WidgetFormat document) items widgets) :
      WidgetsFormat document node widgets

/-- A dashboard at a root. -/
inductive Format (document : Document) : Option Node → Dashboard → Prop
  | missing : Format document none ⟨[]⟩
  | absent {root : Node} (absent : root.isAbsent = true) : Format document (some root) ⟨[]⟩
  | mapping {mark : Mark} {tag : Option Tag} {entries : List (Node × Node)}
      {widgets : Option (List WidgetDescriptor)} (keys : ScalarKeys document entries)
      (listed : Fills (WidgetsFormat document) (valuesUnder document "widgets" entries) none
        widgets) :
      Format document (some (.mapping mark tag entries)) ⟨widgets.getD []⟩

variable {document : Document}

/-! ## Options -/

/-- The entries that are read mean what is read for them, one by one and in order. -/
theorem entries_of_readTextEntries {depth : Nat} {path : Path} {entries : List (Node × Node)}
    {values : List (String × Value)}
    (h : (document.readTextEntries depth path entries).Obtains values) :
    List.Forall₂ (fun entry value => document.text? entry.1 = some value.1 ∧
      document.Means depth entry.2 value.2) entries values := by
  induction entries generalizing values with
  | nil =>
    obtain rfl := h.of_pure
    exact .nil
  | cons entry entries ih =>
    obtain ⟨key, hk, h⟩ := h.of_bind
    obtain ⟨value, hv, h⟩ := h.of_bind
    obtain ⟨rest, hr, h⟩ := h.of_bind
    obtain rfl := h.of_pure
    exact .cons ⟨Document.text?_of_readText hk, _, hv⟩ (ih hr)

/-- Entries whose nodes mean something are read, at the cost of the aliases inside them. -/
theorem yields_readTextEntries {depth : Nat} {entries : List (Node × Node)}
    {values : List (String × Value)}
    (h : List.Forall₂ (fun entry value => document.text? entry.1 = some value.1 ∧
      document.Means depth entry.2 value.2) entries values) (path : Path) :
    document.Yields (document.readTextEntries depth path entries) values
      (entries.map fun entry =>
        document.aliasesBelow depth entry.1 + document.aliasesBelow depth entry.2).sum := by
  induction h with
  | nil => exact .pure _ _
  | @cons entry value entries values first _ ih =>
    obtain ⟨hk, hv⟩ := first
    rw [List.map_cons, List.sum_cons, Nat.add_assoc]
    refine (Document.yields_readText hk "a string" path depth).bind ?_
    exact (hv.yields _).bind (ih.last (.pure _ 0))

theorem format_of_readOptions {place : Path × Mark} {path : Path} {node : Node} {bag : OptionBag}
    (h : (readOptions document place path node).Obtains bag) : OptionsFormat document node bag := by
  replace h := Document.obtains_seen h
  rcases h.of_ite with ⟨ha, h⟩ | ⟨-, h⟩
  · obtain rfl := h.of_pure
    exact .absent ha
  · match hs : document.seen node, h with
    | .mapping mark tag entries, h =>
      obtain ⟨values, hv, h⟩ := h.of_bind
      have he := entries_of_readTextEntries hv
      cases ho : OptionBag.ofValues values with
      | error key =>
        rw [ho] at h
        exact absurd h Reading.not_obtains_throw
      | ok other =>
        rw [ho] at h
        obtain rfl := h.of_pure
        exact .mapping hs he (OptionBag.texts_of_ofValues ho)
    | .scalar .., h => exact absurd h Reading.not_obtains_throw
    | .sequence .., h => exact absurd h Reading.not_obtains_throw
    | .alias .., h => exact absurd h Reading.not_obtains_throw

theorem yields_readOptions {node : Node} {bag : OptionBag} (h : OptionsFormat document node bag)
    (place : Path × Mark) (path : Path) :
    document.Yields (readOptions document place path node) bag
      (document.aliasesBelow (optionDepth + 1) node) := by
  cases h with
  | absent absent =>
    refine ((Document.yields_follow node).last ?_).mono (Document.here_le_aliasesBelow _ _)
    rw [if_pos absent]
    exact .pure _ 0
  | mapping seen each texts =>
    rw [Document.aliasesBelow_mapping seen]
    refine (Document.yields_follow node).bind ?_
    rw [seen]
    refine (yields_readTextEntries each path).last ?_
    rw [OptionBag.ofValues_eq_ok_iff.mpr texts]
    exact .pure _ 0

/-! ## Widgets -/

/-- What one entry of a widget makes of its fields. -/
inductive FieldFormat (document : Document) (entry : Node × Node) :
    WidgetFields → WidgetFields → Prop
  | name {options : Option OptionBag} {text : String}
      (key : document.text? entry.1 = some "name") (read : document.text? entry.2 = some text) :
      FieldFormat document entry ⟨none, options⟩ ⟨some text, options⟩
  | options {name : Option String} {bag : OptionBag}
      (key : document.text? entry.1 = some "options")
      (read : OptionsFormat document entry.2 bag) :
      FieldFormat document entry ⟨name, none⟩ ⟨name, some bag⟩
  | unknown {fields : WidgetFields} {key : String} (read : document.text? entry.1 = some key)
      (name : key ≠ "name") (options : key ≠ "options") :
      FieldFormat document entry fields fields

theorem format_of_readWidgetField {place : Path × Mark} {before after : WidgetFields}
    {entry : Node × Node} (h : (readWidgetField document place before entry).Obtains after) :
    FieldFormat document entry before after := by
  obtain ⟨name, options⟩ := before
  obtain ⟨key, hk, h⟩ := h.of_bind
  have ht := Document.text?_of_readText hk
  by_cases hn : key = "name"
  · rw [if_pos hn] at h
    subst hn
    cases name with
    | some text => exact absurd h Reading.not_obtains_throw
    | none =>
      obtain ⟨text, hr, h⟩ := h.of_bind
      obtain rfl := h.of_pure
      exact .name ht (Document.text?_of_readText hr)
  · rw [if_neg hn] at h
    by_cases ho : key = "options"
    · rw [if_pos ho] at h
      subst ho
      cases options with
      | some bag => exact absurd h Reading.not_obtains_throw
      | none =>
        obtain ⟨bag, hr, h⟩ := h.of_bind
        obtain rfl := h.of_pure
        exact .options ht (format_of_readOptions hr)
    · rw [if_neg ho] at h
      obtain rfl := h.of_pure
      exact .unknown ht hn ho

theorem yields_readWidgetField {before after : WidgetFields} {entry : Node × Node}
    (h : FieldFormat document entry before after) (place : Path × Mark) :
    document.Yields (readWidgetField document place before entry) after
      (document.aliasesBelow (optionDepth + 1) entry.1 +
        document.aliasesBelow (optionDepth + 1) entry.2) := by
  cases h with
  | name key read =>
    refine (Document.yields_readText key _ _ _).bind ?_
    exact (Document.yields_readText read _ _ _).last (.pure _ 0)
  | options key read =>
    refine (Document.yields_readText key _ _ _).bind ?_
    exact (yields_readOptions read place _).last (.pure _ 0)
  | unknown read name options =>
    refine (Document.yields_readText read _ _ _).bind ?_
    rw [if_neg name, if_neg options]
    exact .pure _ _

theorem fieldsFormat_nil_iff {before after : WidgetFields} :
    FieldsFormat document [] before after ↔ before = after := by
  constructor
  · rintro ⟨-, name, options⟩
    obtain ⟨_, _⟩ := before
    obtain ⟨_, _⟩ := after
    obtain rfl := fills_nil_iff.mp name
    obtain rfl := fills_nil_iff.mp options
    rfl
  · rintro rfl
    exact ⟨nofun, .untouched _, .untouched _⟩

theorem fieldsFormat_cons_iff {entry : Node × Node} {rest : List (Node × Node)}
    {before after : WidgetFields} :
    FieldsFormat document (entry :: rest) before after ↔
      ∃ middle, FieldFormat document entry before middle ∧
        FieldsFormat document rest middle after := by
  have hno : "name" ≠ "options" := by decide
  constructor
  · -- A key that is given twice leaves nothing to fill for the second.
    rintro ⟨keys, name, options⟩
    obtain ⟨⟨key, hk⟩, keys⟩ := scalarKeys_cons_iff.mp keys
    obtain ⟨old, bag⟩ := before
    by_cases hn : key = "name"
    · subst hn
      rw [valuesUnder_cons_self hk] at name
      rw [valuesUnder_cons_other hk hno] at options
      obtain ⟨rfl, text, ht, name⟩ := fills_cons_iff.mp name
      exact ⟨_, .name hk ht, keys, name, options⟩
    · rw [valuesUnder_cons_other hk hn] at name
      by_cases ho : key = "options"
      · subst ho
        rw [valuesUnder_cons_self hk] at options
        obtain ⟨rfl, bag, hb, options⟩ := fills_cons_iff.mp options
        exact ⟨_, .options hk hb, keys, name, options⟩
      · rw [valuesUnder_cons_other hk ho] at options
        exact ⟨_, .unknown hk hn ho, keys, name, options⟩
  · rintro ⟨middle, first, keys, name, options⟩
    cases first with
    | name key read =>
      refine ⟨scalarKeys_cons_iff.mpr ⟨⟨_, key⟩, keys⟩, ?_, ?_⟩
      · rw [valuesUnder_cons_self key]
        exact fills_cons_iff.mpr ⟨rfl, _, read, name⟩
      · rw [valuesUnder_cons_other key hno]
        exact options
    | options key read =>
      refine ⟨scalarKeys_cons_iff.mpr ⟨⟨_, key⟩, keys⟩, ?_, ?_⟩
      · rw [valuesUnder_cons_other key hno.symm]
        exact name
      · rw [valuesUnder_cons_self key]
        exact fills_cons_iff.mpr ⟨rfl, _, read, options⟩
    | unknown read hn ho =>
      refine ⟨scalarKeys_cons_iff.mpr ⟨⟨_, read⟩, keys⟩, ?_, ?_⟩
      · rw [valuesUnder_cons_other read hn]
        exact name
      · rw [valuesUnder_cons_other read ho]
        exact options

/-- Reading the entries in a row fills the fields as the format says, whatever they held before. -/
theorem format_of_readWidgetFields {place : Path × Mark} {entries : List (Node × Node)}
    {before after : WidgetFields}
    (h : (entries.foldlM (readWidgetField document place) before).Obtains after) :
    FieldsFormat document entries before after := by
  induction entries generalizing before with
  | nil => exact fieldsFormat_nil_iff.mpr h.of_pure
  | cons entry rest ih =>
    rw [List.foldlM_cons] at h
    obtain ⟨middle, hm, h⟩ := h.of_bind
    exact fieldsFormat_cons_iff.mpr ⟨middle, format_of_readWidgetField hm, ih h⟩

/-- Entries that are as the format says are read in a row. -/
theorem yields_readWidgetFields {entries : List (Node × Node)} {before after : WidgetFields}
    (h : FieldsFormat document entries before after) (place : Path × Mark) :
    document.Yields (entries.foldlM (readWidgetField document place) before) after
      (entries.map fun entry => document.aliasesBelow (optionDepth + 1) entry.1 +
        document.aliasesBelow (optionDepth + 1) entry.2).sum := by
  induction entries generalizing before with
  | nil =>
    obtain rfl := fieldsFormat_nil_iff.mp h
    exact .pure _ _
  | cons entry rest ih =>
    obtain ⟨middle, hm, h⟩ := fieldsFormat_cons_iff.mp h
    rw [List.foldlM_cons, List.map_cons, List.sum_cons]
    exact (yields_readWidgetField hm place).bind (ih h)

/-- A widget that is read is as the format says. -/
theorem format_of_readWidget {path : Path} {node : Node} {widget : WidgetDescriptor}
    (h : (readWidget document path node).Obtains widget) : WidgetFormat document node widget := by
  replace h := Document.obtains_seen h
  rcases h.of_ite with ⟨-, h⟩ | ⟨-, h⟩
  · -- An absent widget has no name.
    cases h.of_lift
  · match hs : document.seen node, h with
    | .mapping mark tag entries, h =>
      obtain ⟨fields, hr, h⟩ := h.of_bind
      have hw := h.of_lift
      obtain ⟨name, options⟩ := fields
      cases name with
      | none => cases hw
      | some name =>
        cases hw
        exact .mapping hs (format_of_readWidgetFields hr)
    | .scalar .., h => exact absurd h Reading.not_obtains_throw
    | .sequence .., h => exact absurd h Reading.not_obtains_throw
    | .alias .., h => exact absurd h Reading.not_obtains_throw

theorem yields_readWidget {node : Node} {widget : WidgetDescriptor}
    (h : WidgetFormat document node widget) (path : Path) :
    document.Yields (readWidget document path node) widget
      (document.aliasesBelow (optionDepth + 2) node) := by
  cases h with
  | mapping seen fields =>
    rw [Document.aliasesBelow_mapping seen]
    refine (Document.yields_follow node).bind ?_
    rw [seen]
    exact (yields_readWidgetFields fields _).last (.lift rfl 0)

/-! ## The list of widgets and the dashboard -/

theorem format_of_readWidgets {path : Path} {node : Node} {widgets : List WidgetDescriptor}
    (h : (readWidgets document path node).Obtains widgets) :
    WidgetsFormat document node widgets := by
  replace h := Document.obtains_seen h
  rcases h.of_ite with ⟨ha, h⟩ | ⟨-, h⟩
  · obtain rfl := h.of_pure
    exact .absent ha
  · match hs : document.seen node, h with
    | .sequence mark tag items, h =>
      refine .sequence hs ((Document.each_of_readItems h).imp ?_)
      rintro item widget ⟨place, hw⟩
      exact format_of_readWidget hw
    | .scalar .., h => exact absurd h Reading.not_obtains_throw
    | .mapping .., h => exact absurd h Reading.not_obtains_throw
    | .alias .., h => exact absurd h Reading.not_obtains_throw

theorem yields_readWidgets {node : Node} {widgets : List WidgetDescriptor}
    (h : WidgetsFormat document node widgets) (path : Path) :
    document.Yields (readWidgets document path node) widgets
      (document.aliasesBelow (optionDepth + 3) node) := by
  cases h with
  | absent absent =>
    refine ((Document.yields_follow node).last ?_).mono (Document.here_le_aliasesBelow _ _)
    rw [if_pos absent]
    exact .pure _ 0
  | sequence seen each =>
    rw [Document.aliasesBelow_sequence seen]
    refine (Document.yields_follow node).bind ?_
    rw [seen]
    refine Document.yields_readItems (each.imp ?_) path 0
    intro item widget hw place
    exact yields_readWidget hw place

/-- Reading the fields of a dashboard in a row fills the list of widgets once at most. -/
theorem fills_of_readFields {mark : Mark} {entries : List (Node × Node)}
    {before after : Option (List WidgetDescriptor)}
    (h : (entries.foldlM (readField document mark) before).Obtains after) :
    ScalarKeys document entries ∧
      Fills (WidgetsFormat document) (valuesUnder document "widgets" entries) before after := by
  induction entries generalizing before with
  | nil => exact ⟨nofun, fills_nil_iff.mpr h.of_pure⟩
  | cons entry rest ih =>
    rw [List.foldlM_cons] at h
    obtain ⟨middle, hm, h⟩ := h.of_bind
    obtain ⟨keys, listed⟩ := ih h
    obtain ⟨key, hk, hm⟩ := hm.of_bind
    have ht := Document.text?_of_readText hk
    refine ⟨scalarKeys_cons_iff.mpr ⟨⟨key, ht⟩, keys⟩, ?_⟩
    by_cases hw : key = "widgets"
    · rw [if_pos hw] at hm
      subst hw
      cases before with
      | some widgets => exact absurd hm Reading.not_obtains_throw
      | none =>
        obtain ⟨widgets, hr, hm⟩ := hm.of_bind
        obtain rfl := hm.of_pure
        rw [valuesUnder_cons_self ht]
        exact fills_cons_iff.mpr ⟨rfl, widgets, format_of_readWidgets hr, listed⟩
    · rw [if_neg hw] at hm
      obtain rfl := hm.of_pure
      rw [valuesUnder_cons_other ht hw]
      exact listed

theorem yields_readFields {entries : List (Node × Node)}
    {before after : Option (List WidgetDescriptor)} (keys : ScalarKeys document entries)
    (listed : Fills (WidgetsFormat document) (valuesUnder document "widgets" entries) before after)
    (mark : Mark) :
    document.Yields (entries.foldlM (readField document mark) before) after
      (entries.map fun entry => document.aliasesBelow (optionDepth + 3) entry.1 +
        document.aliasesBelow (optionDepth + 3) entry.2).sum := by
  induction entries generalizing before with
  | nil =>
    obtain rfl := fills_nil_iff.mp listed
    exact .pure _ _
  | cons entry rest ih =>
    obtain ⟨⟨key, hk⟩, keys⟩ := scalarKeys_cons_iff.mp keys
    rw [List.foldlM_cons, List.map_cons, List.sum_cons]
    have hread : document.Yields (document.readText "field identifier" .root entry.1) key _ :=
      Document.yields_readText hk _ _ (optionDepth + 3)
    by_cases hw : key = "widgets"
    · subst hw
      rw [valuesUnder_cons_self hk] at listed
      obtain ⟨rfl, widgets, hf, listed⟩ := fills_cons_iff.mp listed
      refine Document.Yields.bind (hread.bind ?_) (ih keys listed)
      exact (yields_readWidgets hf _).last (.pure _ 0)
    · rw [valuesUnder_cons_other hk hw] at listed
      refine Document.Yields.bind (hread.bind ?_) (ih keys listed)
      rw [if_neg hw]
      exact .pure _ _

/-- A root that is read is a dashboard by the format. -/
theorem format_of_readRoot {root : Node} {dashboard : Dashboard}
    (h : (readRoot document root).Obtains dashboard) : Format document (some root) dashboard := by
  unfold readRoot at h
  rcases h.of_ite with ⟨ha, h⟩ | ⟨-, h⟩
  · obtain rfl := h.of_pure
    exact .absent ha
  · match root, h with
    | .mapping mark tag entries, h =>
      obtain ⟨widgets, hw, h⟩ := h.of_bind
      obtain rfl := h.of_pure
      obtain ⟨keys, listed⟩ := fills_of_readFields hw
      exact .mapping keys listed
    | .scalar .., h => exact absurd h Reading.not_obtains_throw
    | .sequence .., h => exact absurd h Reading.not_obtains_throw
    | .alias .., h => exact absurd h Reading.not_obtains_throw

/-- A root that is a dashboard by the format is read, with aliases as deep as reading goes. -/
theorem yields_readRoot {root : Node} {dashboard : Dashboard}
    (h : Format document (some root) dashboard) :
    document.Yields (readRoot document root) dashboard
      (document.aliasesBelow Yaml.depthLimit root) := by
  cases h with
  | absent absent =>
    unfold readRoot
    rw [if_pos absent]
    exact .pure _ _
  | @mapping mark tag entries widgets keys listed =>
    -- An option lies in four collections, of which the root is the outermost.
    have hroot : document.seen (.mapping mark tag entries) = .mapping mark tag entries := rfl
    have hdepth : Yaml.depthLimit = optionDepth + 3 + 1 := rfl
    rw [hdepth, Document.aliasesBelow_mapping hroot]
    have hread : document.Yields (readRoot document (.mapping mark tag entries))
        ⟨widgets.getD []⟩ _ := (yields_readFields keys listed mark).last (.pure _ 0)
    exact hread.mono (Nat.le_add_left _ _)

end MetricBoard.Dashboard
