import Mathlib.Algebra.Order.BigOperators.Group.List
import Mathlib.Algebra.Order.Group.Nat
import Mathlib.Data.List.Perm.Subperm
import MetricBoard.Proofs.Dashboard.Option

/-!
# The last value of each option

The options of a widget are read in the order of the document, where a later entry of a key
replaces an earlier one, and are then made texts in the order of their keys. The order in the
document therefore matters to which entry of a key is the last, and to nothing else.
-/

namespace MetricBoard.Dashboard

open Yaml (Document Node Path Mark Tag Value Reading Problem)

variable {document : Document}

/-- The problem that an option of the widget at `place` has no text. -/
def noText (place : Path × Mark) (key : String) : Problem :=
  .complaint (.optionWithoutText key) place.1 place.2

/-! ## Reading entries -/

section

variable {node : Node} {mark : Mark} {tag : Option Tag} {entries others : List (Node × Node)}
  {values : List (String × Value)}

/-- Where there is room for the aliases, what is decoded depends on the values alone. -/
theorem run_readOptions (hs : document.seen node = .mapping mark tag entries)
    (he : List.Forall₂ (OptionEntry document) entries values) (place : Path × Mark) (path : Path)
    {count : Nat}
    (hc : count + document.aliasesBelow (optionDepth + 1) node ≤ document.aliasLimit) :
    (readOptions document place path node).run' count =
      (OptionBag.ofValues values).mapError (noText place) := by
  rw [Document.aliasesBelow_mapping hs, ← Nat.add_assoc] at hc
  have hfollow : document.Yields (document.follow node) (document.seen node)
      (Document.here node) := Document.yields_follow node
  obtain ⟨middle, hm, hf⟩ := hfollow count (by omega)
  obtain ⟨last, -, hr⟩ := yields_readTextEntries he path middle (by omega)
  have hn : ¬ (Node.mapping mark tag entries).isAbsent = true := Bool.false_ne_true
  unfold readOptions
  rw [StateT.run'_eq, Reading.run_bind_of_ok hf, hs, if_neg hn]
  dsimp only
  rw [Reading.run_bind_of_ok hr]
  cases OptionBag.ofValues values <;> rfl

/-- The bag that is read is the one that has the texts of the last values, and no other. -/
theorem run_readOptions_eq_ok_iff (hs : document.seen node = .mapping mark tag entries)
    (he : List.Forall₂ (OptionEntry document) entries values) (place : Path × Mark) (path : Path)
    {count : Nat}
    (hc : count + document.aliasesBelow (optionDepth + 1) node ≤ document.aliasLimit)
    (bag : OptionBag) :
    (readOptions document place path node).run' count = .ok bag ↔ OptionBag.Texts values bag := by
  rw [run_readOptions hs he place path hc, ← OptionBag.ofValues_eq_ok_iff]
  cases OptionBag.ofValues values <;> simp [Except.mapError]

/-- Options that are not read have a key without a text, and the least one is reported. -/
theorem run_readOptions_eq_error_iff (hs : document.seen node = .mapping mark tag entries)
    (he : List.Forall₂ (OptionEntry document) entries values) (place : Path × Mark) (path : Path)
    {count : Nat}
    (hc : count + document.aliasesBelow (optionDepth + 1) node ≤ document.aliasLimit)
    (problem : Problem) :
    (readOptions document place path node).run' count = .error problem ↔
      ∃ key, OptionBag.Blamed values key ∧ problem = noText place key := by
  rw [run_readOptions hs he place path hc]
  simp only [← OptionBag.ofValues_eq_error_iff]
  cases OptionBag.ofValues values <;> simp [Except.mapError, eq_comm]

/-- An entry gives one option. -/
theorem OptionEntry.unique : Relator.RightUnique (OptionEntry document) := by
  rintro entry ⟨key, value⟩ ⟨other, meaning⟩ ⟨hk, hv⟩ ⟨ho, hm⟩
  exact Prod.ext (Option.some.inj (hk.symm.trans ho)) (hv.unique hm)

theorem readable_of_entries (he : List.Forall₂ (OptionEntry document) entries values) :
    ∀ entry ∈ entries, ∃ value, OptionEntry document entry value := by
  induction he with
  | nil => exact nofun
  | cons first _ ih => exact List.forall_mem_cons.mpr ⟨⟨_, first⟩, ih⟩

theorem exists_values_of_readable
    (h : ∀ entry ∈ entries, ∃ value, OptionEntry document entry value) :
    ∃ values, List.Forall₂ (OptionEntry document) entries values := by
  induction entries with
  | nil => exact ⟨[], .nil⟩
  | cons entry entries ih =>
    obtain ⟨⟨value, hv⟩, hrest⟩ := List.forall_mem_cons.mp h
    obtain ⟨values, he⟩ := ih hrest
    exact ⟨value :: values, .cons hv he⟩

theorem key_mem_iff (he : List.Forall₂ (OptionEntry document) entries values) {key : String} :
    (∃ value ∈ values, value.1 = key) ↔
      ∃ entry ∈ entries, document.text? entry.1 = some key := by
  induction he with
  | nil => simp
  | cons first _ ih =>
    simp only [List.mem_cons, exists_eq_or_imp, ih, first.1, Option.some_inj]

/-- Mappings that end with the same entry for each key have the same last values. -/
theorem lastValue?_of_getLast? {found : List (String × Value)}
    (he : List.Forall₂ (OptionEntry document) entries values)
    (ho : List.Forall₂ (OptionEntry document) others found)
    (h : ∀ key, (valuesUnder document key others).getLast? =
      (valuesUnder document key entries).getLast?) (key : String) :
    OptionBag.lastValue? found key = OptionBag.lastValue? values key := by
  have hlast := lastValue?_of_entries he key
  have hother := lastValue?_of_entries ho key
  rw [h] at hother
  generalize (valuesUnder document key entries).getLast? = last at hlast hother
  generalize OptionBag.lastValue? values key = value at hlast ⊢
  generalize OptionBag.lastValue? found key = other at hother ⊢
  cases hlast with
  | none =>
    cases hother
    rfl
  | some means =>
    cases hother with
    | some meansToo => rw [means.unique meansToo]

theorem sum_le_of_subperm {α : Type} (f : α → Nat) {part whole : List α}
    (h : part.Subperm whole) : (part.map f).sum ≤ (whole.map f).sum := by
  obtain ⟨sorted, hp, hsub⟩ := h
  calc (part.map f).sum = (sorted.map f).sum := (hp.symm.map f).sum_nat
    _ ≤ (whole.map f).sum := (hsub.map f).sum_le_sum fun _ _ => Nat.zero_le _

/-- Some of the entries follow no more aliases than all of them. -/
theorem aliasesBelow_of_subperm (hs : document.seen node = .mapping mark tag entries)
    (h : others.Subperm entries) :
    document.aliasesBelow (optionDepth + 1) (.mapping mark tag others) ≤
      document.aliasesBelow (optionDepth + 1) node := by
  have ho : document.seen (.mapping mark tag others) = .mapping mark tag others := rfl
  rw [Document.aliasesBelow_mapping hs, Document.aliasesBelow_mapping ho]
  have hsum := sum_le_of_subperm (fun entry => document.aliasesBelow optionDepth entry.1 +
    document.aliasesBelow optionDepth entry.2) h
  have hhere : Document.here (.mapping mark tag others) = 0 := rfl
  omega

/-! ## Dashboards -/

theorem texts_of_format {bag : OptionBag} (h : OptionsFormat document node bag)
    (hs : document.seen node = .mapping mark tag entries)
    (he : List.Forall₂ (OptionEntry document) entries values) : OptionBag.Texts values bag := by
  cases h with
  | absent absent =>
    rw [hs] at absent
    cases absent
  | mapping seen each texts =>
    rw [hs] at seen
    cases seen
    obtain rfl := List.right_unique_forall₂' OptionEntry.unique he each
    exact texts

theorem texts_of_parse {text : String} {index : Nat} {dashboard : Dashboard}
    {widget : WidgetDescriptor} (hd : Document.ofText text = .ok document)
    (hn : optionsNode? document index = some node)
    (hs : document.seen node = .mapping mark tag entries)
    (he : List.Forall₂ (OptionEntry document) entries values) (hp : parse text = .ok dashboard)
    (hw : dashboard.widgets[index]? = some widget) : OptionBag.Texts values widget.options := by
  obtain ⟨other, ho, hformat⟩ := exists_options_of_format (format_of_parse hd hp) hn
  obtain rfl := Option.some.inj (hw.symm.trans ho)
  exact texts_of_format hformat hs he

/-- One key without a text is enough for a dashboard not to be read. -/
theorem parse_of_wordless {text : String} {index : Nat} {key : String}
    (hd : Document.ofText text = .ok document) (hn : optionsNode? document index = some node)
    (hs : document.seen node = .mapping mark tag entries)
    (he : List.Forall₂ (OptionEntry document) entries values)
    (hk : OptionBag.Wordless values key) :
    ∃ problem, parse text = .error (.config (.unreadable problem)) := by
  rw [parse_of_document hd]
  cases hr : ofDocument document with
  | error problem => exact ⟨problem, rfl⟩
  | ok dashboard =>
    obtain ⟨widget, -, ho⟩ := exists_options_of_format (format_of_ofDocument hr) hn
    exact absurd hk ((texts_of_format ho hs he).not_wordless key)

end

/-- What comes of options with scalar keys and readable values depends on the last value of each
key only. If these have texts the bag has exactly the keys of the mapping, with those texts, and is
the one of the widget in a dashboard; otherwise the least key whose last value has none is blamed,
and there is no dashboard. Entries may therefore be reordered, and left out, as long as the last of
each key stays the last, and in any way at all where no key is repeated. -/
theorem options_decoded_by_last_values {document : Document} {node : Node} {mark : Mark}
    {tag : Option Tag} {entries : List (Node × Node)} {values : List (String × Value)}
    (hs : document.seen node = .mapping mark tag entries)
    (he : List.Forall₂ (OptionEntry document) entries values) (place : Path × Mark) (path : Path)
    {count : Nat}
    (hc : count + document.aliasesBelow (optionDepth + 1) node ≤ document.aliasLimit) :
    let decoded := (readOptions document place path node).run' count
    (∀ bag, decoded = .ok bag ↔ OptionBag.Texts values bag) ∧
    (∀ bag, decoded = .ok bag → ∀ key, (∃ text, bag.raw key = some text) ↔
      ∃ entry ∈ entries, document.text? entry.1 = some key) ∧
    (∀ problem, decoded = .error problem ↔ ∃ key, OptionBag.Blamed values key ∧
      problem = .complaint (.optionWithoutText key) place.1 place.2) ∧
    ((∃ problem, decoded = .error problem) ↔ ∃ key, OptionBag.Wordless values key) ∧
    (∀ (copy : Document) other otherMark otherTag others found otherPath start,
      copy.seen other = .mapping otherMark otherTag others →
      List.Forall₂ (OptionEntry copy) others found →
      (∀ key, OptionBag.lastValue? found key = OptionBag.lastValue? values key) →
      start + copy.aliasesBelow (optionDepth + 1) other ≤ copy.aliasLimit →
      (readOptions copy place otherPath other).run' start = decoded) ∧
    (∀ others, others.Subperm entries →
      (∀ key, (valuesUnder document key others).getLast? =
        (valuesUnder document key entries).getLast?) →
      (readOptions document place path (.mapping mark tag others)).run' count = decoded) ∧
    (∀ others, others.Perm entries → (values.map (·.1)).Nodup →
      (readOptions document place path (.mapping mark tag others)).run' count = decoded) ∧
    ∀ text index, Document.ofText text = .ok document →
      optionsNode? document index = some node →
      (∀ dashboard widget, parse text = .ok dashboard →
        dashboard.widgets[index]? = some widget → OptionBag.Texts values widget.options) ∧
      ((∃ key, OptionBag.Wordless values key) →
        ∃ problem, parse text = .error (.config (.unreadable problem))) := by
  intro decoded
  have hbag : ∀ bag, decoded = .ok bag ↔ OptionBag.Texts values bag :=
    run_readOptions_eq_ok_iff hs he place path hc
  have hproblem : ∀ problem, decoded = .error problem ↔
      ∃ key, OptionBag.Blamed values key ∧ problem = noText place key :=
    run_readOptions_eq_error_iff hs he place path hc
  have hsame {copy : Document} {other : Node} {otherMark : Mark} {otherTag : Option Tag}
      {others : List (Node × Node)} {found : List (String × Value)} {otherPath : Path}
      {start : Nat} (ho : copy.seen other = .mapping otherMark otherTag others)
      (hf : List.Forall₂ (OptionEntry copy) others found)
      (hl : ∀ key, OptionBag.lastValue? found key = OptionBag.lastValue? values key)
      (hstart : start + copy.aliasesBelow (optionDepth + 1) other ≤ copy.aliasLimit) :
      (readOptions copy place otherPath other).run' start = decoded := by
    rw [run_readOptions ho hf place otherPath hstart, OptionBag.ofValues_of_lastValue? hl]
    exact (run_readOptions hs he place path hc).symm
  have hroom {others : List (Node × Node)} (h : others.Subperm entries) : count +
      document.aliasesBelow (optionDepth + 1) (.mapping mark tag others) ≤ document.aliasLimit :=
    (Nat.add_le_add_left (aliasesBelow_of_subperm hs h) count).trans hc
  refine ⟨hbag, fun bag hb key => ?_, hproblem, ?_, ?_, fun others ho hl => ?_,
    fun others ho hn => ?_, fun text index hd hnode => ⟨fun dashboard widget hp hw => ?_, ?_⟩⟩
  · exact ((hbag bag).mp hb).given_iff.trans (key_mem_iff he)
  · rw [← OptionBag.exists_blamed_iff]
    simp only [hproblem]
    exact ⟨fun ⟨_, key, hk, _⟩ => ⟨key, hk⟩, fun ⟨key, hk⟩ => ⟨_, key, hk, rfl⟩⟩
  · intro copy other otherMark otherTag others found otherPath start ho hf hl hstart
    exact hsame ho hf hl hstart
  · obtain ⟨found, hf⟩ := exists_values_of_readable fun entry hm =>
      readable_of_entries he entry (ho.subset hm)
    exact hsame rfl hf (lastValue?_of_getLast? he hf hl) (hroom ho)
  · obtain ⟨found, hf, hp⟩ := List.perm_comp_forall₂ ho he
    exact hsame rfl hf (OptionBag.lastValue?_of_perm hp hn) (hroom ho.subperm)
  · exact texts_of_parse hd hnode hs he hp hw
  · rintro ⟨key, hk⟩
    exact parse_of_wordless hd hnode hs he hk

/-- The options of the first widget can be read and have a key without a text, and this is the
least such key. -/
def blamesFirst (document : Document) (key : String) : Bool :=
  (optionsNode? document 0).any fun node =>
    (entries? document node).any fun entries =>
      match (document.readTextEntries optionDepth .root entries).run' 0 with
      | .ok values => decide (OptionBag.ofValues values = .error key ∧
          0 + document.aliasesBelow (optionDepth + 1) node ≤ document.aliasLimit)
      | .error _ => false

/-- The value of `b` is replaced, and `c` comes before `a` in the text only. -/
theorem least_option_blamed :
    let text := "widgets: [\x7b? name : x, ? options : \x7b? b : \x7b\x7d, ? c : \x7b\x7d, " ++
      "? a : \x7b\x7d, ? b : 1\x7d\x7d]"
    ∃ document node, Document.ofText text = .ok document ∧ optionsNode? document 0 = some node ∧
      (∀ place path, (readOptions document place path node).run' 0 =
        .error (.complaint (.optionWithoutText "a") place.1 place.2)) ∧
      ∃ problem, parse text = .error (.config (.unreadable problem)) := by
  intro text
  have hc : (match Document.ofText text with
      | .ok document => blamesFirst document "a"
      | .error _ => false) = true := by decide +kernel
  cases hd : Document.ofText text with
  | error fault =>
    rw [hd] at hc
    cases hc
  | ok document =>
    rw [hd] at hc
    obtain ⟨node, hn, hc⟩ := (Option.any_eq_true _ _).mp hc
    obtain ⟨entries, hentries, hc⟩ := (Option.any_eq_true _ _).mp hc
    obtain ⟨mark, tag, hs⟩ := seen_of_entries? hentries
    split at hc
    · rename_i values hv
      obtain ⟨hk, hroom⟩ := of_decide_eq_true hc
      have he := entries_of_readTextEntries (Yaml.Reading.obtains_of_run' hv)
      have hblamed := OptionBag.ofValues_eq_error_iff.mp hk
      have hdecoded := fun place path => options_decoded_by_last_values hs he place path hroom
      refine ⟨document, node, rfl, hn, fun place path => ?_, ?_⟩
      · exact ((hdecoded place path).2.2.1 _).mpr ⟨"a", hblamed, rfl⟩
      · obtain ⟨-, -, -, -, -, -, -, hparse⟩ := hdecoded (.root, mark) .root
        exact (hparse text 0 hd hn).2 ⟨"a", hblamed.wordless⟩
    · cases hc

end MetricBoard.Dashboard
