import MetricBoard.Proofs.Dashboard.Format

/-!
# Parsing a dashboard

A text is a dashboard when its document has the format and no name is blank. The whole document
is read first, so a blank name is reported only where the format is kept, and then it is the
first blank name that counts. Fields that are not known are not looked at.
-/

namespace MetricBoard.Dashboard

open Yaml (Document Node Path Mark Tag ScalarStyle)

variable {document : Document}

/-! ## Documents -/

/-- What is read from a document is its dashboard by the format. -/
theorem format_of_ofDocument {dashboard : Dashboard} (h : ofDocument document = .ok dashboard) :
    Format document document.root dashboard := by
  unfold ofDocument at h
  cases hr : document.root with
  | none =>
    rw [hr] at h
    obtain rfl := Except.ok.inj h
    exact .missing
  | some root =>
    rw [hr] at h
    exact format_of_readRoot (Yaml.Reading.obtains_of_run' h)

/-- A dashboard by the format is read, unless there are too many aliases in the document. -/
theorem ofDocument_of_format {dashboard : Dashboard} (h : Format document document.root dashboard)
    (hb : document.aliases ≤ document.aliasLimit) : ofDocument document = .ok dashboard := by
  unfold Document.aliases at hb
  unfold ofDocument
  cases hr : document.root with
  | none =>
    rw [hr] at h
    cases h
    rfl
  | some root =>
    rw [hr] at h hb
    rw [Option.elim_some, ← Nat.zero_add (document.aliasesBelow _ _)] at hb
    obtain ⟨last, -, hread⟩ := yields_readRoot h 0 hb
    dsimp only
    rw [StateT.run'_eq, hread]
    rfl

/-! ## Blank names -/

theorem isBlankText_iff {text : String} :
    Text.isBlankText text = true ↔ Text.AllBlank text.toList := List.all_eq_true

/-- Names change nothing but whether there is a dashboard: none may be blank. -/
theorem named_eq_ok_iff {dashboard other : Dashboard} :
    dashboard.named = .ok other ↔ dashboard = other ∧
      ∀ widget ∈ dashboard.widgets, ¬ Text.AllBlank widget.name.toList := by
  have hn : (dashboard.widgets.findIdx? fun widget => Text.isBlankText widget.name) = none ↔
      ∀ widget ∈ dashboard.widgets, ¬ Text.AllBlank widget.name.toList := by
    simp only [List.findIdx?_eq_none_iff, ← isBlankText_iff, Bool.not_eq_true]
  rw [← hn]
  unfold named
  split
  · rename_i index hi
    rw [hi]
    exact ⟨nofun, nofun⟩
  · rename_i hi
    rw [hi]
    exact ⟨fun h => ⟨Except.ok.inj h, rfl⟩, fun h => congrArg _ h.1⟩

/-- The first blank name is reported, by how many widgets come before it. -/
theorem named_of_first_blank {front back : List WidgetDescriptor} {widget : WidgetDescriptor}
    (hf : ∀ earlier ∈ front, ¬ Text.AllBlank earlier.name.toList)
    (hw : Text.AllBlank widget.name.toList) :
    named ⟨front ++ widget :: back⟩ = .error front.length := by
  have hn : (front.findIdx? fun widget => Text.isBlankText widget.name) = none := by
    rw [List.findIdx?_eq_none_iff]
    intro earlier hm
    rw [← Bool.not_eq_true, isBlankText_iff]
    exact hf earlier hm
  have hi : ((front ++ widget :: back).findIdx? fun widget => Text.isBlankText widget.name) =
      some front.length := by
    rw [List.findIdx?_append, hn, List.findIdx?_cons, if_pos (isBlankText_iff.mpr hw)]
    simp
  unfold named
  rw [hi]

/-! ## Unknown fields -/

theorem readField_unknown {mark place : Mark} {tag : Option Tag} {style : ScalarStyle}
    {key : String} (h : key ≠ "widgets") (value : Node)
    (widgets : Option (List WidgetDescriptor)) :
    readField document mark widgets (.scalar place tag style key, value) = pure widgets := by
  have ht : document.readText "field identifier" .root (.scalar place tag style key) =
      pure key := rfl
  unfold readField
  rw [ht, pure_bind]
  dsimp only
  rw [if_neg h]

/-- A dashboard is read as if the field were not there. -/
theorem readRoot_unknown {mark place : Mark} {tag keyTag : Option Tag} {style : ScalarStyle}
    {key : String} (h : key ≠ "widgets") (value : Node) (front back : List (Node × Node)) :
    readRoot document
        (.mapping mark tag (front ++ (.scalar place keyTag style key, value) :: back)) =
      readRoot document (.mapping mark tag (front ++ back)) := by
  have hf : (front ++ (.scalar place keyTag style key, value) :: back).foldlM
      (readField document mark) none = (front ++ back).foldlM (readField document mark) none := by
    simp only [List.foldlM_append, List.foldlM_cons, readField_unknown h, pure_bind]
  unfold readRoot
  dsimp only [Node.isAbsent]
  rw [hf]
  rfl

theorem readWidgetField_unknown {mark : Mark} {tag : Option Tag} {style : ScalarStyle}
    {key : String} (hn : key ≠ "name") (ho : key ≠ "options") (value : Node)
    (place : Path × Mark) (fields : WidgetFields) :
    readWidgetField document place fields (.scalar mark tag style key, value) = pure fields := by
  have ht : document.readText "field identifier" place.1 (.scalar mark tag style key) =
      pure key := rfl
  unfold readWidgetField
  rw [ht, pure_bind]
  dsimp only
  rw [if_neg hn, if_neg ho]

/-- A widget is read as if the field were not there. -/
theorem readWidget_unknown {mark place : Mark} {tag keyTag : Option Tag} {style : ScalarStyle}
    {key : String} (hn : key ≠ "name") (ho : key ≠ "options") (value : Node)
    (front back : List (Node × Node)) (path : Path) :
    readWidget document path
        (.mapping mark tag (front ++ (.scalar place keyTag style key, value) :: back)) =
      readWidget document path (.mapping mark tag (front ++ back)) := by
  have hf : (front ++ (.scalar place keyTag style key, value) :: back).foldlM
      (readWidgetField document (path, mark)) ⟨none, none⟩ =
        (front ++ back).foldlM (readWidgetField document (path, mark)) ⟨none, none⟩ := by
    simp only [List.foldlM_append, List.foldlM_cons, readWidgetField_unknown hn ho, pure_bind]
  unfold readWidget Document.follow
  rw [pure_bind, pure_bind]
  dsimp only [Node.isAbsent]
  rw [hf]
  rfl

/-! ## Texts -/

theorem parse_of_document {text : String} (h : Document.ofText text = .ok document) :
    parse text = ((ofDocument document).mapError (.config <| .unreadable ·)).bind fun dashboard =>
      dashboard.named.mapError (.config <| .blankName ·) := by
  unfold parse
  rw [h]
  rfl

/-- A text whose document follows no more aliases than it may is a dashboard if and only if the
document has the format and no name is blank, and then it is the dashboard of the format. Where
the format is kept the first blank name is reported, and where it is not the document is reported
to be unreadable. Fields that are not known change nothing. -/
theorem parse_accepts_format {text : String} (h : Document.ofText text = .ok document)
    (hb : document.aliases ≤ document.aliasLimit) :
    (∀ dashboard, parse text = .ok dashboard ↔ Format document document.root dashboard ∧
      ∀ widget ∈ dashboard.widgets, ¬ Text.AllBlank widget.name.toList) ∧
    (∀ front widget back, Format document document.root ⟨front ++ widget :: back⟩ →
      (∀ earlier ∈ front, ¬ Text.AllBlank earlier.name.toList) →
      Text.AllBlank widget.name.toList →
      ∃ fault, parse text = .error (.config fault) ∧
        fault.text = "widgets[" ++ toString front.length ++ "].name cannot be empty") ∧
    ((¬ ∃ dashboard, Format document document.root dashboard) →
      ∃ problem, parse text = .error (.config (.unreadable problem))) ∧
    (∀ mark tag front place keyTag style key value back, key ≠ "widgets" →
      readRoot document
          (.mapping mark tag (front ++ (.scalar place keyTag style key, value) :: back)) =
        readRoot document (.mapping mark tag (front ++ back))) ∧
    ∀ path mark tag front place keyTag style key value back, key ≠ "name" → key ≠ "options" →
      readWidget document path
          (.mapping mark tag (front ++ (.scalar place keyTag style key, value) :: back)) =
        readWidget document path (.mapping mark tag (front ++ back)) := by
  have hp := parse_of_document h
  have hnamed : ∀ {dashboard}, Format document document.root dashboard →
      parse text = dashboard.named.mapError (.config <| .blankName ·) := by
    intro dashboard hf
    rw [hp, ofDocument_of_format hf hb]
    rfl
  refine ⟨fun dashboard => ⟨fun ho => ?_, ?_⟩, ?_, fun hn => ?_, ?_, ?_⟩
  · cases hr : ofDocument document with
    | error problem =>
      rw [hp, hr] at ho
      cases ho
    | ok read =>
      have hf := format_of_ofDocument hr
      rw [hnamed hf] at ho
      cases hn : read.named with
      | error index =>
        rw [hn] at ho
        cases ho
      | ok other =>
        rw [hn] at ho
        obtain rfl := Except.ok.inj ho
        obtain ⟨rfl, hw⟩ := named_eq_ok_iff.mp hn
        exact ⟨hf, hw⟩
  · rintro ⟨hf, hw⟩
    rw [hnamed hf, named_eq_ok_iff.mpr ⟨rfl, hw⟩]
    rfl
  · intro front widget back hf he hw
    refine ⟨.blankName front.length, ?_, rfl⟩
    rw [hnamed hf, named_of_first_blank he hw]
    rfl
  · cases hr : ofDocument document with
    | ok read => exact absurd ⟨read, format_of_ofDocument hr⟩ hn
    | error problem =>
      refine ⟨problem, ?_⟩
      rw [hp, hr]
      rfl
  · intro mark tag front place keyTag style key value back hk
    exact readRoot_unknown hk value front back
  · intro path mark tag front place keyTag style key value back hn ho
    exact readWidget_unknown hn ho value front back path

theorem parse_absent_name_blank :
    ∃ fault, parse "widgets: [? name : &n a, ? name : *n, ? name]" = .error (.config fault) ∧
      fault.text = "widgets[2].name cannot be empty" := by
  have hc : (match Document.ofText "widgets: [? name : &n a, ? name : *n, ? name]" with
      | .ok document => decide (document.aliases ≤ document.aliasLimit ∧
          ofDocument document = .ok ⟨[⟨"a", .empty⟩, ⟨"a", .empty⟩, ⟨"", .empty⟩]⟩)
      | .error _ => false) = true := by decide +kernel
  cases hd : Document.ofText "widgets: [? name : &n a, ? name : *n, ? name]" with
  | error fault =>
    rw [hd] at hc
    cases hc
  | ok document =>
    rw [hd] at hc
    obtain ⟨hb, hr⟩ := of_decide_eq_true hc
    have ha : ∀ earlier ∈ [WidgetDescriptor.mk "a" .empty, ⟨"a", .empty⟩],
        ¬ Text.AllBlank earlier.name.toList := by
      intro earlier hm
      have he : earlier.name = "a" := by rcases List.mem_pair.mp hm with rfl | rfl <;> rfl
      rw [he, ← isBlankText_iff]
      decide
    have hw : Text.AllBlank "".toList := isBlankText_iff.mp rfl
    exact (parse_accepts_format hd hb).2.1 _ ⟨"", .empty⟩ [] (format_of_ofDocument hr) ha hw

end MetricBoard.Dashboard
