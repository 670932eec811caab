import MetricBoard.Error

/-!
# Labels of errors

An error about an option is labelled on its way out, and more than once: where the option is
read, where dates are resolved, and by the widget. Of all the names that are offered for one
label, the label that is there already included, the first that is not empty stays. The two labels
do not meddle with each other, so that it does not matter in which order they are given.
-/

namespace MetricBoard

/-- A name that is offered for one of the labels of an error. -/
inductive Labelling where
  | option (name : String)
  | widget (id : String)
  deriving DecidableEq, Repr

namespace Labelling

def option? : Labelling → Option String
  | .option name => some name
  | .widget _ => none

def widget? : Labelling → Option String
  | .option _ => none
  | .widget id => some id

/-- The names that are offered for the option, in their order. -/
def options (labellings : List Labelling) : List String := labellings.filterMap option?

/-- The names that are offered for the widget, in their order. -/
def widgets (labellings : List Labelling) : List String := labellings.filterMap widget?

end Labelling

/-! ## The first name -/

/-- The first of some names that is not empty, or no name where all of them are. -/
def firstName (names : List String) : String := (names.find? (!·.isEmpty)).getD ""

theorem firstName_cons_empty {name : String} (h : name.isEmpty = true) (names : List String) :
    firstName (name :: names) = firstName names := by
  unfold firstName
  rw [List.find?_cons_of_neg (by simp [h])]

theorem firstName_cons_given {name : String} (h : name.isEmpty = false) (names : List String) :
    firstName (name :: names) = name := by
  unfold firstName
  rw [List.find?_cons_of_pos (by simp [h])]
  rfl

theorem firstName_singleton (name : String) : firstName [name] = name := by
  cases h : name.isEmpty with
  | true =>
    rw [firstName_cons_empty h]
    exact (String.isEmpty_iff.mp h).symm
  | false => exact firstName_cons_given h []

/-- A label takes a name as the first name is found. -/
theorem firstName_label (old new : String) (names : List String) :
    firstName (WidgetError.label old new :: names) = firstName (old :: new :: names) := by
  unfold WidgetError.label
  cases h : old.isEmpty with
  | true => exact (firstName_cons_empty h _).symm
  | false => rw [if_neg Bool.false_ne_true, firstName_cons_given h, firstName_cons_given h]

/-- A name that was there before is passed over, or is not reached. -/
theorem firstName_repeated {name : String} {names : List String} (h : name ∈ names)
    (later : List String) : firstName (names ++ name :: later) = firstName (names ++ later) := by
  unfold firstName
  rw [List.find?_append, List.find?_append]
  cases hf : names.find? (!·.isEmpty) with
  | some first => rfl
  | none =>
    have he : name.isEmpty = true := by simpa using List.find?_eq_none.mp hf name h
    rw [List.find?_cons_of_neg (by simp [he])]

namespace WidgetError

/-- The error with other names in its labels, where it has labels. -/
def relabel (widget option : String → String) : WidgetError → WidgetError
  | .invalidNumber id name value => .invalidNumber (widget id) (option name) value
  | .malformedDate id name expression expected =>
      .malformedDate (widget id) (option name) expression expected
  | other => other

theorem relabel_id (error : WidgetError) : error.relabel id id = error := by
  cases error <;> rfl

theorem relabel_relabel (error : WidgetError) (widget option later latest : String → String) :
    (error.relabel widget option).relabel later latest =
      error.relabel (later ∘ widget) (latest ∘ option) := by
  cases error <;> rfl

theorem relabel_of_not_validation {error : WidgetError} (h : error.isValidation = false)
    (widget option : String → String) : error.relabel widget option = error := by
  cases error with
  | invalidNumber => cases h
  | malformedDate => cases h
  | _ => rfl

theorem forOption_eq_relabel (error : WidgetError) (name : String) :
    error.forOption name = error.relabel id (label · name) := by
  cases error <;> rfl

theorem inWidget_eq_relabel (error : WidgetError) (widget : String) :
    error.inWidget widget = error.relabel (label · widget) id := by
  cases error <;> rfl

def labelled (error : WidgetError) : Labelling → WidgetError
  | .option name => error.forOption name
  | .widget id => error.inWidget id

/-- The error after several labellings, in their order. -/
def labelledAll (error : WidgetError) (labellings : List Labelling) : WidgetError :=
  labellings.foldl labelled error

open Labelling (options widgets)

/-- One labelling before others puts its name in front of theirs. -/
theorem relabel_labelled (error : WidgetError) (labelling : Labelling)
    (labellings : List Labelling) :
    (error.labelled labelling).relabel (fun id => firstName (id :: widgets labellings))
        (fun name => firstName (name :: options labellings)) =
      error.relabel (fun id => firstName (id :: widgets (labelling :: labellings)))
        (fun name => firstName (name :: options (labelling :: labellings))) := by
  cases labelling with
  | option offered =>
    have ho : (fun name => firstName (name :: options labellings)) ∘ (label · offered) =
        fun name => firstName (name :: offered :: options labellings) :=
      funext fun name => firstName_label name offered _
    rw [labelled, forOption_eq_relabel, relabel_relabel, ho]
    rfl
  | widget offered =>
    have hw : (fun id => firstName (id :: widgets labellings)) ∘ (label · offered) =
        fun id => firstName (id :: offered :: widgets labellings) :=
      funext fun id => firstName_label id offered _
    rw [labelled, inWidget_eq_relabel, relabel_relabel, hw]
    rfl

/-- Each label ends as the first of its names. -/
theorem labelledAll_eq_relabel (error : WidgetError) (labellings : List Labelling) :
    error.labelledAll labellings =
      error.relabel (fun id => firstName (id :: widgets labellings))
        (fun name => firstName (name :: options labellings)) := by
  induction labellings generalizing error with
  | nil =>
    have hf : (fun name => firstName [name]) = id := funext firstName_singleton
    change error = error.relabel (fun id => firstName [id]) fun name => firstName [name]
    rw [hf, relabel_id]
  | cons labelling labellings ih =>
    rw [← relabel_labelled]
    exact ih (error.labelled labelling)

/-- Of labellings only the names count that they offer for each label. -/
theorem labelledAll_congr {labellings others : List Labelling}
    (hw : widgets labellings = widgets others) (ho : options labellings = options others)
    (error : WidgetError) : error.labelledAll labellings = error.labelledAll others := by
  rw [labelledAll_eq_relabel, labelledAll_eq_relabel, hw, ho]

/-- A labelling that was given before changes nothing when it is given again. -/
theorem labelledAll_repeated {labelling : Labelling} {labellings : List Labelling}
    (h : labelling ∈ labellings) (later : List Labelling) (error : WidgetError) :
    error.labelledAll (labellings ++ labelling :: later) =
      error.labelledAll (labellings ++ later) := by
  rw [labelledAll_eq_relabel, labelledAll_eq_relabel]
  simp only [widgets, options, List.filterMap_append]
  cases labelling with
  | option offered =>
    have hm : offered ∈ options labellings := List.mem_filterMap.mpr ⟨_, h, rfl⟩
    congr 1
    funext name
    exact firstName_repeated (List.mem_cons_of_mem name hm) _
  | widget offered =>
    have hm : offered ∈ widgets labellings := List.mem_filterMap.mpr ⟨_, h, rfl⟩
    congr 1
    funext id
    exact firstName_repeated (List.mem_cons_of_mem id hm) _

/-- However often an error about an option is labelled, each of its labels is the first name that
is not empty, of the one that it came with and those that were offered for this label, and the
rest of it stays. Other errors stay as they are. So labellings for the option and for the widget
can be interleaved in any way, and one that is given again changes nothing. -/
theorem labels_are_first_names (labellings : List Labelling) :
    (∀ widget option value,
      (invalidNumber widget option value).labelledAll labellings =
        .invalidNumber (firstName (widget :: widgets labellings))
          (firstName (option :: options labellings)) value) ∧
    (∀ widget option expression expected,
      (malformedDate widget option expression expected).labelledAll labellings =
        .malformedDate (firstName (widget :: widgets labellings))
          (firstName (option :: options labellings)) expression expected) ∧
    (∀ error : WidgetError, error.isValidation = false → error.labelledAll labellings = error) ∧
    (∀ others, widgets labellings = widgets others → options labellings = options others →
      ∀ error : WidgetError, error.labelledAll labellings = error.labelledAll others) ∧
    ∀ labelling ∈ labellings, ∀ later, ∀ error : WidgetError,
      error.labelledAll (labellings ++ labelling :: later) =
        error.labelledAll (labellings ++ later) := by
  refine ⟨fun widget option value => labelledAll_eq_relabel _ _,
    fun widget option expression expected => labelledAll_eq_relabel _ _, fun error h => ?_,
    fun others hw ho error => labelledAll_congr hw ho error,
    fun labelling h later error => labelledAll_repeated h later error⟩
  rw [labelledAll_eq_relabel, relabel_of_not_validation h]

/-- The option that is named first stays, although an empty name came before it and another one
comes after the widget. -/
example :
    (malformedDate "" "" "soon" "today").labelledAll
      [.option "", .option "start_date", .widget "github.bar_stars", .option "end_date"] =
    .malformedDate "github.bar_stars" "start_date" "soon" "today" := by decide

end WidgetError

end MetricBoard
