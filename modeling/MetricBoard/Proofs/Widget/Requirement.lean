import MetricBoard.Options.Reading

/-!
# Requirements in order

A reading that puts several requirements to the expressions of its dates, one after the other,
fails with the error about the first of them that is not met. Readings that follow one another
put their requirements in the same order.
-/

namespace MetricBoard

/-- What the expression of a date option must meet, and what is said to be expected where it does
not. -/
structure Requirement where
  setting : Setting
  expression : String
  met : Prop
  expected : String

/-- The error that a requirement is not met by a widget. -/
def Requirement.error (id : String) (requirement : Requirement) : WidgetError :=
  .malformedDate id requirement.setting.key requirement.expression requirement.expected

/-- The first of some requirements that is not met. -/
inductive FirstUnmet : List Requirement → Requirement → Prop
  | here {requirement : Requirement} {rest : List Requirement} (unmet : ¬ requirement.met) :
      FirstUnmet (requirement :: rest) requirement
  | later {earlier requirement : Requirement} {rest : List Requirement} (met : earlier.met)
      (first : FirstUnmet rest requirement) : FirstUnmet (earlier :: rest) requirement

theorem FirstUnmet.unmet {requirements : List Requirement} {requirement : Requirement}
    (h : FirstUnmet requirements requirement) :
    requirement ∈ requirements ∧ ¬ requirement.met := by
  induction h with
  | here unmet => exact ⟨List.mem_cons_self, unmet⟩
  | later _ _ ih => exact ⟨List.mem_cons_of_mem _ ih.1, ih.2⟩

theorem FirstUnmet.not_all_met {requirements : List Requirement} {requirement : Requirement}
    (h : FirstUnmet requirements requirement) : ¬ ∀ other ∈ requirements, other.met := by
  intro hall
  obtain ⟨hm, hn⟩ := h.unmet
  exact hn (hall requirement hm)

theorem firstUnmet_append_of_met {front : List Requirement}
    (h : ∀ requirement ∈ front, requirement.met) {back : List Requirement}
    {requirement : Requirement} :
    FirstUnmet (front ++ back) requirement ↔ FirstUnmet back requirement := by
  induction front with
  | nil => exact Iff.rfl
  | cons first front ih =>
    obtain ⟨hf, hrest⟩ := List.forall_mem_cons.mp h
    rw [List.cons_append, ← ih hrest]
    constructor
    · intro hu
      cases hu with
      | here unmet => exact absurd hf unmet
      | later _ later => exact later
    · exact .later hf

theorem FirstUnmet.append {front : List Requirement} {requirement : Requirement}
    (h : FirstUnmet front requirement) (back : List Requirement) :
    FirstUnmet (front ++ back) requirement := by
  induction h with
  | here unmet => exact .here unmet
  | later met _ ih => exact .later met ih

theorem FirstUnmet.unique {requirements : List Requirement} {requirement other : Requirement}
    (h : FirstUnmet requirements requirement) (ho : FirstUnmet requirements other) :
    requirement = other := by
  induction h with
  | here unmet =>
    cases ho with
    | here => rfl
    | later met => exact absurd met unmet
  | later met _ ih =>
    cases ho with
    | here unmet => exact absurd met unmet
    | later _ first => exact ih first

/-! ## Readings -/

/-- The reading puts its requirements one after the other: it fails with the error about the first
that is not met, and gives a value with this property where all are met. -/
def Puts {α : Type} (requirements : List Requirement) (blame : Requirement → WidgetError)
    (property : α → Prop) : Except WidgetError α → Prop
  | .ok value => (∀ requirement ∈ requirements, requirement.met) ∧ property value
  | .error error =>
      ∃ requirement, FirstUnmet requirements requirement ∧ error = blame requirement

section

variable {α β : Type} {requirements others : List Requirement}
  {blame : Requirement → WidgetError} {property : α → Prop} {other : β → Prop}
  {result : Except WidgetError α}

theorem puts_nothing {value : α} (h : property value) :
    Puts [] blame property (.ok value : Except WidgetError α) :=
  ⟨List.forall_mem_nil _, h⟩

theorem puts_single {requirement : Requirement}
    (hm : requirement.met → ∃ value, result = .ok value ∧ property value)
    (hn : ¬ requirement.met → result = .error (blame requirement)) :
    Puts [requirement] blame property result := by
  by_cases hmet : requirement.met
  · obtain ⟨value, rfl, hp⟩ := hm hmet
    exact ⟨List.forall_mem_singleton.mpr hmet, hp⟩
  · rw [hn hmet]
    exact ⟨requirement, .here hmet, rfl⟩

/-- The reading that follows puts its requirements to what has passed those of the first. -/
theorem Puts.bind {next : α → Except WidgetError β} (h : Puts requirements blame property result)
    (hn : ∀ value, property value → Puts others blame other (next value)) :
    Puts (requirements ++ others) blame other (result >>= next) := by
  cases result with
  | error error =>
    obtain ⟨requirement, hu, he⟩ := h
    exact ⟨requirement, hu.append others, he⟩
  | ok value =>
    obtain ⟨hmet, hp⟩ := h
    have hrest := hn value hp
    change Puts _ _ _ (next value)
    cases hv : next value with
    | error error =>
      rw [hv] at hrest
      obtain ⟨requirement, hu, he⟩ := hrest
      exact ⟨requirement, (firstUnmet_append_of_met hmet).mpr hu, he⟩
    | ok last =>
      rw [hv] at hrest
      exact ⟨List.forall_mem_append.mpr ⟨hmet, hrest.1⟩, hrest.2⟩

theorem Puts.mapError {relabel : WidgetError → WidgetError} {label : Requirement → WidgetError}
    (h : Puts requirements blame property result)
    (hl : ∀ requirement ∈ requirements, relabel (blame requirement) = label requirement) :
    Puts requirements label property (result.mapError relabel) := by
  cases result with
  | error error =>
    obtain ⟨requirement, hu, rfl⟩ := h
    exact ⟨requirement, hu, hl requirement hu.unmet.1⟩
  | ok value => exact h

theorem Puts.of_ok {value : α} (h : Puts requirements blame property result)
    (hr : result = .ok value) :
    (∀ requirement ∈ requirements, requirement.met) ∧ property value := by
  rw [hr] at h
  exact h

/-- A reading whose requirements are all met does not fail. -/
theorem Puts.exists_ok (h : Puts requirements blame property result)
    (hm : ∀ requirement ∈ requirements, requirement.met) :
    ∃ value, result = .ok value ∧ property value := by
  cases result with
  | error error =>
    obtain ⟨requirement, hu, -⟩ := h
    exact absurd hm hu.not_all_met
  | ok value => exact ⟨value, rfl, h.2⟩

/-- The errors of a reading are told by its requirements alone. -/
theorem Puts.eq_error_iff {found : WidgetError} (h : Puts requirements blame property result) :
    result = .error found ↔
      ∃ requirement, FirstUnmet requirements requirement ∧ found = blame requirement := by
  cases result with
  | error error =>
    obtain ⟨requirement, hu, rfl⟩ := h
    constructor
    · intro hf
      exact ⟨requirement, hu, (Except.error.inj hf).symm⟩
    · rintro ⟨later, hl, rfl⟩
      rw [hl.unique hu]
  | ok value =>
    constructor
    · intro hf
      cases hf
    · rintro ⟨requirement, hu, -⟩
      exact absurd h.1 hu.not_all_met

end

end MetricBoard
