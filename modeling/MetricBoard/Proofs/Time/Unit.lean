import MetricBoard.Proofs.Time.Grammar

/-!
# Units of relative dates

Whether an expression is in a unit is asked before the expression is read, by looking for the words
of the unit anywhere in it. On expressions that can be read, this comes to the same as reading the
date and looking at its unit. Other expressions may pass or not; they are refused by the reader.
-/

namespace MetricBoard

open RelativeDate (Expresses parse?)

/-- What is expected of an expression that is to be in a unit. -/
def DateUnit.expected : DateUnit → String
  | .days => "<integer>_days_ago or today"
  | .weeks => "<integer>_weeks_ago"
  | .months => "<integer>_months_ago"

/-- All that is ever expected of a date. -/
def dateExpectations : List String :=
  ["<integer>_weeks_ago or <integer>_days_ago", "a day offset within the calendar range"] ++
    DateUnit.all.map DateUnit.expected

theorem anyOf_unitForms (unit : DateUnit) :
    DateForm.anyOf (unitForms unit) = unit.expected := by
  cases unit <;> decide

/-- The unit that a date is counted in. The current day counts as days. -/
inductive RelativeDate.CountedIn : RelativeDate → DateUnit → Prop
  | today : CountedIn .today .days
  | ago (count : Nat) (unit : DateUnit) : CountedIn (.ago count unit) unit

variable {expression : String} {date : RelativeDate} {unit : DateUnit}

theorem RelativeDate.isIn_iff : date.isIn unit = true ↔ date.CountedIn unit := by
  constructor
  · intro h
    cases date with
    | today =>
      obtain rfl : unit = .days := by simpa [isIn] using h
      exact .today
    | ago count other =>
      obtain rfl : unit = other := by simpa [isIn] using h
      exact .ago count unit
  · intro h
    cases h with
    | today => rfl
    | ago count unit => exact beq_self_eq_true unit

/-! ## The check -/

theorem requireUnit_eq_ok_iff :
    requireUnit expression unit = .ok () ↔ mentions unit expression = true := by
  unfold requireUnit
  cases mentions unit expression <;> simp

theorem requireUnit_eq_error_iff {error : WidgetError} :
    requireUnit expression unit = .error error ↔
      mentions unit expression = false ∧ error = malformedDate expression unit.expected := by
  unfold requireUnit
  rw [anyOf_unitForms]
  cases mentions unit expression <;> simp [eq_comm]

/-- What can be read passes the check of its own unit and of no other. -/
theorem requireUnit_eq_ok_iff_of_expresses (h : Expresses expression date) :
    requireUnit expression unit = .ok () ↔ date.CountedIn unit := by
  rw [requireUnit_eq_ok_iff, RelativeDate.mentions_of_expresses h, RelativeDate.isIn_iff]

theorem requireUnit_eq_error_iff_of_expresses (h : Expresses expression date)
    {error : WidgetError} :
    requireUnit expression unit = .error error ↔
      ¬ date.CountedIn unit ∧ error = malformedDate expression unit.expected := by
  rw [requireUnit_eq_error_iff, RelativeDate.mentions_of_expresses h, ← RelativeDate.isIn_iff,
    Bool.not_eq_true]

/-! ## Blanks around an expression -/

theorem RelativeDate.Expresses.surrounded (h : Expresses expression date) {before after : String}
    (hb : Text.AllBlank before.toList) (ha : Text.AllBlank after.toList) :
    Expresses (before ++ expression ++ after) date := by
  have hs : Text.Surrounds expression.toList (before ++ expression ++ after).toList :=
    ⟨before.toList, after.toList, hb, ha, by simp only [String.toList_append]⟩
  have ht : Text.trimmed (before ++ expression ++ after) = Text.trimmed expression :=
    Text.trim_of_surrounds hs
  rw [expresses_iff] at h ⊢
  rwa [ht]

/-- Of the expressions that can be read, the check of a unit lets through those that are counted in
it, and refuses all others with an error that repeats the expression and names neither widget nor
option. Blanks around an expression make no difference to the reader or to the check. -/
theorem unit_check_agrees_with_reader (h : parse? expression = some date) (unit : DateUnit) :
    (requireUnit expression unit = .ok () ↔ date.CountedIn unit) ∧
    (∀ error, requireUnit expression unit = .error error ↔
      ¬ date.CountedIn unit ∧ error = .malformedDate "" "" expression unit.expected) ∧
    ∀ before after : String, Text.AllBlank before.toList → Text.AllBlank after.toList →
      parse? (before ++ expression ++ after) = some date ∧
      (requireUnit (before ++ expression ++ after) unit = .ok () ↔
        requireUnit expression unit = .ok ()) := by
  have he : Expresses expression date := RelativeDate.parse?_eq_some_iff.mp h
  refine ⟨requireUnit_eq_ok_iff_of_expresses he,
    fun error => requireUnit_eq_error_iff_of_expresses he, fun before after hb ha => ?_⟩
  have hs := he.surrounded hb ha
  refine ⟨RelativeDate.parse?_eq_some_iff.mpr hs, ?_⟩
  rw [requireUnit_eq_ok_iff_of_expresses hs, requireUnit_eq_ok_iff_of_expresses he]

/-- A count of weeks between blanks is in weeks and not in days. -/
theorem weeks_are_not_days :
    let expression := "\u3000007_weeks_ago\n"
    parse? expression = some (.ago 7 .weeks) ∧
    requireUnit expression .weeks = .ok () ∧
    requireUnit expression .days =
      .error (.malformedDate "" "" expression "<integer>_days_ago or today") := by
  intro expression
  have h : parse? expression = some (.ago 7 .weeks) := by decide
  have hd : ¬ (RelativeDate.ago 7 .weeks).CountedIn .days := nofun
  exact ⟨h, (unit_check_agrees_with_reader h .weeks).1.mpr (.ago 7 .weeks),
    ((unit_check_agrees_with_reader h .days).2.1 _).mpr ⟨hd, rfl⟩⟩

end MetricBoard
