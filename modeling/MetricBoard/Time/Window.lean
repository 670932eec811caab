import MetricBoard.Error
import MetricBoard.Options.Reading
import MetricBoard.Time.Instant
import MetricBoard.Time.RelativeDate

/-!
# Windows of time

What widgets make of relative dates: a count of weeks for queries that count back themselves, a
pair of days resolved against one instant, and the check that an expression is written in a
given unit before anything is queried.
-/

namespace MetricBoard

/-- An expression that is none of the forms wanted. Neither the widget nor the option is known
yet. -/
def malformedDate (expression expected : String) : WidgetError :=
  .malformedDate "" "" expression expected

def countForms : List DateForm := [.ago .weeks, .ago .days]

def unitForms : DateUnit → List DateForm
  | .days => [.ago .days, .today]
  | .weeks => [.ago .weeks]
  | .months => [.ago .months]

/-- What is wanted of a count of days that leaves the calendar. -/
def calendarWish : String := "a day offset within the calendar range"

/-- The count of an expression in weeks or days. -/
def countPeriod (expression : String) : Except WidgetError Nat :=
  match RelativeDate.parse? expression with
  | some (.ago count .weeks) | some (.ago count .days) => .ok count
  | _ => .error (malformedDate expression (DateForm.anyOf countForms))

def daysBack? (expression : String) : Option Nat :=
  match RelativeDate.parse? expression with
  | some .today => some 0
  | some (.ago count .days) => some count
  | _ => none

/-- The first instant of the day that an expression means. -/
def resolveDay (now : Instant) (expression : String) : Except WidgetError Instant :=
  match daysBack? expression with
  | none => .error (malformedDate expression (DateForm.anyOf (unitForms .days)))
  | some count =>
      let day := now.day - count
      if firstDay ≤ day then .ok (.ofDay day)
      else .error (malformedDate expression calendarWish)

/-- Two days, in the order in which they were asked for. -/
structure DateRange where
  start : Instant
  stop : Instant
  deriving DecidableEq, Repr

/-- The days of two expressions, against the same instant. An error names the option that each
of them is given by. -/
def convertDates (now : Instant) (start stop : String) : Except WidgetError DateRange := do
  let start ← (resolveDay now start).mapError (·.forOption Setting.startDate.key)
  let stop ← (resolveDay now stop).mapError (·.forOption Setting.endDate.key)
  pure ⟨start, stop⟩

/-- An expression mentions the words of a unit, or today where days are wanted. The rest of the
expression is not looked at. -/
def mentions (unit : DateUnit) (expression : String) : Bool :=
  let text := Text.trimmed expression
  Text.contains unit.agoToken.toList text || (unit == .days && RelativeDate.isToday text)

/-- An expression is written in a unit. -/
def requireUnit (expression : String) (unit : DateUnit) : Except WidgetError Unit :=
  if mentions unit expression then .ok ()
  else .error (malformedDate expression (DateForm.anyOf (unitForms unit)))

end MetricBoard
