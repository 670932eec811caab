import MetricBoard.Number.Digits
import MetricBoard.Text.Parts

/-!
# Relative dates

A date counted back from now: `today` or `now`, or a count of days, weeks or months ago. Blanks
around it do not count. The count is one or more ASCII digits, with any number of leading
zeros, below 2 ^ 64.
-/

namespace MetricBoard

inductive DateUnit where
  | days
  | weeks
  | months
  deriving DecidableEq, Repr

namespace DateUnit

def all : List DateUnit := [.days, .weeks, .months]

def name : DateUnit → String
  | .days => "days"
  | .weeks => "weeks"
  | .months => "months"

/-- The words that end a relative date of this unit. -/
def agoToken (unit : DateUnit) : String := unit.name ++ "_ago"

/-- The unit whose words, after an underscore, are the whole text. -/
def ofEnding? (ending : List Char) : Option DateUnit :=
  all.find? fun unit => ending == '_' :: unit.agoToken.toList

end DateUnit

/-- A date counted back from now. -/
inductive RelativeDate where
  | today
  | ago (count : Nat) (unit : DateUnit)
  deriving DecidableEq, Repr

namespace RelativeDate

/-- The text is one of the two words for the current day. -/
def isToday (text : List Char) : Bool :=
  text == "today".toList || text == "now".toList

/-- A count and the words of a unit, without blanks. -/
def countAgo? (text : List Char) : Option RelativeDate := do
  let count ← Number.natural? 10 (text.takeWhile Char.isDigit)
  let unit ← DateUnit.ofEnding? (text.dropWhile Char.isDigit)
  if count < Number.countBound then some (.ago count unit) else none

/-- The relative date that an expression spells. -/
def parse? (expression : String) : Option RelativeDate :=
  let text := Text.trimmed expression
  if isToday text then some .today else countAgo? text

end RelativeDate

/-- A form of relative date, as an error advertises it. -/
inductive DateForm where
  | today
  | ago (unit : DateUnit)
  deriving DecidableEq, Repr

namespace DateForm

/-- The text of a form, with a placeholder for the count. -/
def text : DateForm → String
  | .today => "today"
  | .ago unit => "<integer>_" ++ unit.agoToken

/-- The text of several forms of which any one will do. -/
def anyOf (forms : List DateForm) : String :=
  Text.joined " or " (forms.map text)

end DateForm

end MetricBoard
