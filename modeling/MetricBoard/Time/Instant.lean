/-!
# Instants and days

An instant is counted in seconds from the start of 1970, with the nanoseconds inside the second;
a leap second has up to twice as many. A day is counted from the same origin. Days exist from
the first of January of year -262143 on, in the calendar extended to all years.
-/

namespace MetricBoard

/-- A moment in universal time. -/
structure Instant where
  seconds : Int
  nanoseconds : Nat
  deriving DecidableEq, Repr

def secondsPerDay : Int := 86400

/-- How many leap years there are before a year, up to a constant. -/
def leapYearsBefore (year : Int) : Int :=
  (year - 1).fdiv 4 - (year - 1).fdiv 100 + (year - 1).fdiv 400

/-- The first of January of a year, as a day counted from that of 1970. -/
def newYear (year : Int) : Int :=
  365 * (year - 1970) + (leapYearsBefore year - leapYearsBefore 1970)

def firstDay : Int := newYear (-262143)

theorem firstDay_eq : firstDay = -96465292 := by decide

namespace Instant

def day (instant : Instant) : Int := instant.seconds.fdiv secondsPerDay

/-- The first instant of a day. -/
def ofDay (day : Int) : Instant := ⟨day * secondsPerDay, 0⟩

end Instant

end MetricBoard
