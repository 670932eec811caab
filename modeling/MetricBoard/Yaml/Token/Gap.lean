import MetricBoard.Yaml.Source

/-!
# Gaps inside flowing scalars

A plain or quoted scalar may run over blanks and line breaks. What the gap contributes to the
text depends on what follows it, so it is kept apart until the next character is known.
-/

namespace MetricBoard.Yaml

/-- The blanks and breaks since the last character of a scalar, latest first. -/
inductive Gap where
  /-- Blanks on one line. -/
  | blanks (run : List Char)
  /-- A first line break, absent when it was escaped, and the further breaks. -/
  | broken (first : Option Char) (more : List Char)
  deriving DecidableEq, Repr

namespace Gap

def empty : Gap := .blanks []

def isEmpty : Gap → Bool
  | .blanks run => run.isEmpty
  | .broken .. => false

def isBroken : Gap → Bool
  | .blanks _ => false
  | .broken .. => true

/-- The gap goes on with a blank or a break. Blanks next to a break do not count. -/
def push (gap : Gap) (c : Char) : Gap :=
  match gap with
  | .blanks run => if isBreak c then .broken (some c) [] else .blanks (c :: run)
  | .broken first more => if isBreak c then .broken first (c :: more) else gap

/-- What the gap contributes between two characters: blanks as they are, a single line feed
as a space, and of several breaks all but the first. A separator break is always kept. -/
def text : Gap → List Char
  | .blanks run => run.reverse
  | .broken (some '\n') [] => [' ']
  | .broken (some '\n') more => more.reverse
  | .broken (some c) more => c :: more.reverse
  | .broken none more => more.reverse

end Gap

end MetricBoard.Yaml
