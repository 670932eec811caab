import MetricBoard.Error
import MetricBoard.Options.Bag
import MetricBoard.Time.Instant

/-!
# The platform

What widgets need from outside: a provider that answers queries about repositories, and a
display on which the answers are painted. Both may keep a state and may fail at any call.
-/

namespace MetricBoard

/-- A row of a table: its columns and their cells. -/
abbrev Row := List (String × String)

/-- Counts over time, with a label for each. -/
structure Series where
  labels : List String
  counts : List Nat
  deriving DecidableEq, Repr

inductive CountQuery where
  | stars (repository : String)
  | watchers (repository : String)
  | openIssues (repository : String)
  deriving DecidableEq, Repr

/-- Queries for rows. The provider may answer with more rows than the limit. -/
inductive RowQuery where
  | repositories (limit : Nat) (order : String) (metrics : List String)
  | branches (repository : String) (limit : Nat)
  | issues (repository : String) (limit : Nat)
  | pullRequests (repository : String) (limit : Nat)
  deriving DecidableEq, Repr

inductive SeriesQuery where
  | views (repository : String)
  /-- Commits by week, both ends counted back from `now`. -/
  | commits (repository scope : String) (startWeeks endWeeks : Nat) (now : Instant)
  | stars (repository : String) (start stop : Instant)
  deriving DecidableEq, Repr

inductive Query where
  | count (query : CountQuery)
  | rows (query : RowQuery)
  | series (query : SeriesQuery)
  deriving DecidableEq, Repr

inductive Picture where
  | box (value : String)
  | table (rows : List Row)
  | chart (counts : List Nat) (labels : List String)
  deriving DecidableEq, Repr

/-- A picture with its title and all options of its widget, which may hold its layout. -/
structure Painting where
  picture : Picture
  title : String
  options : OptionBag
  deriving DecidableEq

structure Provider (σ : Type) where
  count : CountQuery → σ → Except Fault Nat × σ
  rows : RowQuery → σ → Except Fault (List Row) × σ
  series : SeriesQuery → σ → Except Fault Series × σ

structure Display (σ : Type) where
  paint : Painting → σ → Except Fault Unit × σ

/-- Both sides of the platform, over one state. -/
structure Platform (σ : Type) where
  provider : Provider σ
  display : Display σ

inductive Call where
  | query (query : Query)
  | paint (painting : Painting)
  deriving DecidableEq

/-- A call that was made, and how it failed if it did. -/
structure CallRecord where
  call : Call
  fault : Option Fault
  deriving DecidableEq

end MetricBoard
