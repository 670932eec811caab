import MetricBoard.Text.Parts
import MetricBoard.Text.Quoted
import MetricBoard.Widget.Kind

/-!
# Defaults of widgets

What a widget shows where its options say nothing: its title, how many rows, which columns, in
which order, whose commits, and over which time.
-/

namespace MetricBoard

inductive TitlePart where
  | words (text : String)
  /-- The place of the repository's name. -/
  | repository
  deriving DecidableEq, Repr

namespace TitlePart

/-- What stands for the repository where its name is not filled in. -/
def placeholder : String := "\x7brepository\x7d"

/-- The text of a title about a repository. -/
def fill (repository : String) (parts : List TitlePart) : String :=
  parts.foldr (fun part rest =>
    (match part with
      | .words text => text
      | .repository => repository) ++ rest) ""

end TitlePart

/-- The values of settings that are not given. The dates are empty for widgets that do not look
back in time. -/
structure WidgetDefaults where
  rowLimit : Nat
  metrics : List String
  order : String
  scope : String
  startDate : String
  endDate : String
  deriving DecidableEq, Repr

namespace WidgetDefaults

/-- The defaults that most widgets share. -/
def base : WidgetDefaults where
  rowLimit := 5
  metrics := ["name", "stars", "watchers", "forks", "open_issues"]
  order := "pushed"
  scope := "owner"
  startDate := ""
  endDate := ""

end WidgetDefaults

structure WidgetSpec where
  kind : WidgetKind
  title : List TitlePart
  defaults : WidgetDefaults
  deriving DecidableEq, Repr

namespace WidgetKind

def title : WidgetKind → List TitlePart
  | .boxStars => [.words " Github Stars for ", .repository]
  | .boxWatchers => [.words " Github Watchers "]
  | .boxOpenIssues => [.words " Github Open Issues "]
  | .tableRepositories => [.words " Github Repositories "]
  | .tableBranches => [.words " Github Branches "]
  | .tableIssues => [.words " Github Issues "]
  | .tablePullRequests => [.words " Github Pull Requests "]
  | .barViews => [.words " Github Views "]
  | .barCommits => [.words " Github Commit Per Week "]
  | .barStars => [.words " Github Stars "]

def defaults : WidgetKind → WidgetDefaults
  | .barCommits => { WidgetDefaults.base with startDate := "7_weeks_ago", endDate := "0_weeks_ago" }
  | .barStars => { WidgetDefaults.base with startDate := "7_days_ago", endDate := "today" }
  | _ => .base

def spec (kind : WidgetKind) : WidgetSpec := ⟨kind, kind.title, kind.defaults⟩

end WidgetKind

namespace WidgetSpec

def quotedList (texts : List String) : String :=
  "[" ++ Text.joined ", " (texts.map Text.quoted) ++ "]"

def group (name : String) (fields : List (String × String)) (tail : List String) : String :=
  let parts := fields.map (fun field => field.1 ++ ": " ++ field.2) ++ tail
  name ++ " \x7b " ++ Text.joined ", " parts ++ " \x7d"

def describeDefaults (defaults : WidgetDefaults) : String :=
  group "WidgetDefaults"
    [("row_limit", toString defaults.rowLimit), ("metrics", quotedList defaults.metrics),
     ("order", Text.quoted defaults.order), ("scope", Text.quoted defaults.scope),
     ("start_date", Text.quoted defaults.startDate), ("end_date", Text.quoted defaults.endDate)]
    []

def rawTitle (spec : WidgetSpec) : String :=
  TitlePart.fill TitlePart.placeholder spec.title

/-- The description of what is fixed for a kind; two dots say that there is more to it. -/
def describe (spec : WidgetSpec) : String :=
  group "WidgetSpec"
    [("kind", spec.kind.name), ("title", Text.quoted spec.rawTitle),
     ("defaults", describeDefaults spec.defaults)]
    [".."]

end WidgetSpec

end MetricBoard
