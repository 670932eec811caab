import MetricBoard.Error

/-!
# Kinds of widget

The ten kinds, in three families: boxes show one number, tables show rows and bar charts show
a series. Every kind has an identifier, which is matched as it stands.
-/

namespace MetricBoard

/-- What a widget shows. -/
inductive WidgetKind where
  | boxStars
  | boxWatchers
  | boxOpenIssues
  | tableRepositories
  | tableBranches
  | tableIssues
  | tablePullRequests
  | barViews
  | barCommits
  | barStars
  deriving DecidableEq, Repr

namespace WidgetKind

def service : String := "github"

/-- All kinds, in the order in which they are listed. -/
def all : List WidgetKind :=
  [.boxStars, .boxWatchers, .boxOpenIssues, .tableRepositories, .tableBranches, .tableIssues,
   .tablePullRequests, .barViews, .barCommits, .barStars]

def id : WidgetKind → String
  | .boxStars => "github.box_stars"
  | .boxWatchers => "github.box_watchers"
  | .boxOpenIssues => "github.box_open_issues"
  | .tableRepositories => "github.table_repositories"
  | .tableBranches => "github.table_branches"
  | .tableIssues => "github.table_issues"
  | .tablePullRequests => "github.table_pull_requests"
  | .barViews => "github.bar_views"
  | .barCommits => "github.bar_commits"
  | .barStars => "github.bar_stars"

def name : WidgetKind → String
  | .boxStars => "BoxStars"
  | .boxWatchers => "BoxWatchers"
  | .boxOpenIssues => "BoxOpenIssues"
  | .tableRepositories => "TableRepositories"
  | .tableBranches => "TableBranches"
  | .tableIssues => "TableIssues"
  | .tablePullRequests => "TablePullRequests"
  | .barViews => "BarViews"
  | .barCommits => "BarCommits"
  | .barStars => "BarStars"

theorem mem_all (kind : WidgetKind) : kind ∈ all := by cases kind <;> decide

def ofId? (id : String) : Option WidgetKind :=
  all.find? fun kind => kind.id == id

/-- Every kind is found by its identifier. -/
theorem ofId?_id (kind : WidgetKind) : ofId? kind.id = some kind := by
  cases kind <;> decide

/-- No two kinds share an identifier. -/
theorem eq_of_id_eq {kind other : WidgetKind} (h : kind.id = other.id) : kind = other := by
  have hk : some kind = some other := by rw [← ofId?_id kind, h, ofId?_id]
  exact Option.some.inj hk

theorem id_of_ofId? {id : String} {kind : WidgetKind} (h : ofId? id = some kind) :
    kind.id = id := by
  have found := List.find?_some h
  simpa using found

/-- The kind with an identifier, or the error that names the identifier. -/
def ofId (id : String) : Except WidgetError WidgetKind :=
  match ofId? id with
  | some kind => .ok kind
  | none => .error (.unknownWidget id service)

end WidgetKind

end MetricBoard
