import MetricBoard.Platform
import MetricBoard.Time.Window
import MetricBoard.Widget.Request

/-!
# Plans

What a widget will ask the provider, decided from its request alone. A request whose settings
cannot be read has no plan, and then nothing is asked.
-/

namespace MetricBoard

/-- The query of a widget; for a table also how many rows of the answer are shown. -/
inductive Plan where
  | count (query : CountQuery)
  | rows (query : RowQuery) (limit : Nat)
  | series (query : SeriesQuery)
  deriving DecidableEq, Repr

namespace Plan

def query : Plan → Query
  | .count query => .count query
  | .rows query _ => .rows query
  | .series query => .series query

end Plan

namespace WidgetRequest

/-- The rows of one repository: the limit is both asked for and kept to. -/
def rowsPlan (request : WidgetRequest) (query : String → Nat → RowQuery) :
    Except WidgetError Plan := do
  let limit ← request.rowLimit
  pure (.rows (query request.repository limit) limit)

/-- The repositories: which columns and in which order is asked too. -/
def repositoriesPlan (request : WidgetRequest) : Except WidgetError Plan := do
  let limit ← request.rowLimit
  pure (.rows (.repositories limit request.order request.metrics) limit)

/-- Commits by week: both dates are written in weeks, which is checked for both before either
count is read. -/
def commitsPlan (request : WidgetRequest) : Except WidgetError Plan := do
  let start := request.startDate
  let stop := request.endDate
  request.located .startDate (requireUnit start .weeks)
  request.located .endDate (requireUnit stop .weeks)
  let startWeeks ← request.located .startDate (countPeriod start)
  let endWeeks ← request.located .endDate (countPeriod stop)
  pure (.series (.commits request.repository request.scope startWeeks endWeeks request.now))

/-- Stars by day: both dates are written in days and resolved against the same instant. -/
def starsPlan (request : WidgetRequest) : Except WidgetError Plan := do
  let start := request.startDate
  let stop := request.endDate
  request.located .startDate (requireUnit start .days)
  request.located .endDate (requireUnit stop .days)
  let range ← (convertDates request.now start stop).mapError (·.inWidget request.id)
  pure (.series (.stars request.repository range.start range.stop))

def plan (request : WidgetRequest) : Except WidgetError Plan :=
  match request.kind with
  | .boxStars => .ok (.count (.stars request.repository))
  | .boxWatchers => .ok (.count (.watchers request.repository))
  | .boxOpenIssues => .ok (.count (.openIssues request.repository))
  | .tableRepositories => request.repositoriesPlan
  | .tableBranches => request.rowsPlan .branches
  | .tableIssues => request.rowsPlan .issues
  | .tablePullRequests => request.rowsPlan .pullRequests
  | .barViews => .ok (.series (.views request.repository))
  | .barCommits => request.commitsPlan
  | .barStars => request.starsPlan

end WidgetRequest

end MetricBoard
