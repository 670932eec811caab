import MetricBoard.Widget.Plan

/-!
# Families of widgets

Each kind of widget has one operation of the provider to itself, and the widgets of a family
share an operation of the display.
-/

namespace MetricBoard

/-- The families of widgets, by the operation of the display that shows them. -/
inductive Family where
  | box
  | table
  | chart
  deriving DecidableEq, Repr

def WidgetKind.family : WidgetKind → Family
  | .boxStars | .boxWatchers | .boxOpenIssues => .box
  | .tableRepositories | .tableBranches | .tableIssues | .tablePullRequests => .table
  | .barViews | .barCommits | .barStars => .chart

/-- The family whose display operation paints a picture. -/
def Picture.family : Picture → Family
  | .box _ => .box
  | .table _ => .table
  | .chart .. => .chart

namespace Query

/-- The kind of widget that makes a query. -/
def asker : Query → WidgetKind
  | .count (.stars _) => .boxStars
  | .count (.watchers _) => .boxWatchers
  | .count (.openIssues _) => .boxOpenIssues
  | .rows (.repositories ..) => .tableRepositories
  | .rows (.branches ..) => .tableBranches
  | .rows (.issues ..) => .tableIssues
  | .rows (.pullRequests ..) => .tablePullRequests
  | .series (.views _) => .barViews
  | .series (.commits ..) => .barCommits
  | .series (.stars ..) => .barStars

/-- The family of widgets that the answer is for. -/
def family : Query → Family
  | .count _ => .box
  | .rows _ => .table
  | .series _ => .chart

/-- Queries are answered with pictures for the family of the kind that asks. -/
theorem family_asker (query : Query) : query.asker.family = query.family := by
  rcases query with query | query | query <;> cases query <;> rfl

end Query

end MetricBoard
