import MetricBoard.Options.Reading
import MetricBoard.Time.Instant
import MetricBoard.Widget.Spec

/-!
# Widget requests

A widget to be rendered: its kind, its options, and the instant that it is rendered for. The
settings of a request are its options where they are given and the defaults of the kind
elsewhere.
-/

namespace MetricBoard

structure WidgetRequest where
  kind : WidgetKind
  options : OptionBag
  now : Instant
  deriving DecidableEq

namespace WidgetRequest

def id (request : WidgetRequest) : String := request.kind.id

def setting (request : WidgetRequest) (setting : Setting) (default : String) : String :=
  request.options.get setting.key default

/-- The repository, without a default. -/
def repository (request : WidgetRequest) : String :=
  request.setting .repository ""

/-- The title as given, or the default title about the repository. -/
def title (request : WidgetRequest) : String :=
  request.setting .title (TitlePart.fill request.repository request.kind.title)

def rowLimit (request : WidgetRequest) : Except WidgetError Nat :=
  (request.options.getCount Setting.rowLimit.key request.kind.defaults.rowLimit).mapError
    (·.inWidget request.id)

def metrics (request : WidgetRequest) : List String :=
  request.options.getList Setting.metrics.key request.kind.defaults.metrics listSeparator

def order (request : WidgetRequest) : String :=
  request.setting .order request.kind.defaults.order

/-- Whose commits are counted. -/
def scope (request : WidgetRequest) : String :=
  request.setting .scope request.kind.defaults.scope

def startDate (request : WidgetRequest) : String :=
  request.setting .startDate request.kind.defaults.startDate

def endDate (request : WidgetRequest) : String :=
  request.setting .endDate request.kind.defaults.endDate

/-- A validation error is labelled with the setting and the widget that it is about. -/
def located {α : Type} (request : WidgetRequest) (setting : Setting)
    (result : Except WidgetError α) : Except WidgetError α :=
  result.mapError fun error => (error.forOption setting.key).inWidget request.id

end WidgetRequest

end MetricBoard
