import MetricBoard.Engine.Report

/-!
# Sessions

Single widgets and whole dashboards are rendered on one platform, one operation after the other.
The state of the platform is all that one operation hands on to the next.
-/

namespace MetricBoard

/-- Something to be rendered, for an instant. -/
inductive Operation where
  | widget (id : String) (options : OptionBag) (now : Instant)
  | dashboard (widgets : List WidgetDescriptor) (policy : FailurePolicy) (now : Instant)

inductive Outcome where
  | widget (rendered : Rendered)
  | dashboard (report : Report)
  deriving DecidableEq

variable {σ : Type}

namespace Run

def map {α β : Type} (f : α → β) (run : Run σ α) : Run σ β :=
  ⟨run.result.map f, run.calls, run.state⟩

end Run

namespace Platform

def perform (platform : Platform σ) (operation : Operation) (state : σ) : Run σ Outcome :=
  match operation with
  | .widget id options now => (platform.dispatch id options now state).map .widget
  | .dashboard widgets policy now =>
      (platform.renderAll policy now widgets state).map .dashboard

/-- Operations in their order, each from the state that the one before it left. -/
def performAll (platform : Platform σ) : List Operation → σ → List (Run σ Outcome)
  | [], _ => []
  | operation :: operations, state =>
      let run := platform.perform operation state
      run :: platform.performAll operations run.state

end Platform

end MetricBoard
