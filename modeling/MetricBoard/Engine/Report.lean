import MetricBoard.Dashboard
import MetricBoard.Engine.Dispatch

/-!
# Rendering a dashboard

The widgets of a dashboard are rendered one after the other, for one instant. What happens at a
widget that fails is a matter of policy: the run ends with its error, or the failure is noted
and the run goes on.
-/

namespace MetricBoard

inductive FailurePolicy where
  | abort
  | skip
  deriving DecidableEq, Repr

namespace FailurePolicy

def default : FailurePolicy := .abort

end FailurePolicy

/-- What became of the widgets: those rendered, and the names and errors of the others. -/
structure Report where
  rendered : List Rendered
  failures : List (String × WidgetError)
  deriving DecidableEq

namespace Report

def empty : Report := ⟨[], []⟩

def isComplete (report : Report) : Bool := report.failures.isEmpty

/-- A widget came before those of the report. -/
def cons (name : String) (result : Except WidgetError Rendered) (report : Report) : Report :=
  match result with
  | .ok rendered => { report with rendered := rendered :: report.rendered }
  | .error error => { report with failures := (name, error) :: report.failures }

end Report

variable {σ : Type}

/-- The widgets are rendered in their order, each from the state that the one before it left. -/
def Platform.renderAll (platform : Platform σ) (policy : FailurePolicy) (now : Instant) :
    List WidgetDescriptor → σ → Run σ Report
  | [], state => ⟨.ok .empty, [], state⟩
  | widget :: widgets, state =>
      let first := platform.dispatch widget.name widget.options now state
      match first.result, policy with
      | .error error, .abort => ⟨.error error, first.calls, first.state⟩
      | result, _ =>
          let others := platform.renderAll policy now widgets first.state
          ⟨others.result.map (Report.cons widget.name result), first.calls ++ others.calls,
            others.state⟩

end MetricBoard
