import MetricBoard.Widget.Plan

/-!
# Rendering one widget

A widget is rendered by one query and one painting of the answer. Each run says what came of
it, which calls were made, in their order, and in which state they left the platform.
-/

namespace MetricBoard

structure Rendered where
  kind : WidgetKind
  title : String
  deriving DecidableEq, Repr

/-- What a run came to, the calls it made and the state it left. -/
structure Run (σ α : Type) where
  result : Except WidgetError α
  calls : List CallRecord
  state : σ

variable {σ : Type}

/-- The provider's answer to a plan, as a picture. Of the rows no more than the limit are
shown. -/
def Platform.ask (platform : Platform σ) (plan : Plan) (state : σ) : Except Fault Picture × σ :=
  match plan with
  | .count query =>
      let (answer, state) := platform.provider.count query state
      (answer.map fun count => .box (toString count), state)
  | .rows query limit =>
      let (answer, state) := platform.provider.rows query state
      (answer.map fun rows => .table (rows.take limit), state)
  | .series query =>
      let (answer, state) := platform.provider.series query state
      (answer.map fun series => .chart series.counts series.labels, state)

namespace WidgetRequest

/-- The answer to a plan is asked for and painted. -/
def perform (request : WidgetRequest) (platform : Platform σ) (plan : Plan) (state : σ) :
    Run σ Rendered :=
  match platform.ask plan state with
  | (.error fault, state) =>
      ⟨.error (.provider request.id fault), [⟨.query plan.query, some fault⟩], state⟩
  | (.ok picture, state) =>
      let asked : CallRecord := ⟨.query plan.query, none⟩
      let painting : Painting := ⟨picture, request.title, request.options⟩
      match platform.display.paint painting state with
      | (.error fault, state) =>
          ⟨.error (.display request.id fault), [asked, ⟨.paint painting, some fault⟩], state⟩
      | (.ok (), state) =>
          ⟨.ok ⟨request.kind, request.title⟩, [asked, ⟨.paint painting, none⟩], state⟩

def render (request : WidgetRequest) (platform : Platform σ) (state : σ) : Run σ Rendered :=
  match request.plan with
  | .error error => ⟨.error error, [], state⟩
  | .ok plan => request.perform platform plan state

end WidgetRequest

/-- The widget with an identifier is rendered, if there is one. -/
def Platform.dispatch (platform : Platform σ) (id : String) (options : OptionBag) (now : Instant)
    (state : σ) : Run σ Rendered :=
  match WidgetKind.ofId id with
  | .error error => ⟨.error error, [], state⟩
  | .ok kind => (WidgetRequest.mk kind options now).render platform state

end MetricBoard
