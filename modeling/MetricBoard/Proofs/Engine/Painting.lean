import MetricBoard.Proofs.Engine.CallLog

/-!
# Runs of a plan

A plan that is carried out is one query and, where it is answered, one painting of the answer.
-/

namespace MetricBoard

variable {σ : Type}

/-- The runs of a widget whose query was answered. What is painted and the state that the answer
left are fixed. -/
inductive Paints (platform : Platform σ) (kind : WidgetKind) (query : Query) (painting : Painting)
    (middle : σ) : Run σ Rendered → Prop
  | unpainted {fault : Fault} {last : σ}
      (shown : platform.display.paint painting middle = (.error fault, last)) :
      Paints platform kind query painting middle
        ⟨.error (.display kind.id fault), [⟨.query query, none⟩, ⟨.paint painting, some fault⟩],
          last⟩
  | painted {last : σ} (shown : platform.display.paint painting middle = (.ok (), last)) :
      Paints platform kind query painting middle
        ⟨.ok ⟨kind, painting.title⟩, [⟨.query query, none⟩, ⟨.paint painting, none⟩], last⟩

/-- What the display answers settles the run. -/
theorem Paints.unique {platform : Platform σ} {kind : WidgetKind} {query : Query}
    {painting : Painting} {middle : σ} {run other : Run σ Rendered}
    (h : Paints platform kind query painting middle run)
    (ho : Paints platform kind query painting middle other) : run = other := by
  cases h with
  | unpainted shown =>
    cases ho with
    | unpainted again =>
      cases shown.symm.trans again
      rfl
    | painted again => cases shown.symm.trans again
  | painted shown =>
    cases ho with
    | unpainted again => cases shown.symm.trans again
    | painted again =>
      cases shown.symm.trans again
      rfl

namespace WidgetRequest

variable {request : WidgetRequest} {platform : Platform σ} {plan : Plan} {state last : σ}

theorem render_of_plan (h : request.plan = .ok plan) :
    request.render platform state = request.perform platform plan state := by
  unfold render
  rw [h]

theorem perform_of_fault {fault : Fault} (h : platform.ask plan state = (.error fault, last)) :
    request.perform platform plan state =
      ⟨.error (.provider request.id fault), [⟨.query plan.query, some fault⟩], last⟩ := by
  unfold perform
  rw [h]

/-- The picture that the provider answered with is painted, with the title and the whole bag. -/
theorem perform_paints {picture : Picture} (h : platform.ask plan state = (.ok picture, last)) :
    Paints platform request.kind plan.query ⟨picture, request.title, request.options⟩ last
      (request.perform platform plan state) := by
  unfold perform
  rw [h]
  dsimp only
  cases hp : platform.display.paint ⟨picture, request.title, request.options⟩ last with
  | mk outcome final =>
    cases outcome with
    | error fault => exact .unpainted hp
    | ok done => exact .painted hp

end WidgetRequest

end MetricBoard
