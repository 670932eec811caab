import MetricBoard.Proofs.Engine.Accounting
import MetricBoard.Proofs.Engine.Painting

/-!
# Runs of a chart

A request that settles on a query for a series makes this query and no other, and the display
gets the series as the provider answered it. A request without a plan makes no call at all.
-/

namespace MetricBoard

variable {σ : Type}

/-- Something was asked of the provider. -/
def Run.Asks {α : Type} (run : Run σ α) : Prop := ∃ record ∈ run.calls, record.isQuery = true

/-- The painting of a series. Counts and labels stay as they are, however many there are of
each. -/
def WidgetRequest.chart (request : WidgetRequest) (series : Series) : Painting :=
  ⟨.chart series.counts series.labels, request.title, request.options⟩

/-- The runs that chart the answer to a query. The request and the state that they start from are
fixed. -/
inductive Charts (platform : Platform σ) (request : WidgetRequest) (query : SeriesQuery)
    (state : σ) : Run σ Rendered → Prop
  | unanswered {fault : Fault} {last : σ}
      (asked : platform.provider.series query state = (.error fault, last)) :
      Charts platform request query state
        ⟨.error (.provider request.id fault), [⟨.query (.series query), some fault⟩], last⟩
  | unpainted {series : Series} {fault : Fault} {middle last : σ}
      (asked : platform.provider.series query state = (.ok series, middle))
      (shown : platform.display.paint (request.chart series) middle = (.error fault, last)) :
      Charts platform request query state
        ⟨.error (.display request.id fault),
          [⟨.query (.series query), none⟩, ⟨.paint (request.chart series), some fault⟩], last⟩
  | painted {series : Series} {middle last : σ}
      (asked : platform.provider.series query state = (.ok series, middle))
      (shown : platform.display.paint (request.chart series) middle = (.ok (), last)) :
      Charts platform request query state
        ⟨.ok ⟨request.kind, request.title⟩,
          [⟨.query (.series query), none⟩, ⟨.paint (request.chart series), none⟩], last⟩

variable {platform : Platform σ} {request : WidgetRequest} {query : SeriesQuery} {state : σ}

theorem Charts.asks {run : Run σ Rendered} (h : Charts platform request query state run) :
    run.Asks := by
  cases h <;> exact ⟨_, List.mem_cons_self, rfl⟩

namespace WidgetRequest

/-- A plan for a series is carried out as one query and, once answered, one painting of a chart. -/
theorem render_charts (h : request.plan = .ok (.series query)) :
    Charts platform request query state (request.render platform state) := by
  rw [render_of_plan h]
  cases hasked : platform.provider.series query state with
  | mk answer middle =>
    have hask : platform.ask (.series query) state =
        (answer.map fun series => .chart series.counts series.labels, middle) := by
      simp only [Platform.ask, hasked]
    cases answer with
    | error fault =>
      rw [perform_of_fault hask]
      exact .unanswered hasked
    | ok series =>
      have hpaints : Paints platform request.kind (.series query) (request.chart series) middle
          (request.perform platform (.series query) state) := perform_paints hask
      generalize request.perform platform (.series query) state = run at hpaints ⊢
      cases hpaints with
      | unpainted shown => exact .unpainted hasked shown
      | painted shown => exact .painted hasked shown

/-- Without a plan nothing is called and the state is left as it is. -/
theorem render_refused {error : WidgetError} (h : request.plan = .error error) :
    request.render platform state = ⟨.error error, [], state⟩ := by
  unfold render
  rw [h]

end WidgetRequest

end MetricBoard
