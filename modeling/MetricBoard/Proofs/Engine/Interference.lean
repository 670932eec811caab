import MetricBoard.Proofs.Engine.Chart
import MetricBoard.Proofs.Engine.Painting
import MetricBoard.Proofs.Widget.Relevance

/-!
# No interference

Two runs of a widget from the same state, with other options or at another instant. Options that
the kind does not read change nothing but the bag that is handed to the display, and the instant
changes nothing but the query for commits that it is handed on with. Nothing is assumed about the
platform, whose answers may depend on every call before.
-/

namespace MetricBoard

variable {σ : Type}

/-- Two runs of a widget with two bags of options. They make the same query, and what they have
painted differs in the bag alone. -/
inductive Alike (platform : Platform σ) (kind : WidgetKind) (options others : OptionBag)
    (state : σ) : Run σ Rendered → Run σ Rendered → Prop
  | refused (error : WidgetError) :
      Alike platform kind options others state ⟨.error error, [], state⟩ ⟨.error error, [], state⟩
  | unanswered {plan : Plan} {fault : Fault} {last : σ}
      (asked : platform.ask plan state = (.error fault, last)) :
      Alike platform kind options others state
        ⟨.error (.provider kind.id fault), [⟨.query plan.query, some fault⟩], last⟩
        ⟨.error (.provider kind.id fault), [⟨.query plan.query, some fault⟩], last⟩
  | answered {plan : Plan} {picture : Picture} {title : String} {middle : σ}
      {run other : Run σ Rendered} (asked : platform.ask plan state = (.ok picture, middle))
      (one : Paints platform kind plan.query ⟨picture, title, options⟩ middle run)
      (two : Paints platform kind plan.query ⟨picture, title, others⟩ middle other) :
      Alike platform kind options others state run other

def CallRecord.asOf (now : Instant) : CallRecord → CallRecord
  | ⟨.query query, fault⟩ => ⟨.query (query.asOf now), fault⟩
  | record => record

/-- A run with its calls for another instant. -/
def Run.asOf {α : Type} (now : Instant) (run : Run σ α) : Run σ α :=
  { run with calls := run.calls.map (·.asOf now) }

theorem Paints.asOf {platform : Platform σ} {kind : WidgetKind} {query : Query}
    {painting : Painting} {middle : σ} {run : Run σ Rendered}
    (h : Paints platform kind query painting middle run) (now : Instant) :
    Paints platform kind (query.asOf now) painting middle (run.asOf now) := by
  cases h with
  | unpainted shown => exact .unpainted shown
  | painted shown => exact .painted shown

namespace WidgetRequest

variable {platform : Platform σ} {state : σ}

/-- From one plan two bags lead to runs that differ in the bag alone, if the titles are the same. -/
theorem perform_alike (platform : Platform σ) (kind : WidgetKind) {options others : OptionBag}
    (now : Instant) (plan : Plan) (state : σ)
    (ht : (mk kind options now).title = (mk kind others now).title) :
    Alike platform kind options others state ((mk kind options now).perform platform plan state)
      ((mk kind others now).perform platform plan state) := by
  cases ha : platform.ask plan state with
  | mk answer middle =>
    cases answer with
    | error fault =>
      rw [perform_of_fault ha, perform_of_fault ha]
      exact .unanswered ha
    | ok picture =>
      have hone := (mk kind options now).perform_paints ha
      have htwo := (mk kind others now).perform_paints ha
      rw [ht] at hone
      exact .answered ha hone htwo

/-- Bags that agree on what the kind reads have the same plan and the same title. -/
theorem render_alike (platform : Platform σ) {kind : WidgetKind} {options others : OptionBag}
    (h : options.AgreeOn kind.relevant others) (now : Instant) (state : σ) :
    Alike platform kind options others state ((mk kind options now).render platform state)
      ((mk kind others now).render platform state) := by
  have hp := plan_congr h now
  cases ho : (mk kind others now).plan with
  | error error =>
    rw [render_refused (hp.trans ho), render_refused ho]
    exact .refused error
  | ok plan =>
    rw [render_of_plan (hp.trans ho), render_of_plan ho]
    exact perform_alike platform kind now plan state (title_congr h now)

theorem render_of_instant {kind : WidgetKind} {now later : Instant} (hc : kind ≠ .barCommits)
    (hs : kind = .barStars → now.day = later.day) (options : OptionBag) :
    (mk kind options later).render platform state =
      (mk kind options now).render platform state := by
  unfold render
  rw [plan_of_instant hc hs options]
  rfl

theorem query_of_commitsPlan {options : OptionBag} {now : Instant} {plan : Plan}
    (h : (mk .barCommits options now).plan = .ok plan) :
    ∃ repository scope startWeeks endWeeks,
      plan = .series (.commits repository scope startWeeks endWeeks now) := by
  obtain ⟨-, startWeeks, endWeeks, -, -, hp⟩ := (puts_commitsPlan _).of_ok h
  exact ⟨_, _, startWeeks, endWeeks, hp⟩

/-- A query for another instant that is answered alike leads to the same painting. -/
theorem perform_asOf {kind : WidgetKind} {options : OptionBag} {now later : Instant}
    {query : SeriesQuery} (h : platform.provider.series (query.asOf later) state =
      platform.provider.series query state) :
    (mk kind options later).perform platform (.series (query.asOf later)) state =
      ((mk kind options now).perform platform (.series query) state).asOf later := by
  have hask : platform.ask (.series (query.asOf later)) state =
      platform.ask (.series query) state := by
    simp only [Platform.ask, h]
  cases ha : platform.ask (.series query) state with
  | mk answer middle =>
    rw [ha] at hask
    cases answer with
    | error fault =>
      rw [perform_of_fault ha, perform_of_fault hask]
      rfl
    | ok picture =>
      have hone := (mk kind options now).perform_paints ha
      have htwo := (mk kind options later).perform_paints hask
      exact htwo.unique (hone.asOf later)

/-- For commits the instant is in the query. While that is answered alike, it is nowhere else. -/
theorem render_commits_of_instant (platform : Platform σ) (options : OptionBag)
    (now later : Instant) (state : σ) :
    let run := (mk .barCommits options now).render platform state
    let other := (mk .barCommits options later).render platform state
    (∃ error, run = ⟨.error error, [], state⟩ ∧ other = ⟨.error error, [], state⟩) ∨
    ∃ repository scope startWeeks endWeeks,
      let query := SeriesQuery.commits repository scope startWeeks endWeeks
      Charts platform ⟨.barCommits, options, now⟩ (query now) state run ∧
      Charts platform ⟨.barCommits, options, later⟩ (query later) state other ∧
      (platform.provider.series (query later) state = platform.provider.series (query now) state →
        other = run.asOf later) := by
  intro run other
  have hl : (mk .barCommits options later).plan =
      (mk .barCommits options now).plan.map (Plan.asOf later) :=
    commitsPlan_asOf options now later
  cases hp : (mk .barCommits options now).plan with
  | error error =>
    rw [hp] at hl
    exact .inl ⟨error, render_refused hp, render_refused hl⟩
  | ok plan =>
    obtain ⟨repository, scope, startWeeks, endWeeks, rfl⟩ := query_of_commitsPlan hp
    rw [hp] at hl
    refine .inr ⟨repository, scope, startWeeks, endWeeks, render_charts hp, render_charts hl, ?_⟩
    intro hanswer
    have hrun : run = (mk .barCommits options now).perform platform _ state := render_of_plan hp
    have hother : other = (mk .barCommits options later).perform platform _ state :=
      render_of_plan hl
    rw [hrun, hother]
    exact perform_asOf hanswer

end WidgetRequest

/-- Bags that agree on what the kind reads lead to the same query and the same painting, but for
the bag in it. Instants make no difference but to stars, which are for a day, and to commits,
where they differ in the query and, as long as it is answered alike, in nothing else. -/
theorem Platform.dispatch_interference (platform : Platform σ) (kind : WidgetKind)
    (options : OptionBag) (now : Instant) (state : σ) :
    let run := platform.dispatch kind.id options now state
    (∀ others, options.AgreeOn kind.relevant others →
      Alike platform kind options others state run (platform.dispatch kind.id others now state)) ∧
    ∀ later,
      let other := platform.dispatch kind.id options later state
      (kind ≠ .barCommits → (kind = .barStars → now.day = later.day) → other = run) ∧
      (kind = .barCommits →
        (∃ error, run = ⟨.error error, [], state⟩ ∧ other = ⟨.error error, [], state⟩) ∨
        ∃ repository scope startWeeks endWeeks,
          let query := SeriesQuery.commits repository scope startWeeks endWeeks
          Charts platform ⟨kind, options, now⟩ (query now) state run ∧
          Charts platform ⟨kind, options, later⟩ (query later) state other ∧
          (platform.provider.series (query later) state =
              platform.provider.series (query now) state → other = run.asOf later)) := by
  intro run
  have hrun : run = (WidgetRequest.mk kind options now).render platform state :=
    platform.dispatch_listed options now state kind
  refine ⟨fun others h => ?_, fun later => ?_⟩
  · rw [hrun, platform.dispatch_listed]
    exact WidgetRequest.render_alike platform h now state
  · intro other
    have hother : other = (WidgetRequest.mk kind options later).render platform state :=
      platform.dispatch_listed options later state kind
    rw [hrun, hother]
    refine ⟨fun hc hs => WidgetRequest.render_of_instant hc hs options, ?_⟩
    rintro rfl
    exact WidgetRequest.render_commits_of_instant platform options now later state

theorem box_ignores_row_limit :
    let options := OptionBag.ofList [("repository", "owner/board"), ("row_limit", "many")]
    let others := OptionBag.ofList [("repository", "owner/board"), ("start_date", "never")]
    let dispatch := fun options => Platform.obliging.dispatch "github.box_stars" options ⟨0, 0⟩ ()
    options.AgreeOn WidgetKind.boxStars.relevant others ∧
    Alike .obliging .boxStars options others () (dispatch options) (dispatch others) ∧
    (dispatch options).calls.length = 2 := by
  intro options others dispatch
  have h : options.AgreeOn WidgetKind.boxStars.relevant others := by
    unfold OptionBag.AgreeOn
    decide +kernel
  have halike := (Platform.obliging.dispatch_interference .boxStars options ⟨0, 0⟩ ()).1 others h
  exact ⟨h, halike, by decide +kernel⟩

end MetricBoard
