import MetricBoard.Proofs.Engine.Chart

/-!
# Validation errors of a run

A run ends with a validation error exactly where its request has no plan: what the provider and the
display answer is never blamed on an option. So the validation errors of a widget are those that
blame one of its options, and no call was made before them.
-/

namespace MetricBoard

variable {σ : Type}

/-- A run with a plan fails in the provider or in the display, if it fails. -/
theorem WidgetRequest.perform_not_validation {request : WidgetRequest} {platform : Platform σ}
    {plan : Plan} {state : σ} {error : WidgetError}
    (h : (request.perform platform plan state).result = .error error) :
    error.isValidation = false := by
  cases ha : platform.ask plan state with
  | mk answer middle =>
    cases answer with
    | error fault =>
      rw [perform_of_fault ha] at h
      cases h
      rfl
    | ok picture =>
      have hpaints := request.perform_paints ha
      generalize request.perform platform plan state = run at h hpaints
      cases hpaints with
      | unpainted shown =>
        cases h
        rfl
      | painted shown => cases h

namespace Platform

variable {platform : Platform σ} {kind : WidgetKind} {options : OptionBag} {now : Instant}
  {error : WidgetError}

theorem blames_of_dispatch (h : firstDay ≤ now.day) {state : σ}
    (hr : (platform.dispatch kind.id options now state).result = .error error)
    (hv : error.isValidation = true) : Blames options now kind error := by
  let request : WidgetRequest := ⟨kind, options, now⟩
  rw [platform.dispatch_listed options now state kind] at hr
  cases hp : request.plan with
  | error other =>
    rw [request.render_refused hp] at hr
    obtain rfl : other = error := Except.error.inj hr
    exact (request.plan_eq_error_iff h).mp hp
  | ok plan =>
    rw [request.render_of_plan hp] at hr
    rw [WidgetRequest.perform_not_validation hr] at hv
    cases hv

/-- A request that blames an option ends with the blame, before any call. -/
theorem dispatch_of_blames (h : firstDay ≤ now.day) (hb : Blames options now kind error)
    (state : σ) : platform.dispatch kind.id options now state = ⟨.error error, [], state⟩ := by
  let request : WidgetRequest := ⟨kind, options, now⟩
  have hp : request.plan = .error error := (request.plan_eq_error_iff h).mpr hb
  rw [platform.dispatch_listed options now state kind]
  exact request.render_refused hp

end Platform

/-- The validation errors of a widget are those that blame an option of its kind: the row limit of
a table that is read as no number, or the first requirement that a date of a chart does not meet.
The error names the widget and the option, and repeats the text of the option as it stands. There
are no instants before the first day of the calendar. -/
theorem validation_error_iff_blames (platform : Platform σ) (kind : WidgetKind)
    (options : OptionBag) {now : Instant} (h : firstDay ≤ now.day) (state : σ)
    (error : WidgetError) :
    ((platform.dispatch kind.id options now state).result = .error error ∧
      error.isValidation = true) ↔ Blames options now kind error := by
  constructor
  · rintro ⟨hr, hv⟩
    exact Platform.blames_of_dispatch h hr hv
  · intro hb
    rw [Platform.dispatch_of_blames h hb]
    exact ⟨rfl, hb.isValidation⟩

/-- The end is blamed for its unit, although the start cannot be read and comes first. -/
theorem commits_blame_unit_first :
    let options := OptionBag.ofList [("start_date", "3_weeks_ago!"), ("end_date", " 2_days_ago")]
    firstDay ≤ (Instant.mk 0 0).day ∧
    (Platform.obliging.dispatch "github.bar_commits" options ⟨0, 0⟩ ()).result =
      .error (.malformedDate "github.bar_commits" "end_date" " 2_days_ago"
        "<integer>_weeks_ago") := by
  intro options
  have hn : firstDay ≤ (Instant.mk 0 0).day := by decide
  have hstart : options.raw "start_date" = some "3_weeks_ago!" := by decide
  have hstop : options.raw "end_date" = some " 2_days_ago" := by decide
  have hs : NamesWeeks "3_weeks_ago!" := mentions_weeks_iff.mp (by decide)
  have he : ¬ NamesWeeks " 2_days_ago" := mt mentions_weeks_iff.mpr (by decide)
  have hfirst : FirstUnmet (weekRequirements ((options.raw "start_date").getD "7_weeks_ago")
      ((options.raw "end_date").getD "0_weeks_ago"))
      ⟨.endDate, " 2_days_ago", NamesWeeks " 2_days_ago", "<integer>_weeks_ago"⟩ := by
    rw [hstart, hstop]
    exact .later hs (.here he)
  have hb := (validation_error_iff_blames .obliging .barCommits options hn () _).mpr (.weeks hfirst)
  exact ⟨hn, hb.1⟩

end MetricBoard
