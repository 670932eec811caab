import MetricBoard.Proofs.Widget.RowLimit
import MetricBoard.Proofs.Widget.Window

/-!
# Widgets by default

A widget whose options give neither a limit nor a date goes by the defaults of its kind. These are
read by the same readers as what is given, at every rendering, and they are always understood; only
the seventh day back can lie before the calendar. So what such a widget fails with comes from the
platform.
-/

namespace MetricBoard

variable {σ : Type}

/-- Whatever can be wrong with options is left to the defaults. -/
structure OptionBag.LeavesDefaults (options : OptionBag) : Prop where
  rowLimit : options.raw "row_limit" = none
  startDate : options.raw "start_date" = none
  endDate : options.raw "end_date" = none

/-! ## Plans -/

namespace WidgetRequest

variable {request : WidgetRequest}

theorem startDate_by_default (h : request.options.LeavesDefaults) :
    request.startDate = request.kind.defaults.startDate :=
  congrArg (·.getD request.kind.defaults.startDate) h.startDate

theorem endDate_by_default (h : request.options.LeavesDefaults) :
    request.endDate = request.kind.defaults.endDate :=
  congrArg (·.getD request.kind.defaults.endDate) h.endDate

theorem commitsPlan_by_default (hk : request.kind = .barCommits)
    (h : request.options.LeavesDefaults) : ∃ plan, request.commitsPlan = .ok plan := by
  have hs : WeeksAgo request.startDate 7 := by
    rw [startDate_by_default h, hk]
    exact weeksAgo_iff.mpr (RelativeDate.expresses_toString (by decide) .weeks)
  have he : WeeksAgo request.endDate 0 := by
    rw [endDate_by_default h, hk]
    exact weeksAgo_iff.mpr (RelativeDate.expresses_toString (by decide) .weeks)
  exact ⟨_, commitsPlan_of_weeks hs he⟩

theorem liesBack_by_default (hk : request.kind = .barStars)
    (h : request.options.LeavesDefaults) :
    DaysAgo request.startDate 7 ∧ LiesBack request.endDate 0 := by
  rw [startDate_by_default h, endDate_by_default h, hk]
  have hs : DaysAgo "7_days_ago" 7 :=
    daysAgo_iff.mpr (RelativeDate.expresses_toString (by decide) .days)
  exact ⟨hs, .today (.inl (by decide))⟩

theorem starsPlan_by_default (hk : request.kind = .barStars)
    (h : request.options.LeavesDefaults) (hn : firstDay + 7 ≤ request.now.day) :
    ∃ plan, request.starsPlan = .ok plan := by
  obtain ⟨hs, he⟩ := liesBack_by_default hk h
  have hstart : MeansDay request.now request.startDate 7 := ⟨.ago hs, by omega⟩
  have hstop : MeansDay request.now request.endDate 0 := ⟨he, by omega⟩
  exact ⟨_, starsPlan_of_range (convertDates_of_meansDay hstart hstop)⟩

/-- The checks before the dates are resolved find nothing, and the start is resolved first. -/
theorem starsPlan_of_outside {days back : Nat} (hs : DaysAgo request.startDate days)
    (he : LiesBack request.endDate back) (hn : request.now.day - days < firstDay) :
    request.starsPlan = .error (.malformedDate request.id "start_date" request.startDate
      "a day offset within the calendar range") := by
  have hout : ¬ OnCalendar request.now request.startDate := by
    intro hin
    have hday := hin days (.ago hs)
    omega
  have hfirst : FirstUnmet (rangeRequirements (OnCalendar request.now) request.startDate
      request.endDate) ⟨.startDate, request.startDate, OnCalendar request.now request.startDate,
        "a day offset within the calendar range"⟩ :=
    .later (LiesBack.ago hs).namesDays (.later he.namesDays (.later (.inr ⟨days, hs⟩) (.here hout)))
  exact request.puts_starsPlan.eq_error_iff.mpr ⟨_, hfirst, rfl⟩

/-- Every kind has a plan by its defaults. -/
theorem plan_by_default (request : WidgetRequest) (h : request.options.LeavesDefaults)
    (hn : request.kind = .barStars → firstDay + 7 ≤ request.now.day) :
    ∃ plan, request.plan = .ok plan := by
  have htable (hf : request.kind.family = .table) : ∃ plan, request.plan = .ok plan := by
    obtain ⟨query, -, hp⟩ := plan_of_givesLimit hf (.absent h.rowLimit)
    exact ⟨_, hp⟩
  obtain ⟨kind, options, now⟩ := request
  cases kind with
  | tableRepositories | tableBranches | tableIssues | tablePullRequests => exact htable rfl
  | boxStars | boxWatchers | boxOpenIssues | barViews => exact ⟨_, rfl⟩
  | barCommits => exact commitsPlan_by_default rfl h
  | barStars => exact starsPlan_by_default rfl h (hn rfl)

end WidgetRequest

/-! ## Runs -/

namespace Ends

variable {platform : Platform σ} {id : String} {options : OptionBag} {now : Instant} {state : σ}
  {stage : Stage} {run : Run σ Rendered}

/-- A refused widget has no kind, or its options settle no query. -/
theorem not_refused {kind : WidgetKind} {plan : Plan}
    (h : Ends platform kind.id options now state stage run)
    (hp : (WidgetRequest.mk kind options now).plan = .ok plan) : stage ≠ .refused := by
  rintro rfl
  cases h with
  | unknown unlisted => exact unlisted kind rfl
  | @invalid other _ listed unplanned =>
    obtain rfl := WidgetKind.eq_of_id_eq listed
    cases hp.symm.trans unplanned

theorem one_query (h : Ends platform id options now state stage run) (hs : stage ≠ .refused) :
    run.calls.countP (·.isQuery) = 1 := by
  cases h with
  | unknown => exact absurd rfl hs
  | invalid => exact absurd rfl hs
  | _ => rfl

theorem error_of_platform (h : Ends platform id options now state stage run)
    (hs : stage ≠ .refused) {error : WidgetError} (hr : run.result = .error error) :
    ∃ fault, error = .provider id fault ∨ error = .display id fault := by
  cases h with
  | unknown => exact absurd rfl hs
  | invalid => exact absurd rfl hs
  | unanswered => exact ⟨_, .inl (Except.error.inj hr).symm⟩
  | unpainted => exact ⟨_, .inr (Except.error.inj hr).symm⟩
  | painted => cases hr

end Ends

/-- A widget that goes by the defaults of its kind asks one query, and can only fail as the platform
does, with its fault: at the query or at the painting of the answer. It never fails by its options,
whatever else is in them, but for the chart of stars in the first seven days of the calendar, which
asks nothing then and blames the default start. -/
theorem defaults_always_understood (platform : Platform σ) (kind : WidgetKind)
    {options : OptionBag} (h : options.LeavesDefaults) (now : Instant) (state : σ) :
    let run := platform.dispatch kind.id options now state
    ((kind = .barStars → firstDay + 7 ≤ now.day) →
      (∃ stage, stage ≠ .refused ∧ Ends platform kind.id options now state stage run) ∧
      run.calls.countP (·.isQuery) = 1 ∧
      ∀ error, run.result = .error error → error.isValidation = false ∧
        ∃ fault, error = .provider kind.id fault ∨ error = .display kind.id fault) ∧
    (kind = .barStars → now.day < firstDay + 7 →
      run = ⟨.error (.malformedDate "github.bar_stars" "start_date" "7_days_ago"
        "a day offset within the calendar range"), [], state⟩) := by
  intro run
  let request : WidgetRequest := ⟨kind, options, now⟩
  refine ⟨fun hn => ?_, ?_⟩
  · obtain ⟨plan, hp⟩ := request.plan_by_default h hn
    obtain ⟨stage, hends⟩ := platform.dispatch_ends kind.id options now state
    have hs := hends.not_refused hp
    refine ⟨⟨stage, hs, hends⟩, hends.one_query hs, fun error hr => ?_⟩
    obtain ⟨fault, hf⟩ := hends.error_of_platform hs hr
    refine ⟨?_, fault, hf⟩
    rcases hf with rfl | rfl <;> rfl
  · rintro rfl hn
    obtain ⟨hs, he⟩ := request.liesBack_by_default rfl h
    have hbefore : now.day - (7 : Nat) < firstDay := by omega
    have hp : request.plan = .error (.malformedDate request.id "start_date" request.startDate
        "a day offset within the calendar range") :=
      WidgetRequest.starsPlan_of_outside hs he hbefore
    rw [WidgetRequest.startDate_by_default h] at hp
    have hrun : run = request.render platform state :=
      platform.dispatch_listed options now state .barStars
    rw [hrun]
    exact WidgetRequest.render_refused hp

/-- On the eighth day of the calendar the chart of stars asks by default, and one second before it
does not. Empty and unknown options do no harm. -/
theorem stars_by_default_from_eighth_day :
    let options := OptionBag.ofList [("repository", ""), ("end", "never"), ("title", " ")]
    let dispatch := fun now => Platform.obliging.dispatch "github.bar_stars" options now ()
    options.LeavesDefaults ∧ firstDay + 7 ≤ (Instant.mk (-8334600624000) 0).day ∧
    (dispatch ⟨-8334600624000, 0⟩).calls.countP (·.isQuery) = 1 ∧
    (Instant.mk (-8334600624001) 0).day < firstDay + 7 ∧
    dispatch ⟨-8334600624001, 0⟩ =
      ⟨.error (.malformedDate "github.bar_stars" "start_date" "7_days_ago"
        "a day offset within the calendar range"), [], ()⟩ := by
  intro options dispatch
  have h : options.LeavesDefaults := ⟨by decide, by decide, by decide⟩
  have hn : firstDay + 7 ≤ (Instant.mk (-8334600624000) 0).day := by decide
  have hb : (Instant.mk (-8334600624001) 0).day < firstDay + 7 := by decide
  have hasks := defaults_always_understood .obliging .barStars h ⟨-8334600624000, 0⟩ ()
  have hrefused := defaults_always_understood .obliging .barStars h ⟨-8334600624001, 0⟩ ()
  exact ⟨h, hn, (hasks.1 fun _ => hn).2.1, hb, hrefused.2 rfl hb⟩

end MetricBoard
