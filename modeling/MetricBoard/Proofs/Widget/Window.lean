import MetricBoard.Proofs.Engine.Chart
import MetricBoard.Proofs.Widget.Dates

/-!
# The windows of charts

Which start and end dates settle the query of a chart over time. Commits are asked for when both
dates are counts of weeks, and stars when both can be resolved to days. In either case the dates
are checked for their unit first, by a check that looks for words only; it refuses no date that
would do, and what it lets through by mistake is stopped by the readers behind it.
-/

namespace MetricBoard

open RelativeDate (Expresses)

variable {σ : Type}

/-! ## Requests without a plan -/

/-- A request whose dates settle nothing ends with a malformed date and makes no call. -/
theorem WidgetRequest.render_of_unmet (request : WidgetRequest) {requirements : List Requirement}
    {property : Plan → Prop} (platform : Platform σ) (state : σ)
    (h : Puts requirements (·.error request.id) property request.plan)
    (hn : ∀ plan, request.plan ≠ .ok plan) :
    ∃ option expression expected, request.render platform state =
      ⟨.error (.malformedDate request.id option expression expected), [], state⟩ := by
  cases hp : request.plan with
  | ok plan => exact absurd hp (hn plan)
  | error error =>
    obtain ⟨requirement, -, rfl⟩ := h.eq_error_iff.mp hp
    exact ⟨_, _, _, request.render_refused hp⟩

theorem not_asks_of_no_calls {result : Except WidgetError Rendered} {state : σ} :
    ¬ Run.Asks ⟨result, [], state⟩ := by
  rintro ⟨record, hm, -⟩
  cases hm

/-! ## Windows of weeks -/

namespace WidgetRequest

variable {request : WidgetRequest}

/-- Two counts of weeks pass all that is put to them. -/
theorem commitsPlan_of_weeks {startWeeks endWeeks : Nat}
    (hs : WeeksAgo request.startDate startWeeks) (he : WeeksAgo request.endDate endWeeks) :
    request.commitsPlan = .ok (.series
      (.commits request.repository request.scope startWeeks endWeeks request.now)) := by
  have hmet : ∀ requirement ∈ weekRequirements request.startDate request.endDate,
      requirement.met := by
    simp only [weekRequirements, List.forall_mem_cons]
    exact ⟨hs.namesWeeks, he.namesWeeks, ⟨_, hs⟩, ⟨_, he⟩, List.forall_mem_nil _⟩
  obtain ⟨_, hp, first, last, hfirst, hlast, rfl⟩ := request.puts_commitsPlan.exists_ok hmet
  rw [hp, hs.unique hfirst, he.unique hlast]

theorem weeks_of_commitsPlan {plan : Plan} (h : request.commitsPlan = .ok plan) :
    ∃ startWeeks endWeeks,
      WeeksAgo request.startDate startWeeks ∧ WeeksAgo request.endDate endWeeks := by
  obtain ⟨-, startWeeks, endWeeks, hs, he, -⟩ := request.puts_commitsPlan.of_ok h
  exact ⟨startWeeks, endWeeks, hs, he⟩

end WidgetRequest

/-- The chart of commits asks exactly when both dates are counts of weeks, and then for these
counts, start and end as they are given; the display gets labels and counts as they are answered.
Otherwise a date is malformed and no call is made. So it goes for every other relative date. -/
theorem commits_asked_iff_weeks (platform : Platform σ) (options : OptionBag) (now : Instant)
    (state : σ) :
    let start := (options.raw "start_date").getD "7_weeks_ago"
    let stop := (options.raw "end_date").getD "0_weeks_ago"
    let run := platform.dispatch "github.bar_commits" options now state
    (run.Asks ↔ ∃ startWeeks endWeeks, WeeksAgo start startWeeks ∧ WeeksAgo stop endWeeks) ∧
    (∀ startWeeks endWeeks, WeeksAgo start startWeeks → WeeksAgo stop endWeeks →
      Charts platform ⟨.barCommits, options, now⟩
        (.commits ((options.raw "repository").getD "") ((options.raw "scope").getD "owner")
          startWeeks endWeeks now) state run) ∧
    (¬ run.Asks → ∃ option expression expected, run =
      ⟨.error (.malformedDate "github.bar_commits" option expression expected), [], state⟩) ∧
    ∀ date, Expresses start date ∨ Expresses stop date → (∀ weeks, date ≠ .ago weeks .weeks) →
      run.calls = [] := by
  intro start stop run
  let request : WidgetRequest := ⟨.barCommits, options, now⟩
  have hrun : run = request.render platform state :=
    platform.dispatch_listed options now state .barCommits
  have hcharts : ∀ startWeeks endWeeks, WeeksAgo start startWeeks → WeeksAgo stop endWeeks →
      Charts platform request (.commits ((options.raw "repository").getD "")
        ((options.raw "scope").getD "owner") startWeeks endWeeks now) state run := by
    intro startWeeks endWeeks hs he
    rw [hrun]
    exact WidgetRequest.render_charts (WidgetRequest.commitsPlan_of_weeks hs he)
  have hrefused : (¬ ∃ startWeeks endWeeks, WeeksAgo start startWeeks ∧ WeeksAgo stop endWeeks) →
      ∃ option expression expected, run =
        ⟨.error (.malformedDate "github.bar_commits" option expression expected), [], state⟩ := by
    intro hn
    rw [hrun]
    exact request.render_of_unmet platform state request.puts_commitsPlan
      fun plan hp => hn (WidgetRequest.weeks_of_commitsPlan hp)
  have hasks : run.Asks ↔
      ∃ startWeeks endWeeks, WeeksAgo start startWeeks ∧ WeeksAgo stop endWeeks := by
    constructor
    · intro ha
      by_contra hn
      obtain ⟨_, _, _, h⟩ := hrefused hn
      rw [h] at ha
      exact not_asks_of_no_calls ha
    · rintro ⟨startWeeks, endWeeks, hs, he⟩
      exact (hcharts startWeeks endWeeks hs he).asks
  refine ⟨hasks, hcharts, fun hn => hrefused (mt hasks.mpr hn), fun date hd hw => ?_⟩
  -- An expression spells one date only, so this one is no count of weeks.
  have hn : ¬ ∃ startWeeks endWeeks, WeeksAgo start startWeeks ∧ WeeksAgo stop endWeeks := by
    rintro ⟨startWeeks, endWeeks, hs, he⟩
    rcases hd with hd | hd
    · exact hw startWeeks (hd.unique (weeksAgo_iff.mp hs))
    · exact hw endWeeks (hd.unique (weeksAgo_iff.mp he))
  obtain ⟨_, _, _, h⟩ := hrefused hn
  rw [h]

/-! ## Windows of days -/

theorem LiesBack.requireUnit {expression : String} {days : Nat} (h : LiesBack expression days) :
    requireUnit expression .days = .ok () :=
  requireUnit_eq_ok_iff.mpr (mentions_days_iff.mpr h.namesDays)

namespace WidgetRequest

variable {request : WidgetRequest}

/-- Dates that can be resolved pass the check of units. -/
theorem starsPlan_of_range {range : DateRange}
    (h : convertDates request.now request.startDate request.endDate = .ok range) :
    request.starsPlan = .ok (.series
      (.stars request.repository range.start range.stop)) := by
  obtain ⟨hdays, first, last, hs, he, rfl⟩ := (puts_convertDates _ _ _).of_ok h
  obtain ⟨hstart, hstop⟩ := List.forall_mem_append.mp hdays
  have hmet : ∀ requirement ∈ rangeRequirements (OnCalendar request.now) request.startDate
      request.endDate, requirement.met := by
    simp only [rangeRequirements, List.forall_mem_append, List.forall_mem_cons]
    exact ⟨⟨⟨hs.back.namesDays, he.back.namesDays, List.forall_mem_nil _⟩, hstart⟩, hstop⟩
  obtain ⟨_, hp, back, other, hb, ho, rfl⟩ := request.puts_starsPlan.exists_ok hmet
  rw [hp, hs.back.unique hb.back, he.back.unique ho.back]

theorem range_of_starsPlan {plan : Plan} (h : request.starsPlan = .ok plan) :
    ∃ range, convertDates request.now request.startDate request.endDate = .ok range := by
  obtain ⟨-, first, last, hs, he, -⟩ := request.puts_starsPlan.of_ok h
  exact ⟨_, convertDates_of_meansDay hs he⟩

end WidgetRequest

/-- The chart of stars asks exactly when both dates can be resolved to days, and then for these
two days, in the order in which they were given. The check of units refuses no such pair. Without
a resolution a date is malformed and no call is made. -/
theorem stars_asked_iff_resolved (platform : Platform σ) (options : OptionBag) (now : Instant)
    (state : σ) :
    let start := (options.raw "start_date").getD "7_days_ago"
    let stop := (options.raw "end_date").getD "today"
    let run := platform.dispatch "github.bar_stars" options now state
    (run.Asks ↔ ∃ range, convertDates now start stop = .ok range) ∧
    (∀ range, convertDates now start stop = .ok range →
      requireUnit start .days = .ok () ∧ requireUnit stop .days = .ok () ∧
      Charts platform ⟨.barStars, options, now⟩
        (.stars ((options.raw "repository").getD "") range.start range.stop) state run) ∧
    ∀ error, convertDates now start stop = .error error → ∃ option expression expected, run =
      ⟨.error (.malformedDate "github.bar_stars" option expression expected), [], state⟩ := by
  intro start stop run
  let request : WidgetRequest := ⟨.barStars, options, now⟩
  have hrun : run = request.render platform state :=
    platform.dispatch_listed options now state .barStars
  have hcharts : ∀ range, convertDates now start stop = .ok range →
      Charts platform request
        (.stars ((options.raw "repository").getD "") range.start range.stop) state run := by
    intro range hr
    rw [hrun]
    exact WidgetRequest.render_charts (WidgetRequest.starsPlan_of_range hr)
  have hrefused : ∀ error, convertDates now start stop = .error error →
      ∃ option expression expected, run =
        ⟨.error (.malformedDate "github.bar_stars" option expression expected), [], state⟩ := by
    intro error he
    rw [hrun]
    refine request.render_of_unmet platform state request.puts_starsPlan fun plan hp => ?_
    obtain ⟨range, hr⟩ := WidgetRequest.range_of_starsPlan hp
    cases hr.symm.trans he
  refine ⟨⟨fun ha => ?_, ?_⟩, fun range hr => ?_, hrefused⟩
  · cases hr : convertDates now start stop with
    | ok range => exact ⟨range, rfl⟩
    | error error =>
      obtain ⟨_, _, _, h⟩ := hrefused error hr
      rw [h] at ha
      exact absurd ha not_asks_of_no_calls
  · rintro ⟨range, hr⟩
    exact (hcharts range hr).asks
  · obtain ⟨first, last, hs, he⟩ := meansDay_of_convertDates hr
    exact ⟨hs.back.requireUnit, he.back.requireUnit, hcharts range hr⟩

end MetricBoard
