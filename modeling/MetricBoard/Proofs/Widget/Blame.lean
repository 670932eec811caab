import MetricBoard.Proofs.Widget.Dates
import MetricBoard.Proofs.Widget.RowLimit

/-!
# What a request asks or blames

A request either has a plan for the operation of its kind or fails with an error about one of its
options. The error names the widget, the option that is at fault, the text of the option as it
stands, and what was expected. Charts put several requirements to two dates, and blame the first
that is not met: both dates are looked through for the words of their unit before either is read.
-/

namespace MetricBoard

/-- The validation errors of a widget of each kind. Boxes and the chart of views have none. -/
inductive Blames (options : OptionBag) (now : Instant) : WidgetKind → WidgetError → Prop
  | rowLimit {kind : WidgetKind} {text : String} (table : kind.family = .table)
      (given : options.raw "row_limit" = some text)
      (unread : ¬ ∃ limit, Number.WritesCount text limit) :
      Blames options now kind (.invalidNumber kind.id "row_limit" text)
  | weeks {requirement : Requirement}
      (first : FirstUnmet (weekRequirements ((options.raw "start_date").getD "7_weeks_ago")
        ((options.raw "end_date").getD "0_weeks_ago")) requirement) :
      Blames options now .barCommits (requirement.error "github.bar_commits")
  | days {requirement : Requirement}
      (first : FirstUnmet (rangeRequirements (InCalendar now)
        ((options.raw "start_date").getD "7_days_ago") ((options.raw "end_date").getD "today"))
        requirement) :
      Blames options now .barStars (requirement.error "github.bar_stars")

theorem Blames.isValidation {options : OptionBag} {now : Instant} {kind : WidgetKind}
    {error : WidgetError} (h : Blames options now kind error) : error.isValidation = true := by
  cases h <;> rfl

/-- An error about an option of the widget: a number that was not read, or a date for which one of
few things was expected. -/
inductive OptionFault (id : String) : WidgetError → Prop
  | number (setting : Setting) (value : String) :
      OptionFault id (.invalidNumber id setting.key value)
  | date (setting : Setting) (expression : String) {expected : String}
      (known : expected ∈ dateExpectations) :
      OptionFault id (.malformedDate id setting.key expression expected)

theorem OptionFault.isValidation {id : String} {error : WidgetError} (h : OptionFault id error) :
    error.isValidation = true := by
  cases h <;> rfl

theorem optionFault_of_weeks {start stop id : String} {requirement : Requirement}
    (h : requirement ∈ weekRequirements start stop) : OptionFault id (requirement.error id) := by
  refine .date requirement.setting requirement.expression ?_
  rcases expected_of_mem_weekRequirements h with he | he
  all_goals
    rw [he]
    decide

theorem optionFault_of_days {inside : String → Prop} {start stop id : String}
    {requirement : Requirement} (h : requirement ∈ rangeRequirements inside start stop) :
    OptionFault id (requirement.error id) := by
  refine .date requirement.setting requirement.expression ?_
  rcases expected_of_mem_rangeRequirements h with he | he
  all_goals
    rw [he]
    decide

namespace WidgetRequest

/-! ## Tables -/

variable (request : WidgetRequest) {error : WidgetError}

/-- A table has nothing to blame but a limit that is given and writes no number. -/
theorem plan_of_table_eq_error_iff (hf : request.kind.family = .table) (error : WidgetError) :
    request.plan = .error error ↔ ∃ text, request.options.raw "row_limit" = some text ∧
      (¬ ∃ limit, Number.WritesCount text limit) ∧
      error = .invalidNumber request.id "row_limit" text := by
  constructor
  · intro hp
    cases hr : request.options.raw "row_limit" with
    | none =>
      obtain ⟨query, -, hq⟩ := plan_of_givesLimit hf (.absent hr)
      cases hp.symm.trans hq
    | some text =>
      have hn : ¬ ∃ limit, Number.WritesCount text limit := by
        rintro ⟨limit, hc⟩
        obtain ⟨query, -, hq⟩ := plan_of_givesLimit hf (.written hr hc)
        cases hp.symm.trans hq
      exact ⟨text, rfl, hn, Except.error.inj (hp.symm.trans (plan_of_unread hf hr hn))⟩
  · rintro ⟨text, hr, hn, rfl⟩
    exact plan_of_unread hf hr hn

theorem asker_of_table (hf : request.kind.family = .table) {plan : Plan}
    (hp : request.plan = .ok plan) : plan.query.asker = request.kind := by
  obtain ⟨query, hq, hplan⟩ := request.plan_asks_rows hf
  rw [hplan] at hp
  cases hl : request.rowLimit with
  | error fault =>
    rw [hl] at hp
    cases hp
  | ok limit =>
    rw [hl] at hp
    obtain rfl := Except.ok.inj hp
    exact (hq limit).asker_eq

/-! ## All kinds -/

/-- A plan is for the operation of the widget's kind. -/
theorem asker_of_plan {plan : Plan} (h : request.plan = .ok plan) :
    plan.query.asker = request.kind := by
  obtain ⟨kind, options, now⟩ := request
  cases kind with
  | boxStars | boxWatchers | boxOpenIssues | barViews =>
    obtain rfl := Except.ok.inj h
    rfl
  | tableRepositories | tableBranches | tableIssues | tablePullRequests =>
    exact asker_of_table _ rfl h
  | barCommits =>
    obtain ⟨-, _, _, -, -, rfl⟩ := (puts_commitsPlan _).of_ok h
    rfl
  | barStars =>
    obtain ⟨-, _, _, -, -, rfl⟩ := (puts_starsPlan _).of_ok h
    rfl

/-- A request without a plan has something wrong with one of its options, at any instant. -/
theorem optionFault_of_plan (h : request.plan = .error error) : OptionFault request.id error := by
  have htable (hf : request.kind.family = .table) : OptionFault request.id error := by
    obtain ⟨text, -, -, rfl⟩ := (request.plan_of_table_eq_error_iff hf error).mp h
    exact .number .rowLimit text
  obtain ⟨kind, options, now⟩ := request
  cases kind with
  | boxStars | boxWatchers | boxOpenIssues | barViews => cases h
  | tableRepositories | tableBranches | tableIssues | tablePullRequests => exact htable rfl
  | barCommits =>
    obtain ⟨requirement, hu, rfl⟩ := (puts_commitsPlan _).eq_error_iff.mp h
    exact optionFault_of_weeks hu.unmet.1
  | barStars =>
    obtain ⟨requirement, hu, rfl⟩ := (puts_starsPlan _).eq_error_iff.mp h
    exact optionFault_of_days hu.unmet.1

/-- A request has no plan exactly where an error blames one of its options. -/
theorem plan_eq_error_iff (h : firstDay ≤ request.now.day) :
    request.plan = .error error ↔ Blames request.options request.now request.kind error := by
  obtain ⟨kind, options, now⟩ := request
  have htable (hf : kind.family = .table) :
      (WidgetRequest.mk kind options now).plan = .error error ↔ Blames options now kind error := by
    rw [plan_of_table_eq_error_iff _ hf]
    constructor
    · rintro ⟨text, hr, hn, rfl⟩
      exact .rowLimit hf hr hn
    · intro hb
      cases hb with
      | rowLimit _ given unread => exact ⟨_, given, unread, rfl⟩
      | weeks => cases hf
      | days => cases hf
  cases kind with
  | tableRepositories | tableBranches | tableIssues | tablePullRequests => exact htable rfl
  | boxStars | boxWatchers | boxOpenIssues | barViews =>
    constructor
    · intro hp
      cases hp
    · intro hb
      cases hb with
      | rowLimit table => cases table
  | barCommits =>
    refine (puts_commitsPlan ⟨.barCommits, options, now⟩).eq_error_iff.trans ?_
    constructor
    · rintro ⟨requirement, hu, rfl⟩
      exact .weeks hu
    · intro hb
      cases hb with
      | rowLimit table => cases table
      | weeks first => exact ⟨_, first, rfl⟩
  | barStars =>
    have hputs := puts_starsPlan ⟨.barStars, options, now⟩
    rw [onCalendar_eq h] at hputs
    refine hputs.eq_error_iff.trans ?_
    constructor
    · rintro ⟨requirement, hu, rfl⟩
      exact .days hu
    · intro hb
      cases hb with
      | rowLimit table => cases table
      | days first => exact ⟨_, first, rfl⟩

end WidgetRequest

end MetricBoard
