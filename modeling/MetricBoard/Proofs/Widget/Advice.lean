import MetricBoard.Proofs.Engine.Validation

/-!
# Following the advice of a date error

An error about a date says which forms are expected, and a form with a number in the place kept
for it is something to try instead. Whoever tries nought does not hear of the same option again,
with one exception. The chart of commits looks for the words for weeks first, and then counts with
a reader that takes days as well and advertises what it takes; a count of days is refused for want
of the words.
-/

namespace MetricBoard

variable {σ : Type}

/-! ## Advertised forms -/

/-- What an advertised text leaves the choice between. -/
def alternatives (expected : String) : List String :=
  (Text.pieces " or ".toList expected.toList).map String.ofList

/-- Every alternative is the word for the current day or has a place for a number. -/
def IsShape (expected : String) : Prop :=
  ∀ alternative ∈ alternatives expected,
    alternative = "today" ∨ "<integer>".toList <:+: alternative.toList

/-- An alternative with nought wherever a number is to stand. -/
def withNought (alternative : String) : String :=
  Text.joined "0" ((Text.pieces "<integer>".toList alternative.toList).map String.ofList)

theorem alternatives_weeks : alternatives "<integer>_weeks_ago" = ["<integer>_weeks_ago"] := by
  decide

theorem alternatives_counts : alternatives "<integer>_weeks_ago or <integer>_days_ago" =
    ["<integer>_weeks_ago", "<integer>_days_ago"] := by
  decide

theorem alternatives_days : alternatives "<integer>_days_ago or today" =
    ["<integer>_days_ago", "today"] := by
  decide

theorem not_isShape_calendar : ¬ IsShape "a day offset within the calendar range" := by
  have ha : alternatives "a day offset within the calendar range" =
      ["a day offset within the calendar range"] := by decide
  have hn : Text.contains "<integer>".toList "a day offset within the calendar range".toList =
      false := by decide
  unfold IsShape
  rw [ha, List.forall_mem_singleton, ← Text.contains_iff_infix, hn]
  decide

theorem isShape_counts : IsShape "<integer>_weeks_ago or <integer>_days_ago" := by
  have hw : Text.contains "<integer>".toList "<integer>_weeks_ago".toList = true := by decide
  have hd : Text.contains "<integer>".toList "<integer>_days_ago".toList = true := by decide
  unfold IsShape
  rw [alternatives_counts, List.forall_mem_cons, List.forall_mem_singleton]
  exact ⟨.inr (Text.contains_iff_infix.mp hw), .inr (Text.contains_iff_infix.mp hd)⟩

/-- A count of days is advertised by the reader of counts only. -/
theorem eq_weeks_or_days {expected alternative : String}
    (he : expected = "<integer>_weeks_ago" ∨
      expected = "<integer>_weeks_ago or <integer>_days_ago")
    (ha : alternative ∈ alternatives expected) :
    alternative = "<integer>_weeks_ago" ∨
      alternative = "<integer>_days_ago" ∧
        expected = "<integer>_weeks_ago or <integer>_days_ago" := by
  rcases he with rfl | rfl
  · rw [alternatives_weeks] at ha
    exact .inl (List.mem_singleton.mp ha)
  · rw [alternatives_counts] at ha
    exact (List.mem_pair.mp ha).imp_right fun h => ⟨h, rfl⟩

/-! ## Nought -/

/-- With nought in it, each alternative for a date in days is the present day. -/
theorem liesBack_nought {alternative : String}
    (h : alternative ∈ alternatives "<integer>_days_ago or today") :
    LiesBack (withNought alternative) 0 := by
  have hdays : withNought "<integer>_days_ago" = "0_days_ago" := by decide
  have htoday : withNought "today" = "today" := by decide
  rw [alternatives_days] at h
  rcases List.mem_pair.mp h with rfl | rfl
  · rw [hdays]
    exact .ago (daysAgo_iff.mpr (RelativeDate.expresses_toString (by decide) .days))
  · rw [htoday]
    exact .today (.inl (by decide))

/-! ## Requirements on a date that was replaced -/

/-- A count of weeks meets all that is put to it, whatever the other date is. -/
theorem met_of_weeksAgo {start stop : String} {requirement : Requirement}
    (hm : requirement ∈ weekRequirements start stop) {weeks : Nat}
    (hw : WeeksAgo requirement.expression weeks) : requirement.met := by
  simp only [weekRequirements, List.mem_cons, List.not_mem_nil, or_false] at hm
  rcases hm with rfl | rfl | rfl | rfl
  · exact hw.namesWeeks
  · exact hw.namesWeeks
  · exact ⟨weeks, hw⟩
  · exact ⟨weeks, hw⟩

theorem met_of_present {now : Instant} (h : firstDay ≤ now.day) {start stop : String}
    {requirement : Requirement} (hm : requirement ∈ rangeRequirements (InCalendar now) start stop)
    (hb : LiesBack requirement.expression 0) : requirement.met := by
  have hinside {expression : String} (hb : LiesBack expression 0) :
      InCalendar now expression := by
    intro days ha
    obtain rfl := hb.unique (.ago ha)
    simpa using h
  simp only [rangeRequirements, dayRequirements, List.cons_append, List.nil_append, List.mem_cons,
    List.not_mem_nil, or_false] at hm
  rcases hm with rfl | rfl | rfl | rfl | rfl | rfl
  · exact hb.namesDays
  · exact hb.namesDays
  · exact exists_liesBack_iff.mp ⟨0, hb⟩
  · exact hinside hb
  · exact exists_liesBack_iff.mp ⟨0, hb⟩
  · exact hinside hb

/-- The requirement is put to the text of its option, where there is one. -/
def Requirement.TakenFrom (requirement : Requirement) (options : OptionBag) : Prop :=
  ∀ text, options.raw requirement.setting.key = some text → requirement.expression = text

theorem takenFrom_of_mem_weekRequirements {options : OptionBag} {start stop : String}
    {requirement : Requirement} (hm : requirement ∈ weekRequirements
      ((options.raw "start_date").getD start) ((options.raw "end_date").getD stop)) :
    requirement.TakenFrom options := by
  intro text hr
  simp only [weekRequirements, List.mem_cons, List.not_mem_nil, or_false] at hm
  rcases hm with rfl | rfl | rfl | rfl <;> exact Option.getD_eq_iff.mpr (.inl hr)

theorem takenFrom_of_mem_rangeRequirements {options : OptionBag} {inside : String → Prop}
    {start stop : String} {requirement : Requirement} (hm : requirement ∈ rangeRequirements inside
      ((options.raw "start_date").getD start) ((options.raw "end_date").getD stop)) :
    requirement.TakenFrom options := by
  intro text hr
  simp only [rangeRequirements, dayRequirements, List.cons_append, List.nil_append, List.mem_cons,
    List.not_mem_nil, or_false] at hm
  rcases hm with rfl | rfl | rfl | rfl | rfl | rfl <;> exact Option.getD_eq_iff.mpr (.inl hr)

/-! ## Blame after the advice was followed -/

def WidgetError.IsAbout (error : WidgetError) (option : String) : Prop :=
  match error with
  | .invalidNumber _ name _ | .malformedDate _ name _ _ => name = option
  | _ => False

theorem WidgetError.IsAbout.isValidation {error : WidgetError} {option : String}
    (h : error.IsAbout option) : error.isValidation = true := by
  cases error with
  | invalidNumber => rfl
  | malformedDate => rfl
  | _ => cases h

/-- The option whose text meets all that is put to it is not what the error is about. -/
theorem FirstUnmet.not_isAbout {options : OptionBag} {option text : String}
    {requirements : List Requirement} {requirement : Requirement}
    (hu : FirstUnmet requirements requirement) (id : String)
    (hr : options.raw option = some text)
    (htaken : ∀ requirement ∈ requirements, requirement.TakenFrom options)
    (hmet : ∀ requirement ∈ requirements, requirement.expression = text → requirement.met) :
    ¬ (requirement.error id).IsAbout option := by
  rintro rfl
  obtain ⟨hm, hn⟩ := hu.unmet
  exact hn (hmet requirement hm (htaken requirement hm text hr))

section

variable {options : OptionBag} {now : Instant} {kind : WidgetKind} {error : WidgetError}
  {widget option text expression expected : String}

theorem Blames.not_isAbout_of_weeks (hb : Blames options now .barCommits error)
    (hr : options.raw option = some text) {weeks : Nat} (hw : WeeksAgo text weeks) :
    ¬ error.IsAbout option := by
  cases hb with
  | rowLimit table => cases table
  | weeks first =>
    refine first.not_isAbout _ hr (fun _ => takenFrom_of_mem_weekRequirements) fun _ hm he => ?_
    exact met_of_weeksAgo hm (he ▸ hw)

theorem Blames.not_isAbout_of_present (hb : Blames options now .barStars error)
    (h : firstDay ≤ now.day) (hr : options.raw option = some text) (hp : LiesBack text 0) :
    ¬ error.IsAbout option := by
  cases hb with
  | rowLimit table => cases table
  | days first =>
    refine first.not_isAbout _ hr (fun _ => takenFrom_of_mem_rangeRequirements) fun _ hm he => ?_
    exact met_of_present h hm (he ▸ hp)

/-- No two errors are to blame at once. -/
theorem Blames.unique {other : WidgetError} (h : firstDay ≤ now.day)
    (hb : Blames options now kind error) (ho : Blames options now kind other) : error = other := by
  have hplan := ((WidgetRequest.mk kind options now).plan_eq_error_iff h).mpr hb
  have hother := ((WidgetRequest.mk kind options now).plan_eq_error_iff h).mpr ho
  exact Except.error.inj (hplan.symm.trans hother)

/-- Only the charts over time have dates, and these are the texts that they expect. -/
theorem Blames.expects (hb : Blames options now kind
      (.malformedDate widget option expression expected)) :
    (kind = .barCommits ∧ (expected = "<integer>_weeks_ago" ∨
      expected = "<integer>_weeks_ago or <integer>_days_ago")) ∨
    (kind = .barStars ∧ (expected = "<integer>_days_ago or today" ∨
      expected = "a day offset within the calendar range")) := by
  generalize he : WidgetError.malformedDate widget option expression expected = error at hb
  cases hb with
  | rowLimit => cases he
  | weeks first =>
    obtain ⟨-, -, -, rfl⟩ := WidgetError.malformedDate.inj he
    exact .inl ⟨rfl, expected_of_mem_weekRequirements first.unmet.1⟩
  | days first =>
    obtain ⟨-, -, -, rfl⟩ := WidgetError.malformedDate.inj he
    exact .inr ⟨rfl, expected_of_mem_rangeRequirements first.unmet.1⟩

/-- Counts are read only where both dates have the words for weeks in them. -/
theorem named_of_count_unmet {start stop : String} {requirement : Requirement}
    (hu : FirstUnmet (weekRequirements start stop) requirement)
    (he : requirement.expected = "<integer>_weeks_ago or <integer>_days_ago") :
    NamesWeeks start ∧ NamesWeeks stop ∧
      (requirement.setting = .startDate ∨ requirement.setting = .endDate) := by
  have hne : "<integer>_weeks_ago" ≠ "<integer>_weeks_ago or <integer>_days_ago" := by decide
  -- What comes later has passed the checks for words, and these expect something else.
  cases hu with
  | here => exact absurd he hne
  | later hstart hu =>
    cases hu with
    | here => exact absurd he hne
    | later hstop hu =>
      cases hu with
      | here => exact ⟨hstart, hstop, .inl rfl⟩
      | later _ hu =>
        cases hu with
        | here => exact ⟨hstart, hstop, .inr rfl⟩
        | later _ hu => cases hu

theorem not_namesWeeks_days : ¬ NamesWeeks "0_days_ago" := mt mentions_weeks_iff.mpr (by decide)

/-- A count of days in the place of a date that the chart of commits could not count is blamed in
its turn, for the words. -/
theorem Blames.days_of_count (hb : Blames options now .barCommits (.malformedDate widget option
      expression "<integer>_weeks_ago or <integer>_days_ago")) :
    Blames (options.insert option "0_days_ago") now .barCommits
      (.malformedDate "github.bar_commits" option "0_days_ago" "<integer>_weeks_ago") := by
  generalize he : WidgetError.malformedDate widget option expression _ = error at hb
  cases hb with
  | rowLimit => cases he
  | @weeks requirement first =>
    obtain ⟨-, rfl, -, hc⟩ := WidgetError.malformedDate.inj he
    obtain ⟨hstart, hstop, hs | hs⟩ := named_of_count_unmet first hc.symm
    · have hfirst : FirstUnmet (weekRequirements
          (((options.insert "start_date" "0_days_ago").raw "start_date").getD "7_weeks_ago")
          (((options.insert "start_date" "0_days_ago").raw "end_date").getD "0_weeks_ago"))
          ⟨.startDate, "0_days_ago", NamesWeeks "0_days_ago", "<integer>_weeks_ago"⟩ := by
        rw [OptionBag.raw_insert_self]
        exact .here not_namesWeeks_days
      rw [hs]
      exact .weeks hfirst
    · have hold := options.raw_insert "end_date" "0_days_ago" "start_date"
      rw [if_neg (by decide)] at hold
      have hfirst : FirstUnmet (weekRequirements
          (((options.insert "end_date" "0_days_ago").raw "start_date").getD "7_weeks_ago")
          (((options.insert "end_date" "0_days_ago").raw "end_date").getD "0_weeks_ago"))
          ⟨.endDate, "0_days_ago", NamesWeeks "0_days_ago", "<integer>_weeks_ago"⟩ := by
        rw [OptionBag.raw_insert_self, hold]
        exact .later hstart (.here not_namesWeeks_days)
      rw [hs]
      exact .weeks hfirst

end

/-! ## Dispatch -/

/-- Nought in the place of the number that a date error asks for brings no error about the same
option again, in any state of the platform, but for a count of days in the chart of commits. That
is advertised where a date has the words for weeks in it and is no count, and refused for want of
these words. -/
theorem advised_date_refused_iff (platform : Platform σ) {kind : WidgetKind} {options : OptionBag}
    {now : Instant} (h : firstDay ≤ now.day) {state : σ}
    {widget option expression expected : String}
    (hr : (platform.dispatch kind.id options now state).result =
      .error (.malformedDate widget option expression expected))
    (hs : IsShape expected) {alternative : String} (ha : alternative ∈ alternatives expected)
    (again : σ) (error : WidgetError) :
    ((platform.dispatch kind.id (options.insert option (withNought alternative)) now again).result =
        .error error ∧ error.IsAbout option) ↔
      kind = .barCommits ∧ alternative = "<integer>_days_ago" ∧
        error = .malformedDate "github.bar_commits" option "0_days_ago" "<integer>_weeks_ago" := by
  have hb : Blames options now kind (.malformedDate widget option expression expected) :=
    Platform.blames_of_dispatch h hr rfl
  have hraw := options.raw_insert_self option (withNought alternative)
  have hcured (hc : ∀ error, Blames (options.insert option (withNought alternative)) now kind
      error → ¬ error.IsAbout option) :
      ¬ ((platform.dispatch kind.id (options.insert option (withNought alternative)) now
        again).result = .error error ∧ error.IsAbout option) := by
    rintro ⟨hnew, habout⟩
    exact hc error (Platform.blames_of_dispatch h hnew habout.isValidation) habout
  rcases hb.expects with ⟨rfl, hexpected⟩ | ⟨rfl, rfl | rfl⟩
  · rcases eq_weeks_or_days hexpected ha with rfl | ⟨rfl, rfl⟩
    · have hw : withNought "<integer>_weeks_ago" = "0_weeks_ago" := by decide
      have hnought : WeeksAgo "0_weeks_ago" 0 :=
        weeksAgo_iff.mpr (RelativeDate.expresses_toString (by decide) .weeks)
      refine iff_of_false (hcured fun other ho => ?_) fun hn => absurd hn.2.1 (by decide)
      exact ho.not_isAbout_of_weeks hraw (hw ▸ hnought)
    · have hw : withNought "<integer>_days_ago" = "0_days_ago" := by decide
      have hdays := hb.days_of_count
      rw [hw]
      constructor
      · rintro ⟨hnew, habout⟩
        have hblames := Platform.blames_of_dispatch h hnew habout.isValidation
        exact ⟨rfl, rfl, hblames.unique h hdays⟩
      · rintro ⟨-, -, rfl⟩
        rw [Platform.dispatch_of_blames h hdays]
        exact ⟨rfl, rfl⟩
  · refine iff_of_false (hcured fun other ho => ?_) fun hn => absurd hn.1 (by decide)
    exact ho.not_isAbout_of_present h hraw (liesBack_nought ha)
  · exact absurd hs not_isShape_calendar

/-- A count that was out of bounds is taken back to nought. -/
theorem commits_count_advice_followed :
    let id := WidgetKind.barCommits.id
    let options := OptionBag.ofList [("end_date", "18446744073709551616_weeks_ago")]
    let followed := options.insert "end_date" (withNought "<integer>_weeks_ago")
    let expected := "<integer>_weeks_ago or <integer>_days_ago"
    firstDay ≤ (Instant.mk 0 0).day ∧
    (Platform.obliging.dispatch id options ⟨0, 0⟩ ()).result =
      .error (.malformedDate id "end_date" "18446744073709551616_weeks_ago" expected) ∧
    IsShape expected ∧ "<integer>_weeks_ago" ∈ alternatives expected ∧
    ∀ error, ¬ ((Platform.obliging.dispatch id followed ⟨0, 0⟩ ()).result = .error error ∧
      error.IsAbout "end_date") := by
  intro id options followed expected
  have hn : firstDay ≤ (Instant.mk 0 0).day := by decide
  have hr : (Platform.obliging.dispatch id options ⟨0, 0⟩ ()).result =
      .error (.malformedDate id "end_date" "18446744073709551616_weeks_ago" expected) := by
    decide +kernel
  have ha : "<integer>_weeks_ago" ∈ alternatives expected := by
    rw [alternatives_counts]
    exact List.mem_cons_self
  refine ⟨hn, hr, isShape_counts, ha, fun error => ?_⟩
  rw [advised_date_refused_iff .obliging hn hr isShape_counts ha () error]
  exact fun hd => absurd hd.2.1 (by decide)

/-- The chart of commits asks for a count of days, and refuses it. -/
theorem commits_refuse_advised_days :
    let id := WidgetKind.barCommits.id
    let options := OptionBag.ofList [("start_date", "x_weeks_ago")]
    let followed := options.insert "start_date" (withNought "<integer>_days_ago")
    let expected := "<integer>_weeks_ago or <integer>_days_ago"
    (Platform.obliging.dispatch id options ⟨0, 0⟩ ()).result =
      .error (.malformedDate id "start_date" "x_weeks_ago" expected) ∧
    IsShape expected ∧ "<integer>_days_ago" ∈ alternatives expected ∧
    (Platform.obliging.dispatch id followed ⟨0, 0⟩ ()).result =
      .error (.malformedDate id "start_date" "0_days_ago" "<integer>_weeks_ago") := by
  intro id options followed expected
  have ha : "<integer>_days_ago" ∈ alternatives expected := by
    rw [alternatives_counts]
    exact List.mem_cons_of_mem _ List.mem_cons_self
  exact ⟨by decide +kernel, isShape_counts, ha, by decide +kernel⟩

end MetricBoard
