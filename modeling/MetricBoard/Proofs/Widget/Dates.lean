import MetricBoard.Proofs.Time.Resolution
import MetricBoard.Proofs.Time.Unit
import MetricBoard.Proofs.Widget.Requirement
import MetricBoard.Widget.Plan

/-!
# The dates of charts

What the charts over time put to their two dates, in order, and what they ask for once all of it is
met. Both dates are looked through for the words of their unit before either is read. Each reader is
followed once here; when a chart asks, what it blames and which errors it can end with are read off
from that. Nothing is assumed about the instant, which may even lie before the calendar.
-/

namespace MetricBoard

open RelativeDate (Expresses)

/-! ## Expressions -/

/-- The expression is digits and the words for weeks, with blanks around them or without. -/
def WeeksAgo (expression : String) (weeks : Nat) : Prop :=
  ∃ digits, Number.Decimal digits weeks ∧ weeks < 2 ^ 64 ∧
    Text.Surrounds (digits ++ "_weeks_ago".toList) expression.toList

/-- The words for weeks stand somewhere in the expression. -/
def NamesWeeks (expression : String) : Prop :=
  "weeks_ago".toList <:+: Text.trimmed expression

/-- The words for days stand somewhere in the expression, or it is a word for the current day. -/
def NamesDays (expression : String) : Prop :=
  "days_ago".toList <:+: Text.trimmed expression ∨ IsToday expression

/-- A count of days that does not lead out of the calendar, if the expression is one. -/
def InCalendar (now : Instant) (expression : String) : Prop :=
  ∀ days : Nat, DaysAgo expression days → firstDay ≤ now.day - days

/-- The day that the expression means is in the calendar, if it means one. The present day counts
too, which is in the calendar only if the instant is. -/
def OnCalendar (now : Instant) (expression : String) : Prop :=
  ∀ days : Nat, LiesBack expression days → firstDay ≤ now.day - days

section

variable {expression : String} {now : Instant}

theorem weeksAgo_iff {weeks : Nat} :
    WeeksAgo expression weeks ↔ Expresses expression (.ago weeks .weeks) :=
  (RelativeDate.expresses_ago_iff (by decide)).symm

theorem mentions_weeks_iff : mentions .weeks expression = true ↔ NamesWeeks expression := by
  have hu : DateUnit.weeks.agoToken = "weeks_ago" := by decide
  have hd : (DateUnit.weeks == DateUnit.days) = false := by decide
  unfold mentions NamesWeeks
  dsimp only
  rw [hu, hd, Bool.false_and, Bool.or_false, Text.contains_iff_infix]

theorem mentions_days_iff : mentions .days expression = true ↔ NamesDays expression := by
  have hu : DateUnit.days.agoToken = "days_ago" := by decide
  have hd : (DateUnit.days == DateUnit.days) = true := by decide
  unfold mentions NamesDays IsToday
  dsimp only
  rw [hu, hd, Bool.true_and, Bool.or_eq_true, Text.contains_iff_infix, RelativeDate.isToday_iff]

theorem WeeksAgo.namesWeeks {weeks : Nat} (h : WeeksAgo expression weeks) :
    NamesWeeks expression := by
  rw [← mentions_weeks_iff, RelativeDate.mentions_of_expresses (weeksAgo_iff.mp h)]
  rfl

theorem LiesBack.namesDays {days : Nat} (h : LiesBack expression days) : NamesDays expression := by
  obtain ⟨date, hd, hu⟩ := h.expresses
  rw [← mentions_days_iff, RelativeDate.mentions_of_expresses hd, hu]

/-- A count of days does not name weeks. -/
theorem DaysAgo.not_namesWeeks {days : Nat} (h : DaysAgo expression days) :
    ¬ NamesWeeks expression := by
  rw [← mentions_weeks_iff, RelativeDate.mentions_of_expresses (daysAgo_iff.mp h)]
  exact nofun

theorem WeeksAgo.unique {weeks other : Nat} (h : WeeksAgo expression weeks)
    (ho : WeeksAgo expression other) : weeks = other :=
  (RelativeDate.ago.inj ((weeksAgo_iff.mp h).unique (weeksAgo_iff.mp ho))).1

theorem onCalendar_eq (h : firstDay ≤ now.day) : OnCalendar now = InCalendar now := by
  funext expression
  refine propext ⟨fun hall days ha => hall days (.ago ha), fun hall days hb => ?_⟩
  cases hb with
  | today => simpa using h
  | ago is => exact hall days is

end

/-! ## Requirements of a chart -/

/-- What the chart of commits puts to its dates, in order. -/
def weekRequirements (start stop : String) : List Requirement :=
  [⟨.startDate, start, NamesWeeks start, "<integer>_weeks_ago"⟩,
   ⟨.endDate, stop, NamesWeeks stop, "<integer>_weeks_ago"⟩,
   ⟨.startDate, start, ∃ weeks, WeeksAgo start weeks,
    "<integer>_weeks_ago or <integer>_days_ago"⟩,
   ⟨.endDate, stop, ∃ weeks, WeeksAgo stop weeks, "<integer>_weeks_ago or <integer>_days_ago"⟩]

/-- What is put to a date that is resolved to a day, in order. What is inside the calendar is given
by the caller. -/
def dayRequirements (inside : String → Prop) (setting : Setting) (expression : String) :
    List Requirement :=
  [⟨setting, expression, IsToday expression ∨ ∃ days, DaysAgo expression days,
    "<integer>_days_ago or today"⟩,
   ⟨setting, expression, inside expression, "a day offset within the calendar range"⟩]

/-- What the chart of stars puts to its dates, in order. -/
def rangeRequirements (inside : String → Prop) (start stop : String) : List Requirement :=
  [⟨.startDate, start, NamesDays start, "<integer>_days_ago or today"⟩,
   ⟨.endDate, stop, NamesDays stop, "<integer>_days_ago or today"⟩] ++
    dayRequirements inside .startDate start ++ dayRequirements inside .endDate stop

theorem expected_of_mem_weekRequirements {start stop : String} {requirement : Requirement}
    (h : requirement ∈ weekRequirements start stop) :
    requirement.expected = "<integer>_weeks_ago" ∨
      requirement.expected = "<integer>_weeks_ago or <integer>_days_ago" := by
  simp only [weekRequirements, List.mem_cons, List.not_mem_nil, or_false] at h
  rcases h with rfl | rfl | rfl | rfl <;> simp

theorem expected_of_mem_rangeRequirements {inside : String → Prop} {start stop : String}
    {requirement : Requirement} (h : requirement ∈ rangeRequirements inside start stop) :
    requirement.expected = "<integer>_days_ago or today" ∨
      requirement.expected = "a day offset within the calendar range" := by
  simp only [rangeRequirements, dayRequirements, List.cons_append, List.nil_append, List.mem_cons,
    List.not_mem_nil, or_false] at h
  rcases h with rfl | rfl | rfl | rfl | rfl | rfl <;> simp

/-! ## One date -/

/-- The error that a requirement is not met, before it is known where the expression comes from. -/
def Requirement.unlabelled (requirement : Requirement) : WidgetError :=
  malformedDate requirement.expression requirement.expected

theorem puts_requireUnit {unit : DateUnit} {expression : String} {names : Prop}
    (h : mentions unit expression = true ↔ names) (setting : Setting) :
    Puts [⟨setting, expression, names, unit.expected⟩] Requirement.unlabelled (fun _ => names)
      (requireUnit expression unit) := by
  apply puts_single
  · intro hnames
    exact ⟨(), requireUnit_eq_ok_iff.mpr (h.mpr hnames), hnames⟩
  · intro hnames
    exact requireUnit_eq_error_iff.mpr ⟨Bool.eq_false_iff.mpr (mt h.mp hnames), rfl⟩

/-- The reader of counts takes days as well, but no count of days names weeks. -/
theorem puts_countPeriod {expression : String} (h : NamesWeeks expression) (setting : Setting) :
    Puts [⟨setting, expression, ∃ weeks, WeeksAgo expression weeks,
        "<integer>_weeks_ago or <integer>_days_ago"⟩] Requirement.unlabelled
      (WeeksAgo expression) (countPeriod expression) := by
  have he : DateForm.anyOf countForms = "<integer>_weeks_ago or <integer>_days_ago" := by decide
  unfold countPeriod
  split
  · rename_i weeks hp
    have hw := weeksAgo_iff.mpr (RelativeDate.parse?_eq_some_iff.mp hp)
    exact ⟨List.forall_mem_singleton.mpr ⟨weeks, hw⟩, hw⟩
  · rename_i hp
    have hd := daysAgo_iff.mpr (RelativeDate.parse?_eq_some_iff.mp hp)
    exact absurd h hd.not_namesWeeks
  · rename_i hweeks _
    have hn : ¬ ∃ weeks, WeeksAgo expression weeks := by
      rintro ⟨weeks, hw⟩
      exact hweeks weeks (RelativeDate.parse?_eq_some_iff.mpr (weeksAgo_iff.mp hw))
    rw [he]
    exact ⟨_, .here hn, rfl⟩

/-- First the form of the expression is looked at and then its day. -/
theorem puts_resolveDay (now : Instant) (setting : Setting) (expression : String) :
    Puts (dayRequirements (OnCalendar now) setting expression) Requirement.unlabelled
      (fun day => ∃ days : Nat, MeansDay now expression days ∧ day = .ofDay (now.day - days))
      (resolveDay now expression) := by
  by_cases hform : IsToday expression ∨ ∃ days, DaysAgo expression days
  · obtain ⟨days, hb⟩ := exists_liesBack_iff.mpr hform
    rw [resolveDay_of_liesBack hb]
    by_cases hin : firstDay ≤ now.day - days
    · have hc : OnCalendar now expression := fun other ho => hb.unique ho ▸ hin
      rw [if_pos hin]
      exact ⟨List.forall_mem_cons.mpr ⟨hform, List.forall_mem_singleton.mpr hc⟩, days, ⟨hb, hin⟩,
        rfl⟩
    · have hc : ¬ OnCalendar now expression := fun hc => hin (hc days hb)
      rw [if_neg hin]
      exact ⟨_, .later hform (.here hc), rfl⟩
  · rw [resolveDay_of_otherForm (mt exists_liesBack_iff.mp hform)]
    exact ⟨_, .here hform, rfl⟩

/-! ## Two dates -/

/-- The start is resolved first, and an error names the option of its date. -/
theorem puts_convertDates (now : Instant) (start stop : String) :
    Puts (dayRequirements (OnCalendar now) .startDate start ++
        dayRequirements (OnCalendar now) .endDate stop) (·.error "")
      (fun range => ∃ first last : Nat, MeansDay now start first ∧ MeansDay now stop last ∧
        range = ⟨.ofDay (now.day - first), .ofDay (now.day - last)⟩)
      (convertDates now start stop) := by
  have hlabel (setting : Setting) (expression : String) :
      ∀ requirement ∈ dayRequirements (OnCalendar now) setting expression,
        requirement.unlabelled.forOption setting.key = requirement.error "" := by
    unfold dayRequirements
    rw [List.forall_mem_cons, List.forall_mem_singleton]
    exact ⟨rfl, rfl⟩
  unfold convertDates
  rw [← List.append_nil (dayRequirements _ .endDate stop)]
  refine ((puts_resolveDay now .startDate start).mapError (hlabel _ _)).bind ?_
  rintro _ ⟨first, hs, rfl⟩
  refine ((puts_resolveDay now .endDate stop).mapError (hlabel _ _)).bind ?_
  rintro _ ⟨last, he, rfl⟩
  exact puts_nothing ⟨first, last, hs, he, rfl⟩

theorem meansDay_of_convertDates {now : Instant} {start stop : String} {range : DateRange}
    (h : convertDates now start stop = .ok range) :
    ∃ first last, MeansDay now start first ∧ MeansDay now stop last := by
  obtain ⟨-, first, last, hs, he, -⟩ := (puts_convertDates now start stop).of_ok h
  exact ⟨first, last, hs, he⟩

namespace WidgetRequest

variable (request : WidgetRequest)

theorem puts_located {α : Type} {requirement : Requirement} {property : α → Prop}
    {result : Except WidgetError α}
    (h : Puts [requirement] Requirement.unlabelled property result) :
    Puts [requirement] (·.error request.id) property
      (request.located requirement.setting result) :=
  h.mapError (List.forall_mem_singleton.mpr rfl)

/-- The chart of commits asks for the counts of weeks that its dates are. -/
theorem puts_commitsPlan :
    Puts (weekRequirements request.startDate request.endDate) (·.error request.id)
      (fun plan => ∃ startWeeks endWeeks, WeeksAgo request.startDate startWeeks ∧
        WeeksAgo request.endDate endWeeks ∧ plan = .series
          (.commits request.repository request.scope startWeeks endWeeks request.now))
      request.commitsPlan := by
  unfold commitsPlan
  change Puts ([_] ++ ([_] ++ ([_] ++ ([_] ++ [])))) _ _ _
  refine (request.puts_located (puts_requireUnit mentions_weeks_iff .startDate)).bind ?_
  intro _ hstart
  refine (request.puts_located (puts_requireUnit mentions_weeks_iff .endDate)).bind ?_
  intro _ hstop
  refine (request.puts_located (puts_countPeriod hstart .startDate)).bind fun first hs => ?_
  refine (request.puts_located (puts_countPeriod hstop .endDate)).bind fun last he => ?_
  exact puts_nothing ⟨first, last, hs, he, rfl⟩

/-- The chart of stars asks for the days that its dates mean. -/
theorem puts_starsPlan :
    Puts (rangeRequirements (OnCalendar request.now) request.startDate request.endDate)
      (·.error request.id)
      (fun plan => ∃ first last : Nat, MeansDay request.now request.startDate first ∧
        MeansDay request.now request.endDate last ∧ plan = .series (.stars request.repository
          (.ofDay (request.now.day - first)) (.ofDay (request.now.day - last))))
      request.starsPlan := by
  have hconvert : Puts _ (·.error request.id) _ ((convertDates request.now request.startDate
      request.endDate).mapError (·.inWidget request.id)) :=
    (puts_convertDates _ _ _).mapError fun _ _ => rfl
  unfold starsPlan
  change Puts ([_] ++ ([_] ++ ((dayRequirements _ _ _ ++ dayRequirements _ _ _) ++ []))) _ _ _
  refine (request.puts_located (puts_requireUnit mentions_days_iff .startDate)).bind fun _ _ => ?_
  refine (request.puts_located (puts_requireUnit mentions_days_iff .endDate)).bind fun _ _ => ?_
  refine hconvert.bind ?_
  rintro _ ⟨first, last, hs, he, rfl⟩
  exact puts_nothing ⟨first, last, hs, he, rfl⟩

end WidgetRequest

end MetricBoard
