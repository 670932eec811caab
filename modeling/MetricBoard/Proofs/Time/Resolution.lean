import MetricBoard.Proofs.Time.Grammar

/-!
# Days from relative dates

Which expressions mean a day of the calendar, and which day it is. The present has a say in this
only by its day. An expression means no day for one of two reasons: it is neither a count of days
nor a word for the current day, or its count leads out of the calendar.
-/

namespace MetricBoard

open RelativeDate (Expresses)

/-- The expression is a word for the current day, without the blanks around it. -/
def IsToday (expression : String) : Prop :=
  Text.trimmed expression = "today".toList ∨ Text.trimmed expression = "now".toList

/-- The expression is digits and the words for days, with blanks around them or without. -/
def DaysAgo (expression : String) (days : Nat) : Prop :=
  ∃ digits, Number.Decimal digits days ∧ days < 2 ^ 64 ∧
    Text.Surrounds (digits ++ "_days_ago".toList) expression.toList

/-- How many days the expression lies back. The current day is no day back. -/
inductive LiesBack (expression : String) : Nat → Prop
  | today (is : IsToday expression) : LiesBack expression 0
  | ago {days : Nat} (is : DaysAgo expression days) : LiesBack expression days

/-- The expression means a day of the calendar, so many days before that of the present. -/
structure MeansDay (now : Instant) (expression : String) (days : Nat) : Prop where
  back : LiesBack expression days
  inside : firstDay ≤ now.day - days

/-- What is expected of an expression that means no day. -/
inductive Refused (now : Instant) (expression : String) : String → Prop
  | outside {days : Nat} (ago : DaysAgo expression days) (before : now.day - days < firstDay) :
      Refused now expression "a day offset within the calendar range"
  | otherForm (form : ¬ ∃ days, LiesBack expression days) :
      Refused now expression "<integer>_days_ago or today"

variable {now : Instant} {expression : String} {days : Nat}

/-! ## One expression -/

theorem daysAgo_iff : DaysAgo expression days ↔ Expresses expression (.ago days .days) :=
  (RelativeDate.expresses_ago_iff (by decide)).symm

theorem daysBack?_eq_some_iff : daysBack? expression = some days ↔ LiesBack expression days := by
  constructor
  · intro h
    unfold daysBack? at h
    split at h
    · rename_i hp
      obtain rfl := Option.some.inj h
      have ht := RelativeDate.parse?_eq_some_iff.mp hp
      exact .today (RelativeDate.expresses_today_iff.mp ht)
    · rename_i hp
      obtain rfl := Option.some.inj h
      exact .ago (daysAgo_iff.mpr (RelativeDate.parse?_eq_some_iff.mp hp))
    · cases h
  · intro h
    unfold daysBack?
    cases h with
    | today is =>
      have ht := RelativeDate.expresses_today_iff.mpr is
      rw [RelativeDate.parse?_eq_some_iff.mpr ht]
    | ago is => rw [RelativeDate.parse?_eq_some_iff.mpr (daysAgo_iff.mp is)]

theorem LiesBack.expresses (h : LiesBack expression days) :
    ∃ date, Expresses expression date ∧ date.isIn .days = true := by
  cases h with
  | today is => exact ⟨_, RelativeDate.expresses_today_iff.mpr is, rfl⟩
  | ago is => exact ⟨_, daysAgo_iff.mp is, rfl⟩

theorem LiesBack.unique {other : Nat} (h : LiesBack expression days)
    (ho : LiesBack expression other) : days = other := by
  have hd := daysBack?_eq_some_iff.mpr h
  have hb := daysBack?_eq_some_iff.mpr ho
  exact Option.some.inj (hd.symm.trans hb)

/-- What lies back has one of two forms, whatever the number of days is. -/
theorem exists_liesBack_iff : (∃ days, LiesBack expression days) ↔
    IsToday expression ∨ ∃ days, DaysAgo expression days := by
  constructor
  · rintro ⟨days, hb⟩
    cases hb with
    | today is => exact .inl is
    | ago is => exact .inr ⟨days, is⟩
  · rintro (is | ⟨days, is⟩)
    · exact ⟨0, .today is⟩
    · exact ⟨days, .ago is⟩

theorem resolveDay_of_liesBack (h : LiesBack expression days) :
    resolveDay now expression =
      if firstDay ≤ now.day - days then .ok (.ofDay (now.day - days))
      else .error (malformedDate expression "a day offset within the calendar range") := by
  unfold resolveDay
  rw [daysBack?_eq_some_iff.mpr h]
  rfl

theorem resolveDay_of_otherForm (h : ¬ ∃ days, LiesBack expression days) :
    resolveDay now expression =
      .error (malformedDate expression "<integer>_days_ago or today") := by
  have hn : daysBack? expression = none := by
    rw [Option.eq_none_iff_forall_ne_some]
    exact fun days hd => h ⟨days, daysBack?_eq_some_iff.mp hd⟩
  have hd : DateForm.anyOf (unitForms .days) = "<integer>_days_ago or today" := by decide
  unfold resolveDay
  rw [hn, hd]

theorem MeansDay.resolveDay (h : MeansDay now expression days) :
    resolveDay now expression = .ok (.ofDay (now.day - days)) := by
  rw [resolveDay_of_liesBack h.back, if_pos h.inside]

theorem Refused.resolveDay {expected : String} (h : Refused now expression expected) :
    resolveDay now expression = .error (malformedDate expression expected) := by
  cases h with
  | outside ago before => rw [resolveDay_of_liesBack (.ago ago), if_neg (by omega)]
  | otherForm form => exact resolveDay_of_otherForm form

/-- The current day is in the calendar, so only a count of days can lead out of it. -/
theorem meansDay_or_refused (h : firstDay ≤ now.day) (expression : String) :
    (∃ days, MeansDay now expression days) ∨ ∃ expected, Refused now expression expected := by
  by_cases hb : ∃ days, LiesBack expression days
  · obtain ⟨days, hb⟩ := hb
    by_cases hin : firstDay ≤ now.day - days
    · exact .inl ⟨days, hb, hin⟩
    · cases hb with
      | today is => exact absurd (by simpa using h) hin
      | ago is => exact .inr ⟨_, .outside is (by omega)⟩
  · exact .inr ⟨_, .otherForm hb⟩

/-- Of the present nothing but its day is looked at. -/
theorem resolveDay_congr {later : Instant} (h : now.day = later.day) (expression : String) :
    resolveDay now expression = resolveDay later expression := by
  unfold resolveDay
  rw [h]

/-- The days that are resolved begin neither before the calendar nor after the present. -/
theorem MeansDay.bounds (h : MeansDay now expression days) :
    -8334601228800 ≤ (now.seconds.fdiv 86400 - days) * 86400 ∧
      (now.seconds.fdiv 86400 - days) * 86400 ≤ now.seconds := by
  have hin : -96465292 ≤ now.seconds.fdiv 86400 - days := firstDay_eq ▸ h.inside
  rw [Int.fdiv_eq_ediv_of_nonneg _ (by decide)] at hin ⊢
  omega

/-! ## Two expressions -/

variable {start stop : String}

theorem convertDates_of_meansDay {first last : Nat} (hs : MeansDay now start first)
    (he : MeansDay now stop last) :
    convertDates now start stop =
      .ok ⟨.ofDay (now.day - first), .ofDay (now.day - last)⟩ := by
  unfold convertDates
  rw [hs.resolveDay, he.resolveDay]
  rfl

theorem convertDates_of_start_refused {expected : String} (h : Refused now start expected) :
    convertDates now start stop = .error (.malformedDate "" "start_date" start expected) := by
  unfold convertDates
  rw [h.resolveDay]
  rfl

theorem convertDates_of_stop_refused {first : Nat} {expected : String}
    (hs : MeansDay now start first) (h : Refused now stop expected) :
    convertDates now start stop = .error (.malformedDate "" "end_date" stop expected) := by
  unfold convertDates
  rw [hs.resolveDay, h.resolveDay]
  rfl

theorem convertDates_congr {later : Instant} (h : now.day = later.day) (start stop : String) :
    convertDates now start stop = convertDates later start stop := by
  unfold convertDates
  rw [resolveDay_congr h start, resolveDay_congr h stop]

/-- Both expressions have to mean a day, and the order of the days is not looked at. -/
theorem convertDates_eq_ok_iff (h : firstDay ≤ now.day) {range : DateRange} :
    convertDates now start stop = .ok range ↔
      ∃ first last, MeansDay now start first ∧ MeansDay now stop last ∧
        range = ⟨.ofDay (now.day - first), .ofDay (now.day - last)⟩ := by
  constructor
  · intro hr
    rcases meansDay_or_refused h start with ⟨first, hs⟩ | ⟨expected, hs⟩
    · rcases meansDay_or_refused h stop with ⟨last, he⟩ | ⟨expected, he⟩
      · have hok := convertDates_of_meansDay hs he
        exact ⟨first, last, hs, he, Except.ok.inj (hr.symm.trans hok)⟩
      · cases hr.symm.trans (convertDates_of_stop_refused hs he)
    · cases hr.symm.trans (convertDates_of_start_refused hs)
  · rintro ⟨first, last, hs, he, rfl⟩
    exact convertDates_of_meansDay hs he

theorem convertDates_eq_error_iff (h : firstDay ≤ now.day) {error : WidgetError} :
    convertDates now start stop = .error error ↔ ∃ expected,
      (Refused now start expected ∧
        error = .malformedDate "" "start_date" start expected) ∨
      ((∃ days, MeansDay now start days) ∧ Refused now stop expected ∧
        error = .malformedDate "" "end_date" stop expected) := by
  constructor
  · intro hr
    rcases meansDay_or_refused h start with ⟨first, hs⟩ | ⟨expected, hs⟩
    · rcases meansDay_or_refused h stop with ⟨last, he⟩ | ⟨expected, he⟩
      · cases hr.symm.trans (convertDates_of_meansDay hs he)
      · have herror := hr.symm.trans (convertDates_of_stop_refused hs he)
        exact ⟨expected, .inr ⟨⟨first, hs⟩, he, Except.error.inj herror⟩⟩
    · have herror := hr.symm.trans (convertDates_of_start_refused hs)
      exact ⟨expected, .inl ⟨hs, Except.error.inj herror⟩⟩
  · rintro ⟨expected, ⟨hs, rfl⟩ | ⟨⟨first, hs⟩, he, rfl⟩⟩
    · exact convertDates_of_start_refused hs
    · exact convertDates_of_stop_refused hs he

/-- Two expressions are resolved when both mean a day of the calendar, and then to the first
instants of these days, in the order in which they are given. The instants differ by the days
between the expressions and do not lie after the present, of which nothing but the day counts.
Otherwise the error repeats the first expression that means no day and says whether its count
leads out of the calendar. -/
theorem convertDates_on_calendar {now : Instant} (h : firstDay ≤ now.day) (start stop : String) :
    let midnight (back : Nat) : Instant := ⟨(now.seconds.fdiv 86400 - back) * 86400, 0⟩
    (∀ range, convertDates now start stop = .ok range ↔
      ∃ first last, MeansDay now start first ∧ MeansDay now stop last ∧
        range = ⟨midnight first, midnight last⟩) ∧
    (∀ first last, MeansDay now start first → MeansDay now stop last →
      (midnight last).seconds - (midnight first).seconds = ((first : Int) - last) * 86400 ∧
      (∀ back ∈ [first, last], -8334601228800 ≤ (midnight back).seconds ∧
        (midnight back).seconds ≤ now.seconds) ∧
      convertDates now stop start = .ok ⟨midnight last, midnight first⟩) ∧
    (∀ error, convertDates now start stop = .error error ↔ ∃ expected,
      (Refused now start expected ∧
        error = .malformedDate "" "start_date" start expected) ∨
      ((∃ days, MeansDay now start days) ∧ Refused now stop expected ∧
        error = .malformedDate "" "end_date" stop expected)) ∧
    ∀ later : Instant, later.seconds.fdiv 86400 = now.seconds.fdiv 86400 →
      convertDates later start stop = convertDates now start stop := by
  intro midnight
  refine ⟨fun range => convertDates_eq_ok_iff h, fun first last hs he => ?_,
    fun error => convertDates_eq_error_iff h, fun later hday => convertDates_congr hday start stop⟩
  have hdays : (midnight last).seconds - (midnight first).seconds =
      ((first : Int) - last) * 86400 := by
    simp only [midnight]
    omega
  refine ⟨hdays, ?_, convertDates_of_meansDay he hs⟩
  intro back hm
  rcases List.mem_cons.mp hm with rfl | hm
  · exact hs.bounds
  · obtain rfl := List.mem_singleton.mp hm
    exact he.bounds

/-- A leap second before 1970 belongs to the last day of 1969. -/
theorem convertDates_in_leap_second :
    firstDay ≤ (Instant.mk (-1) 1999999999).day ∧
    convertDates ⟨-1, 1999999999⟩ " 007_days_ago" "now" =
      .ok ⟨⟨-691200, 0⟩, ⟨-86400, 0⟩⟩ := by
  have hn : firstDay ≤ (Instant.mk (-1) 1999999999).day := by decide
  have hd : Number.Decimal "007".toList 7 :=
    ⟨by decide, List.all_eq_true.mp (by decide), by decide⟩
  have hb : Text.AllBlank [' '] := List.all_eq_true.mp (by decide)
  have hseven : DaysAgo " 007_days_ago" 7 :=
    ⟨_, hd, by decide, [' '], [], hb, nofun, by decide⟩
  have hs : MeansDay ⟨-1, 1999999999⟩ " 007_days_ago" 7 := ⟨.ago hseven, by decide⟩
  have he : MeansDay ⟨-1, 1999999999⟩ "now" 0 := ⟨.today (.inr (by decide)), by decide⟩
  exact ⟨hn, ((convertDates_on_calendar hn " 007_days_ago" "now").1 _).mpr ⟨7, 0, hs, he, rfl⟩⟩

end MetricBoard
