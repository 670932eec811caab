import Mathlib.Data.List.Infix
import MetricBoard.Proofs.Time.Grammar

/-!
# Spellings of relative dates

A relative date is spelled by digits, which may be none, and one of five endings. The endings hold
small letters and underscores only, and none of them stands inside another one, so that nothing
can be added to a spelling but blanks around it and digits in front. Every count below 2 ^ 64 of
every unit is read back from its text.
-/

namespace MetricBoard.RelativeDate

/-- What follows the digits of a spelling. -/
def endings : List (List Char) :=
  ["today".toList, "now".toList] ++ DateUnit.all.map fun unit => '_' :: unit.agoToken.toList

/-- An ASCII digit, a small ASCII letter or an underscore. -/
def IsMark (c : Char) : Prop := c.isDigit = true ∨ c.isLower = true ∨ c = '_'

theorem Spelling.exists_ending {core : List Char} {date : RelativeDate} (h : Spelling core date) :
    ∃ digits ending, core = digits ++ ending ∧ (∀ c ∈ digits, c.isDigit = true) ∧
      ending ∈ endings := by
  cases h with
  | today => exact ⟨[], "today".toList, rfl, nofun, by decide⟩
  | now => exact ⟨[], "now".toList, rfl, nofun, by decide⟩
  | @ago digits count unit decimal bounded =>
    exact ⟨digits, '_' :: unit.agoToken.toList, rfl, decimal.ascii, by cases unit <;> decide⟩

theorem isMark_of_mem_ending {ending : List Char} (h : ending ∈ endings) :
    ∀ c ∈ ending, IsMark c := by
  have hall : ∀ ending ∈ endings, ending.all (fun c => c.isLower || c == '_') = true := by decide
  intro c hc
  have hm := List.all_eq_true.mp (hall ending h) c hc
  right
  simpa using hm

theorem not_digit_of_mem_ending {ending : List Char} (h : ending ∈ endings) :
    ∀ c ∈ ending, c.isDigit = false := by
  have hall : ∀ ending ∈ endings, ending.all (!·.isDigit) = true := by decide
  intro c hc
  have hd := List.all_eq_true.mp (hall ending h) c hc
  simpa using hd

theorem eq_of_ending_infix {ending other : List Char} (h : ending ∈ endings)
    (ho : other ∈ endings) (hi : ending <:+: other) : ending = other := by
  have hall : ∀ ending ∈ endings, ∀ other ∈ endings, ending <:+: other → ending = other := by
    decide
  exact hall ending h other ho hi

theorem Spelling.isMark {core : List Char} {date : RelativeDate} (h : Spelling core date) :
    ∀ c ∈ core, IsMark c := by
  obtain ⟨digits, ending, rfl, hd, he⟩ := h.exists_ending
  intro c hc
  rcases List.mem_append.mp hc with hc | hc
  · exact .inl (hd c hc)
  · exact isMark_of_mem_ending he c hc

/-- An ending does not begin among digits, so that it stands inside what follows them. -/
theorem exists_ending_inside {front ending back digits last : List Char} (h : ending ∈ endings)
    (hd : ∀ c ∈ digits, c.isDigit = true) (heq : front ++ (ending ++ back) = digits ++ last) :
    ∃ mid, front = digits ++ mid ∧ last = mid ++ ending ++ back := by
  rcases List.append_eq_append_iff.mp heq with ⟨mid, hm, hr⟩ | ⟨mid, hm, hr⟩
  · -- Were any digits left over, the ending would begin with the first of them.
    cases mid with
    | nil => exact ⟨[], by simpa using hm.symm, by simpa using hr.symm⟩
    | cons c mid =>
      have hc : c.isDigit = true := hd c (by simp [hm])
      have hn : ending ≠ [] := by
        rintro rfl
        revert h
        decide
      obtain ⟨first, rest, rfl⟩ := List.exists_cons_of_ne_nil hn
      obtain rfl : first = c := (List.cons.inj hr).1
      rw [not_digit_of_mem_ending h first List.mem_cons_self] at hc
      cases hc
  · exact ⟨mid, hm, by simpa using hr⟩

/-- A spelling that is part of another one is its end, with nothing but digits in front. -/
theorem Spelling.of_part {front middle back : List Char} {date other : RelativeDate}
    (h : Spelling middle date) (ho : Spelling (front ++ middle ++ back) other) :
    back = [] ∧ ∀ c ∈ front, c.isDigit = true := by
  obtain ⟨digits, ending, rfl, hd, he⟩ := h.exists_ending
  obtain ⟨others, last, heq, hothers, hlast⟩ := ho.exists_ending
  have hsplit : (front ++ digits) ++ (ending ++ back) = others ++ last := by
    rw [← heq]
    simp only [List.append_assoc]
  obtain ⟨mid, hfront, hl⟩ := exists_ending_inside he hothers hsplit
  have hsame : ending = last := eq_of_ending_infix he hlast ⟨mid, back, hl.symm⟩
  have hlength : last.length = mid.length + ending.length + back.length := by
    rw [hl]
    simp [Nat.add_assoc]
  rw [hsame] at hlength
  have hmid : mid = [] := List.length_eq_zero_iff.mp (by omega)
  have hback : back = [] := List.length_eq_zero_iff.mp (by omega)
  refine ⟨hback, fun c hc => ?_⟩
  have hf : c ∈ others ++ mid := hfront ▸ List.mem_append_left _ hc
  rw [hmid, List.append_nil] at hf
  exact hothers c hf

/-! ## The reader -/

theorem parse?_eq_some_iff_spelling {expression : String} {date : RelativeDate} :
    parse? expression = some date ↔ Spelling (Text.trimmed expression) date :=
  parse?_eq_some_iff.trans expresses_iff

theorem parse?_eq_none_of {expression : String}
    (h : ∀ date, ¬ Spelling (Text.trimmed expression) date) : parse? expression = none := by
  rw [Option.eq_none_iff_forall_ne_some]
  intro date hd
  exact h date (parse?_eq_some_iff_spelling.mp hd)

/-- Blanks around a spelling do not count. -/
theorem parse?_of_spelling {core : List Char} {date : RelativeDate} (h : Spelling core date)
    {before after : String} (hb : Text.AllBlank before.toList) (ha : Text.AllBlank after.toList) :
    parse? (before ++ String.ofList core ++ after) = some date := by
  have hs : Text.Surrounds core (before ++ String.ofList core ++ after).toList :=
    ⟨before.toList, after.toList, hb, ha, by simp⟩
  exact parse?_eq_some_iff.mpr ⟨core, h, hs⟩

/-- The reader accepts the two words for the current day and the counts below 2 ^ 64 of a unit, up
to blanks around them, and nothing else: no other character than those of the spellings, nothing
behind a spelling, and nothing but more digits before it. What a count is written as is read as
that count. -/
theorem parse_accepts_spellings (expression : String) :
    let core := Text.trimmed expression
    (parse? expression = some .today ↔ core = "today".toList ∨ core = "now".toList) ∧
    (∀ count unit, parse? expression = some (.ago count unit) ↔ count < 2 ^ 64 ∧
      ∃ digits, Number.Decimal digits count ∧
        core = digits ++ ("_" ++ unit.name ++ "_ago").toList) ∧
    (parse? expression = none ↔ core ≠ "today".toList ∧ core ≠ "now".toList ∧
      ∀ digits count (unit : DateUnit), Number.Decimal digits count →
        core = digits ++ ("_" ++ unit.name ++ "_ago").toList → 2 ^ 64 ≤ count) ∧
    ((∃ c ∈ core, ¬ IsMark c) → parse? expression = none) ∧
    (∀ front middle back date, Spelling middle date → core = front ++ middle ++ back →
      (back ≠ [] ∨ ∃ c ∈ front, c.isDigit = false) → parse? expression = none) ∧
    ∀ (count : Nat) (unit : DateUnit) (before after : String), count < 2 ^ 64 →
      Text.AllBlank before.toList → Text.AllBlank after.toList →
        parse? (before ++ (toString count ++ "_" ++ unit.name ++ "_ago") ++ after) =
          some (.ago count unit) := by
  intro core
  have htoday : parse? expression = some .today ↔ core = "today".toList ∨ core = "now".toList :=
    parse?_eq_some_iff_spelling.trans spelling_today_iff
  have hago : ∀ count unit, parse? expression = some (.ago count unit) ↔ count < 2 ^ 64 ∧
      ∃ digits, Number.Decimal digits count ∧
        core = digits ++ ("_" ++ unit.name ++ "_ago").toList := fun count unit =>
    parse?_eq_some_iff_spelling.trans spelling_ago_iff
  refine ⟨htoday, hago, ?_, ?_, ?_, ?_⟩
  · constructor
    · intro hnone
      refine ⟨fun ht => ?_, fun hn => ?_, fun digits count unit hd hc => ?_⟩
      · cases hnone.symm.trans (htoday.mpr (.inl ht))
      · cases hnone.symm.trans (htoday.mpr (.inr hn))
      · by_contra hb
        cases hnone.symm.trans ((hago count unit).mpr ⟨by omega, digits, hd, hc⟩)
    · rintro ⟨ht, hn, hlarge⟩
      refine parse?_eq_none_of fun date h => ?_
      cases date with
      | today => exact (spelling_today_iff.mp h).elim ht hn
      | ago count unit =>
        obtain ⟨hb, digits, hd, hc⟩ := spelling_ago_iff.mp h
        have hl := hlarge digits count unit hd hc
        omega
  · rintro ⟨c, hc, hm⟩
    exact parse?_eq_none_of fun date h => hm (h.isMark c hc)
  · intro front middle back date hmiddle hcore hadded
    refine parse?_eq_none_of fun other h => ?_
    have hspelled : Spelling (front ++ middle ++ back) other := hcore ▸ h
    obtain ⟨hback, hfront⟩ := hmiddle.of_part hspelled
    rcases hadded with hb | ⟨c, hc, hd⟩
    · exact hb hback
    · rw [hfront c hc] at hd
      cases hd
  · intro count unit before after hb hbefore hafter
    have hread := parse?_of_spelling (spelling_toString hb unit) hbefore hafter
    rwa [String.ofList_toList] at hread

end MetricBoard.RelativeDate
