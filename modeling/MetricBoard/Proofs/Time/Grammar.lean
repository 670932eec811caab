import MetricBoard.Proofs.Number.Count
import MetricBoard.Proofs.Text.Trim
import MetricBoard.Time.Window

/-!
# The grammar of relative dates

Which expressions spell a relative date, said without the reader: a word or digits and the words
of a unit, with blanks around it that do not count. The reader accepts these expressions and no
others, and of these the check of units lets through those of its unit, although it only looks
for the words somewhere in the expression.
-/

namespace MetricBoard

/-! ## Parts of a text -/

/-- A part is not found where its first character does not occur. -/
theorem Text.contains_append {c : Char} {part front : List Char} (h : c ∉ front)
    (back : List Char) : contains (c :: part) (front ++ back) = contains (c :: part) back := by
  induction front with
  | nil => rfl
  | cons d front ih =>
    obtain ⟨hd, hf⟩ : c ≠ d ∧ c ∉ front := by simpa using h
    have hp : (c == d) = false := by simpa using hd
    rw [List.cons_append, contains, ih hf]
    simp [List.isPrefixOf, hp]

theorem Text.contains_iff_infix {part text : List Char} :
    contains part text = true ↔ part <:+: text := by
  induction text with
  | nil => simp [contains]
  | cons c rest ih =>
    rw [contains, Bool.or_eq_true, List.isPrefixOf_iff_prefix, ih, List.infix_cons_iff]

namespace RelativeDate

/-- What spells a relative date, without blanks around it. -/
inductive Spelling : List Char → RelativeDate → Prop
  | today : Spelling "today".toList .today
  | now : Spelling "now".toList .today
  | ago {digits : List Char} {count : Nat} (unit : DateUnit)
      (decimal : Number.Decimal digits count) (bounded : count < 2 ^ 64) :
      Spelling (digits ++ '_' :: unit.agoToken.toList) (.ago count unit)

/-- The expression spells a relative date, perhaps with blanks around it. -/
def Expresses (expression : String) (date : RelativeDate) : Prop :=
  ∃ core, Spelling core date ∧ Text.Surrounds core expression.toList

/-! ## The reader -/

theorem ofEnding?_eq_some_iff {ending : List Char} {unit : DateUnit} :
    DateUnit.ofEnding? ending = some unit ↔ ending = '_' :: unit.agoToken.toList := by
  constructor
  · intro h
    simpa using List.find?_some h
  · rintro rfl
    cases unit <;> decide

theorem isToday_iff {text : List Char} :
    isToday text = true ↔ text = "today".toList ∨ text = "now".toList := by
  simp [isToday]

/-- The digits in front of a unit end where the unit begins. -/
theorem span_digits {digits : List Char} (h : ∀ c ∈ digits, c.isDigit = true)
    (rest : List Char) :
    (digits ++ '_' :: rest).takeWhile Char.isDigit = digits ∧
      (digits ++ '_' :: rest).dropWhile Char.isDigit = '_' :: rest := by
  have hu : ('_').isDigit = false := by decide
  constructor
  · rw [List.takeWhile_append_of_pos h, List.takeWhile_cons, if_neg (by simp [hu]),
      List.append_nil]
  · rw [List.dropWhile_append_of_pos h, List.dropWhile_cons, if_neg (by simp [hu])]

theorem countAgo?_eq_some_iff {text : List Char} {date : RelativeDate} :
    countAgo? text = some date ↔ ∃ digits count unit,
      text = digits ++ '_' :: unit.agoToken.toList ∧ Number.Decimal digits count ∧
        count < 2 ^ 64 ∧ date = .ago count unit := by
  unfold countAgo?
  constructor
  · intro h
    obtain ⟨count, hc, h⟩ := Option.bind_eq_some_iff.mp h
    obtain ⟨unit, hu, h⟩ := Option.bind_eq_some_iff.mp h
    obtain ⟨hb, hd⟩ := Option.ite_none_right_eq_some.mp h
    refine ⟨text.takeWhile Char.isDigit, count, unit, ?_, Number.natural?_eq_some_iff.mp hc, hb,
      (Option.some.inj hd).symm⟩
    rw [← ofEnding?_eq_some_iff.mp hu, List.takeWhile_append_dropWhile]
  · rintro ⟨digits, count, unit, rfl, hc, hb, rfl⟩
    obtain ⟨ht, hd⟩ := span_digits hc.ascii unit.agoToken.toList
    rw [ht, hd, Number.natural?_eq_some_iff.mpr hc, ofEnding?_eq_some_iff.mpr rfl]
    exact if_pos hb

/-- The words for the current day do not start with a digit. -/
theorem isToday_digits {digits : List Char} {count : Nat} (h : Number.Decimal digits count)
    (rest : List Char) : isToday (digits ++ rest) = false := by
  cases digits with
  | nil => exact absurd rfl h.nonempty
  | cons c digits =>
    have hc := h.ascii c List.mem_cons_self
    rw [Bool.eq_false_iff, Ne, isToday_iff, List.cons_append]
    rintro (ht | ht)
    · obtain rfl : c = 't' := (List.cons.inj ht).1
      revert hc
      decide
    · obtain rfl : c = 'n' := (List.cons.inj ht).1
      revert hc
      decide

/-- The two ways of the reader lead to the spellings and nowhere else. -/
theorem spelling_iff {text : List Char} {date : RelativeDate} :
    (if isToday text then some .today else countAgo? text) = some date ↔ Spelling text date := by
  constructor
  · intro h
    split at h
    · rename_i ht
      obtain rfl := Option.some.inj h
      rcases isToday_iff.mp ht with rfl | rfl
      · exact .today
      · exact .now
    · obtain ⟨digits, count, unit, rfl, hc, hb, rfl⟩ := countAgo?_eq_some_iff.mp h
      exact .ago unit hc hb
  · intro h
    cases h with
    | today => rfl
    | now => rfl
    | ago unit decimal bounded =>
      rw [isToday_digits decimal]
      exact countAgo?_eq_some_iff.mpr ⟨_, _, unit, rfl, decimal, bounded, rfl⟩

theorem isBlank_digit {c : Char} (h : c.isDigit = true) : Text.isBlank c = false := by
  have hc := (Number.isDigit_iff c).mp h
  simp only [Text.isBlank, Text.blankRanges, List.any_cons, List.any_nil, Bool.or_false,
    Bool.or_eq_false_iff, Bool.and_eq_false_iff, decide_eq_false_iff_not]
  omega

/-- No spelling begins or ends with a blank, so trimming leaves it as it is. -/
theorem Spelling.bare {core : List Char} {date : RelativeDate} (h : Spelling core date) :
    Text.Bare core := by
  cases h with
  | today => exact .of_ends 't' 'y' (by decide) (by decide) (by decide) (by decide)
  | now => exact .of_ends 'n' 'w' (by decide) (by decide) (by decide) (by decide)
  | @ago digits count unit decimal bounded =>
    have hl : ('_' :: unit.agoToken.toList).getLast? = some 'o' := by cases unit <;> decide
    cases digits with
    | nil => exact absurd rfl decimal.nonempty
    | cons first digits =>
      have hb : Text.isBlank first = false :=
        isBlank_digit (decimal.ascii first List.mem_cons_self)
      refine .of_ends first 'o' rfl ?_ hb (by decide)
      rw [List.getLast?_append, hl]
      rfl

/-- An expression spells a date by what is left without the blanks around it. -/
theorem expresses_iff {expression : String} {date : RelativeDate} :
    Expresses expression date ↔ Spelling (Text.trimmed expression) date := by
  constructor
  · rintro ⟨core, hc, hs⟩
    have ht : Text.trimmed expression = core := Text.trim_eq_iff.mpr ⟨hc.bare, hs⟩
    rwa [ht]
  · intro h
    exact ⟨_, h, Text.surrounds_trim _⟩

/-- The reader accepts the expressions of the grammar and no others. -/
theorem parse?_eq_some_iff {expression : String} {date : RelativeDate} :
    parse? expression = some date ↔ Expresses expression date := by
  unfold parse?
  rw [expresses_iff]
  exact spelling_iff

/-- An expression spells no more than one date. -/
theorem Expresses.unique {expression : String} {date other : RelativeDate}
    (h : Expresses expression date) (ho : Expresses expression other) : date = other := by
  have hd := parse?_eq_some_iff.mpr h
  have hp := parse?_eq_some_iff.mpr ho
  exact Option.some.inj (hd.symm.trans hp)

theorem ending_of_unit (unit : DateUnit) :
    ("_" ++ unit.name ++ "_ago").toList = '_' :: unit.agoToken.toList := by
  cases unit <;> decide

theorem spelling_ago_iff {core : List Char} {count : Nat} {unit : DateUnit} :
    Spelling core (.ago count unit) ↔ count < 2 ^ 64 ∧ ∃ digits, Number.Decimal digits count ∧
      core = digits ++ ("_" ++ unit.name ++ "_ago").toList := by
  rw [ending_of_unit]
  constructor
  · intro h
    cases h with
    | ago unit decimal bounded => exact ⟨bounded, _, decimal, rfl⟩
  · rintro ⟨hb, digits, hd, rfl⟩
    exact .ago unit hd hb

/-- What a count of a unit is written as. The words of the unit are given by the caller. -/
theorem expresses_ago_iff {expression words : String} {count : Nat} {unit : DateUnit}
    (hw : words = "_" ++ unit.name ++ "_ago") :
    Expresses expression (.ago count unit) ↔ ∃ digits, Number.Decimal digits count ∧
      count < 2 ^ 64 ∧ Text.Surrounds (digits ++ words.toList) expression.toList := by
  unfold Expresses
  simp only [spelling_ago_iff, hw]
  constructor
  · rintro ⟨core, ⟨hb, digits, hd, rfl⟩, hs⟩
    exact ⟨digits, hd, hb, hs⟩
  · rintro ⟨digits, hd, hb, hs⟩
    exact ⟨_, ⟨hb, digits, hd, rfl⟩, hs⟩

theorem spelling_toString {count : Nat} (h : count < 2 ^ 64) (unit : DateUnit) :
    Spelling (toString count ++ "_" ++ unit.name ++ "_ago").toList (.ago count unit) := by
  rw [spelling_ago_iff]
  refine ⟨h, _, Number.decimal_toString count, ?_⟩
  simp

/-- Every count below the bound is read back from its own text, in any unit. -/
theorem expresses_toString {count : Nat} (h : count < 2 ^ 64) (unit : DateUnit) :
    Expresses (toString count ++ "_" ++ unit.name ++ "_ago") (.ago count unit) :=
  ⟨_, spelling_toString h unit, [], [], nofun, nofun, by simp⟩

theorem spelling_today_iff {core : List Char} :
    Spelling core .today ↔ core = "today".toList ∨ core = "now".toList := by
  constructor
  · intro h
    cases h with
    | today => exact .inl rfl
    | now => exact .inr rfl
  · rintro (rfl | rfl)
    · exact .today
    · exact .now

theorem expresses_today_iff {expression : String} :
    Expresses expression .today ↔
      Text.trimmed expression = "today".toList ∨ Text.trimmed expression = "now".toList :=
  expresses_iff.trans spelling_today_iff

/-! ## The check of units -/

/-- The date is written in the unit. The current day is a day. -/
def isIn (unit : DateUnit) : RelativeDate → Bool
  | .today => unit == .days
  | .ago _ other => unit == other

/-- The words of a unit are not found among the digits, nor in the words of another unit. -/
theorem contains_agoToken {digits : List Char} (h : ∀ c ∈ digits, c.isDigit = true)
    (unit other : DateUnit) :
    Text.contains unit.agoToken.toList (digits ++ '_' :: other.agoToken.toList) =
      (unit == other) := by
  obtain ⟨c, part, hp, hc⟩ : ∃ c part, unit.agoToken.toList = c :: part ∧ c.isDigit = false := by
    cases unit <;> exact ⟨_, _, rfl, by decide⟩
  have hn : c ∉ digits := by
    intro hm
    rw [h c hm] at hc
    cases hc
  rw [hp, Text.contains_append hn, ← hp]
  cases unit <;> cases other <;> decide

theorem mentions_of_spelling {core : List Char} {date : RelativeDate} (h : Spelling core date)
    (unit : DateUnit) :
    (Text.contains unit.agoToken.toList core || (unit == .days && isToday core)) =
      date.isIn unit := by
  cases h with
  | today => cases unit <;> decide
  | now => cases unit <;> decide
  | ago other decimal bounded =>
    rw [contains_agoToken decimal.ascii, isToday_digits decimal, Bool.and_false, Bool.or_false]
    rfl

/-- The check of units agrees with the grammar on the expressions that the grammar has. -/
theorem mentions_of_expresses {expression : String} {date : RelativeDate}
    (h : Expresses expression date) (unit : DateUnit) :
    mentions unit expression = date.isIn unit := by
  unfold mentions
  exact mentions_of_spelling (expresses_iff.mp h) unit

end RelativeDate

end MetricBoard
