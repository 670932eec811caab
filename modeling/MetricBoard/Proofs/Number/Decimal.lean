import MetricBoard.Number.Digits

/-!
# Decimal digit strings

What the reader of decimal digits accepts: one or more ASCII digits with any number of leading
zeros, and nothing else. No bound is set here; the readers of counts and integers set theirs.
-/

namespace MetricBoard.Number

/-- One or more ASCII digits that write a number in base ten. -/
structure Decimal (digits : List Char) (value : Nat) : Prop where
  nonempty : digits ≠ []
  ascii : ∀ c ∈ digits, c.isDigit = true
  value_eq : Nat.ofDigitChars 10 digits 0 = value

theorem isDigit_iff (c : Char) : c.isDigit = true ↔ 48 ≤ c.toNat ∧ c.toNat ≤ 57 := by
  simp only [Char.isDigit, Bool.and_eq_true, decide_eq_true_eq, ge_iff_le,
    UInt32.le_iff_toNat_le]
  rfl

theorem digitIn_of_isDigit {c : Char} (h : c.isDigit = true) :
    digitIn 10 c = some (c.toNat - '0'.toNat) := by
  have hv : digitValue c = some (c.toNat - '0'.toNat) := if_pos h
  have hlt : c.toNat - 48 < 10 := by
    have hc := (isDigit_iff c).mp h
    omega
  rw [digitIn, hv]
  simpa [Option.filter] using hlt

theorem isDigit_of_digitIn {c : Char} {digit : Nat} (h : digitIn 10 c = some digit) :
    c.isDigit = true := by
  obtain ⟨hv, hlt⟩ := Option.filter_eq_some_iff.mp h
  have hlt : digit < 10 := by simpa using hlt
  unfold digitValue at hv
  split at hv
  · assumption
  · -- The letters go on from ten.
    split at hv
    · obtain rfl := Option.some.inj hv
      omega
    · split at hv
      · obtain rfl := Option.some.inj hv
        omega
      · cases hv

theorem naturalAfter_eq_some_iff {high value : Nat} {digits : List Char} :
    naturalAfter 10 high digits = some value ↔
      (∀ c ∈ digits, c.isDigit = true) ∧ Nat.ofDigitChars 10 digits high = value := by
  induction digits generalizing high with
  | nil => simp [naturalAfter, Nat.ofDigitChars]
  | cons c rest ih =>
    rw [naturalAfter, List.forall_mem_cons]
    by_cases hc : c.isDigit = true
    · rw [digitIn_of_isDigit hc, Nat.ofDigitChars_cons, Nat.mul_comm 10 high]
      simp only [ih, hc, true_and]
    · have hn : digitIn 10 c = none := by
        cases hd : digitIn 10 c with
        | none => rfl
        | some digit => exact absurd (isDigit_of_digitIn hd) hc
      simp [hn, hc]

/-- The reader of digits takes one or more of them for the number they write, and nothing else. -/
theorem natural?_eq_some_iff {digits : List Char} {value : Nat} :
    natural? 10 digits = some value ↔ Decimal digits value := by
  unfold natural?
  by_cases hn : digits = []
  · subst hn
    constructor
    · intro h
      cases h
    · intro h
      exact absurd rfl h.nonempty
  · rw [if_neg (by simpa using hn), naturalAfter_eq_some_iff]
    constructor
    · rintro ⟨ha, hv⟩
      exact ⟨hn, ha, hv⟩
    · intro h
      exact ⟨h.ascii, h.value_eq⟩

end MetricBoard.Number
