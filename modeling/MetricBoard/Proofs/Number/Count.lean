import Mathlib.Algebra.GroupWithZero.Nat
import MetricBoard.Proofs.Number.Decimal

/-!
# Counts

The texts that are read as counts: the digits of a number below 2 ^ 64, perhaps after a plus sign.
Each of these numbers is read back from its own decimal text. A text with any other character,
such as a minus sign or the separator of a list, is read as no number at all.
-/

namespace MetricBoard.Number

/-- The text is the digits of a number below 2 ^ 64, perhaps after a plus sign. -/
def WritesCount (text : String) (n : Nat) : Prop :=
  ∃ digits, Decimal digits n ∧ n < 2 ^ 64 ∧
    (text.toList = digits ∨ text.toList = '+' :: digits)

theorem bounded_natural?_iff {digits : List Char} {n : Nat} :
    (natural? 10 digits).filter (· < countBound) = some n ↔ Decimal digits n ∧ n < 2 ^ 64 := by
  rw [Option.filter_eq_some_iff, natural?_eq_some_iff, decide_eq_true_iff]
  rfl

theorem count?_of_digits {digits : List Char} (h : ∀ c ∈ digits, c.isDigit = true) :
    count? digits = (natural? 10 digits).filter (· < countBound) := by
  unfold count?
  split
  · exact absurd (h '+' List.mem_cons_self) (by decide)
  · rfl

/-- The reader of counts accepts these texts and no others. -/
theorem count?_eq_some_iff {text : String} {n : Nat} :
    count? text.toList = some n ↔ WritesCount text n := by
  constructor
  · intro h
    unfold count? at h
    obtain ⟨hd, hb⟩ := bounded_natural?_iff.mp h
    refine ⟨_, hd, hb, ?_⟩
    split
    · exact .inr ‹_›
    · exact .inl rfl
  · rintro ⟨digits, hd, hb, ht | ht⟩
    · rw [ht, count?_of_digits hd.ascii]
      exact bounded_natural?_iff.mpr ⟨hd, hb⟩
    · rw [ht]
      exact bounded_natural?_iff.mpr ⟨hd, hb⟩

/-- What a number is written as are digits of this number. -/
theorem decimal_toString (n : Nat) : Decimal (toString n).toList n := by
  rw [Nat.toString_eq_repr, Nat.toList_repr]
  refine ⟨Nat.toDigits_ne_nil, fun c hc => ?_, Nat.ofDigitChars_ten_toDigits⟩
  exact Nat.isDigit_of_mem_toDigits (by decide) (by decide) hc

/-- A number is read back from its own text. -/
theorem writesCount_toString {n : Nat} (h : n < 2 ^ 64) : WritesCount (toString n) n :=
  ⟨_, decimal_toString n, h, .inl rfl⟩

theorem not_writesCount_of_mem {text : String} {c : Char} (hm : c ∈ text.toList)
    (hd : c.isDigit = false) (hp : c ≠ '+') : ¬ ∃ n, WritesCount text n := by
  rintro ⟨n, digits, hn, -, ht⟩
  have hc : c ∈ digits := by
    rcases ht with ht | ht
    · rwa [ht] at hm
    · rw [ht] at hm
      exact (List.mem_cons.mp hm).resolve_left hp
  rw [hn.ascii c hc] at hd
  cases hd

theorem not_writesCount_empty : ¬ ∃ n, WritesCount "" n := by
  rintro ⟨n, digits, hn, -, ht | ht⟩
  · exact hn.nonempty ht.symm
  · cases ht

end MetricBoard.Number
