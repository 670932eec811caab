import Mathlib.Algebra.Group.Int.Defs
import MetricBoard.Proofs.Number.Count

/-!
# Integers

The texts that are read as integers: the digits of a number of 64 bits with a sign, which may be
written or left out. They are read as counts too, if no minus sign is written and the number has
room in both ranges. A count never has a minus sign, not even in front of a zero.
-/

namespace MetricBoard.Number

/-- Decimal digits, perhaps after one sign, and the number that they write. -/
inductive Signed : List Char → Int → Prop
  | bare {digits : List Char} {size : Nat} (decimal : Decimal digits size) : Signed digits size
  | plus {digits : List Char} {size : Nat} (decimal : Decimal digits size) :
      Signed ('+' :: digits) size
  | minus {digits : List Char} {size : Nat} (decimal : Decimal digits size) :
      Signed ('-' :: digits) (-size)

/-- The text is digits, perhaps after one sign, of an integer from -2 ^ 63 up to, but without,
2 ^ 63. -/
structure WritesInteger (text : String) (n : Int) : Prop where
  signed : Signed text.toList n
  low : -2 ^ 63 ≤ n
  high : n < 2 ^ 63

/-! ## The reader -/

theorem filter_natural?_iff {digits : List Char} {size : Nat} {fits : Nat → Bool} :
    (natural? 10 digits).filter fits = some size ↔ Decimal digits size ∧ fits size = true := by
  rw [Option.filter_eq_some_iff, natural?_eq_some_iff]

/-- A plus sign makes no difference in front of what does not start with a sign. -/
theorem integer?_of_unsigned {text : List Char} (hm : text.head? ≠ some '-')
    (hp : text.head? ≠ some '+') : integer? text = integer? ('+' :: text) := by
  unfold integer?
  split
  · exact absurd rfl hm
  · exact absurd rfl hp
  · rfl

theorem head?_ne_of_digits {digits : List Char} (h : ∀ c ∈ digits, c.isDigit = true) {c : Char}
    (hc : c.isDigit = false) : digits.head? ≠ some c := by
  intro hh
  rw [h c (List.mem_of_head? hh)] at hc
  cases hc

/-- Digits are read as a number with a sign, if they fit. -/
theorem signed_natural?_iff {digits : List Char} {fits : Nat → Bool} {signed : Int → Int}
    {n : Int} :
    (((natural? 10 digits).filter fits).bind fun size => some (size : Int)).map signed = some n ↔
      ∃ size : Nat, Decimal digits size ∧ fits size = true ∧ n = signed size := by
  rw [Option.map_eq_some_iff]
  constructor
  · rintro ⟨read, hr, rfl⟩
    obtain ⟨size, hs, he⟩ := Option.bind_eq_some_iff.mp hr
    obtain rfl := Option.some.inj he
    obtain ⟨hd, hf⟩ := filter_natural?_iff.mp hs
    exact ⟨size, hd, hf, rfl⟩
  · rintro ⟨size, hd, hf, rfl⟩
    have hs := filter_natural?_iff.mpr ⟨hd, hf⟩
    exact ⟨size, Option.bind_eq_some_iff.mpr ⟨size, hs, rfl⟩, rfl⟩

theorem integer?_plus_iff {digits : List Char} {n : Int} :
    integer? ('+' :: digits) = some n ↔
      ∃ size : Nat, Decimal digits size ∧ n < 2 ^ 63 ∧ n = size := by
  have hb : integerBound = 2 ^ 63 := rfl
  refine Iff.trans signed_natural?_iff (exists_congr fun size => and_congr_right fun _ => ?_)
  rw [decide_eq_true_eq, hb]
  omega

/-- With a minus sign the bound of the integers is reached. -/
theorem integer?_minus_iff {digits : List Char} {n : Int} :
    integer? ('-' :: digits) = some n ↔
      ∃ size : Nat, Decimal digits size ∧ -2 ^ 63 ≤ n ∧ n = -size := by
  have hb : integerBound = 2 ^ 63 := rfl
  refine Iff.trans signed_natural?_iff (exists_congr fun size => and_congr_right fun _ => ?_)
  rw [decide_eq_true_eq, hb]
  omega

/-- The reader of integers accepts these texts and no others. -/
theorem integer?_eq_some_iff {text : String} {n : Int} :
    integer? text.toList = some n ↔ WritesInteger text n := by
  constructor
  · intro h
    by_cases hm : text.toList.head? = some '-'
    · obtain ⟨digits, ht⟩ := List.head?_eq_some_iff.mp hm
      rw [ht, integer?_minus_iff] at h
      obtain ⟨size, hd, hl, rfl⟩ := h
      exact ⟨ht ▸ .minus hd, hl, by omega⟩
    · by_cases hp : text.toList.head? = some '+'
      · obtain ⟨digits, ht⟩ := List.head?_eq_some_iff.mp hp
        rw [ht, integer?_plus_iff] at h
        obtain ⟨size, hd, hh, rfl⟩ := h
        exact ⟨ht ▸ .plus hd, by omega, hh⟩
      · rw [integer?_of_unsigned hm hp, integer?_plus_iff] at h
        obtain ⟨size, hd, hh, rfl⟩ := h
        exact ⟨.bare hd, by omega, hh⟩
  · rintro ⟨hs, hl, hh⟩
    generalize text.toList = written at hs
    cases hs with
    | bare decimal =>
      have hm : written.head? ≠ some '-' := head?_ne_of_digits decimal.ascii (by decide)
      have hp : written.head? ≠ some '+' := head?_ne_of_digits decimal.ascii (by decide)
      rw [integer?_of_unsigned hm hp]
      exact integer?_plus_iff.mpr ⟨_, decimal, hh, rfl⟩
    | plus decimal => exact integer?_plus_iff.mpr ⟨_, decimal, hh, rfl⟩
    | minus decimal => exact integer?_minus_iff.mpr ⟨_, decimal, hl, rfl⟩

/-- An integer is read back from its own text. -/
theorem writesInteger_toString {n : Int} (hl : -2 ^ 63 ≤ n) (hh : n < 2 ^ 63) :
    WritesInteger (toString n) n := by
  refine ⟨?_, hl, hh⟩
  cases n with
  | ofNat size => exact .bare (decimal_toString size)
  | negSucc size =>
    have ht : toString (Int.negSucc size) = "-" ++ toString (size + 1) := rfl
    rw [ht, String.toList_append]
    exact .minus (decimal_toString (size + 1))

/-! ## Integers and counts -/

/-- Where no minus sign is written, the integers that are not negative are read as counts. -/
theorem writesInteger_iff_writesCount {text : String} {n : Nat} (hb : n < 2 ^ 63)
    (hm : text.toList.head? ≠ some '-') : WritesInteger text n ↔ WritesCount text n := by
  constructor
  · rintro ⟨hs, -, -⟩
    generalize hw : text.toList = written at hs hm
    generalize hn : (n : Int) = value at hs
    cases hs with
    | bare decimal => exact ⟨_, by rwa [← Int.ofNat.inj hn] at decimal, by omega, .inl hw⟩
    | plus decimal => exact ⟨_, by rwa [← Int.ofNat.inj hn] at decimal, by omega, .inr hw⟩
    | minus decimal => exact absurd rfl hm
  · rintro ⟨digits, hd, -, ht | ht⟩
    · exact ⟨ht ▸ .bare hd, by omega, by omega⟩
    · exact ⟨ht ▸ .plus hd, by omega, by omega⟩

theorem not_writesCount_of_minus {text : String} (h : text.toList.head? = some '-') :
    ¬ ∃ n, WritesCount text n :=
  not_writesCount_of_mem (List.mem_of_head? h) (by decide) (by decide)

/-- A zero may have a minus sign. -/
theorem writesInteger_minus_zero {text : String} {digits : List Char}
    (ht : text.toList = '-' :: digits) (hd : Decimal digits 0) : WritesInteger text 0 :=
  ⟨ht ▸ Signed.minus hd, by decide, by decide⟩

end MetricBoard.Number
