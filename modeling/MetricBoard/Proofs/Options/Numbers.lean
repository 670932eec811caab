import MetricBoard.Options.Reading
import MetricBoard.Proofs.Number.Integer

/-!
# Numbers in options

A number is read from the text of an option as it stands, and the default counts only where the
option is not given. The readers of integers and of counts differ in the texts that they take and
in nothing else, and on the texts that both take they come to the same number.
-/

namespace MetricBoard.OptionBag

open Number (WritesCount WritesInteger)

/-- What a reader of numbers comes to, by the text that is given for the option: the number that
the text writes, or an error that repeats the text. Without a text it comes to the default. -/
structure ReadsNumber {α : Type} (writes : String → α → Prop) (key : String)
    (given : Option String) (read : α → Except WidgetError α) : Prop where
  absent : given = none → ∀ default, read default = .ok default
  written : ∀ text, given = some text → ∀ default n, read default = .ok n ↔ writes text n
  refused : ∀ text, given = some text → (¬ ∃ n, writes text n) →
    ∀ default, read default = .error (.invalidNumber "" key text)

theorem readsNumber_readNumber {α : Type} {writes : String → α → Prop}
    {read : List Char → Option α} (h : ∀ text n, read text.toList = some n ↔ writes text n)
    (bag : OptionBag) (key : String) :
    ReadsNumber writes key (bag.raw key) (bag.readNumber read key) := by
  constructor
  · intro ha default
    unfold readNumber
    rw [ha]
  · intro text ht default n
    rw [← h]
    unfold readNumber
    rw [ht]
    dsimp only
    cases read text.toList with
    | none => exact ⟨nofun, nofun⟩
    | some number =>
      constructor
      · intro ho
        exact congrArg some (Except.ok.inj ho)
      · intro ho
        exact congrArg Except.ok (Option.some.inj ho)
  · intro text ht hn default
    have hr : read text.toList = none := by
      rw [Option.eq_none_iff_forall_ne_some]
      intro n hs
      exact hn ⟨n, (h text n).mp hs⟩
    unfold readNumber
    rw [ht]
    dsimp only
    rw [hr]

theorem readsNumber_getInt (bag : OptionBag) (key : String) :
    ReadsNumber WritesInteger key (bag.raw key) (bag.getInt key) :=
  readsNumber_readNumber (fun _ _ => Number.integer?_eq_some_iff) bag key

theorem readsNumber_getCount (bag : OptionBag) (key : String) :
    ReadsNumber WritesCount key (bag.raw key) (bag.getCount key) :=
  readsNumber_readNumber (fun _ _ => Number.count?_eq_some_iff) bag key

/-- An integer and a count are read exactly: the default where nothing is given, the number that
the given text writes, and else an error with the key and the text as it stands. Each number is
read back from its own decimal text, over the whole range of its reader. Without a minus sign, and
below the bound of integers, both readers come to the same number; with one no count is read, not
even where the integer is zero. -/
theorem numbers_read_exactly (bag : OptionBag) (key : String) :
    ReadsNumber WritesInteger key (bag.raw key) (bag.getInt key) ∧
    ReadsNumber WritesCount key (bag.raw key) (bag.getCount key) ∧
    ∀ text, bag.raw key = some text → ∀ integer count,
      (∀ n : Int, -2 ^ 63 ≤ n → n < 2 ^ 63 → text = toString n →
        bag.getInt key integer = .ok n) ∧
      (∀ n : Nat, n < 2 ^ 64 → text = toString n → bag.getCount key count = .ok n) ∧
      (text.toList.head? ≠ some '-' → ∀ n : Nat, n < 2 ^ 63 →
        (bag.getInt key integer = .ok (n : Int) ↔ bag.getCount key count = .ok n)) ∧
      (text.toList.head? = some '-' →
        bag.getCount key count = .error (.invalidNumber "" key text)) ∧
      ∀ zeros, Number.Decimal zeros 0 → text.toList = '-' :: zeros →
        bag.getInt key integer = .ok 0 := by
  have hint := bag.readsNumber_getInt key
  have hcount := bag.readsNumber_getCount key
  refine ⟨hint, hcount, fun text ht integer count => ⟨?_, ?_, ?_, ?_, ?_⟩⟩
  · rintro n hl hh rfl
    exact (hint.written _ ht _ _).mpr (Number.writesInteger_toString hl hh)
  · rintro n hn rfl
    exact (hcount.written _ ht _ _).mpr (Number.writesCount_toString hn)
  · intro hm n hn
    rw [hint.written _ ht, hcount.written _ ht]
    exact Number.writesInteger_iff_writesCount hn hm
  · intro hm
    exact hcount.refused _ ht (Number.not_writesCount_of_minus hm) _
  · intro zeros hd hz
    exact (hint.written _ ht _ _).mpr (Number.writesInteger_minus_zero hz hd)

/-- The bound of integers has room among the counts. -/
example :
    let bag := ofList [("row_limit", "9223372036854775808")]
    bag.getInt "row_limit" 5 = .error (.invalidNumber "" "row_limit" "9223372036854775808") ∧
      bag.getCount "row_limit" 5 = .ok 9223372036854775808 :=
  ⟨rfl, rfl⟩

end MetricBoard.OptionBag
