/-!
# Option bags

The options of a widget: a finite map from texts to texts, in which a later write for a key
replaces an earlier one. Entries are kept in ascending order of their keys, by code points, and
no key occurs twice, so that bags with the same entries are equal.
-/

namespace MetricBoard

structure OptionBag where
  entries : List (String × String)
  ascending : entries.Pairwise fun a b => a.1 < b.1
  deriving DecidableEq

namespace OptionBag

def empty : OptionBag := ⟨[], .nil⟩

def put (key value : String) : List (String × String) → List (String × String)
  | [] => [(key, value)]
  | (k, v) :: rest =>
      if key < k then (key, value) :: (k, v) :: rest
      else if key = k then (key, value) :: rest
      else (k, v) :: put key value rest

theorem mem_put {key value : String} {entries : List (String × String)}
    {entry : String × String} (h : entry ∈ put key value entries) :
    entry = (key, value) ∨ entry ∈ entries := by
  induction entries with
  | nil => simpa [put] using h
  | cons head rest ih =>
      obtain ⟨k, v⟩ := head
      simp only [put] at h
      split at h
      · simpa using h
      · split at h
        · rcases List.mem_cons.mp h with rfl | h
          · exact .inl rfl
          · exact .inr (List.mem_cons_of_mem _ h)
        · rcases List.mem_cons.mp h with rfl | h
          · exact .inr (List.mem_cons_self ..)
          · exact (ih h).imp_right (List.mem_cons_of_mem _)

/-- A write keeps the keys in ascending order, and each of them once. -/
theorem ascending_put (key value : String) {entries : List (String × String)}
    (h : entries.Pairwise fun a b => a.1 < b.1) :
    (put key value entries).Pairwise fun a b => a.1 < b.1 := by
  induction entries with
  | nil => simp [put]
  | cons head rest ih =>
      obtain ⟨k, v⟩ := head
      obtain ⟨above, rest_ascending⟩ := List.pairwise_cons.mp h
      simp only [put]
      split
      · rename_i below
        refine List.pairwise_cons.mpr ⟨fun entry member => ?_, h⟩
        rcases List.mem_cons.mp member with rfl | member
        · exact below
        · exact String.lt_trans below (above entry member)
      · rename_i not_below
        split
        · rename_i same
          subst same
          exact List.pairwise_cons.mpr ⟨above, rest_ascending⟩
        · rename_i other
          refine List.pairwise_cons.mpr ⟨fun entry member => ?_, ih rest_ascending⟩
          rcases mem_put member with rfl | member
          · exact Std.lt_of_le_of_ne (String.not_lt.mp not_below) (Ne.symm other)
          · exact above entry member

def insert (bag : OptionBag) (key value : String) : OptionBag :=
  ⟨put key value bag.entries, ascending_put key value bag.ascending⟩

/-- The bag of a list of writes, in their order. -/
def ofList (pairs : List (String × String)) : OptionBag :=
  pairs.foldl (fun bag pair => bag.insert pair.1 pair.2) empty

/-! ## Pairs given all at once -/

/-- The order of pairs by their keys alone. -/
def keyLe (pair other : String × String) : Bool := decide (pair.1 ≤ other.1)

theorem keyLe_trans (a b c : String × String) (hab : keyLe a b = true) (hbc : keyLe b c = true) :
    keyLe a c = true :=
  decide_eq_true (String.le_trans (of_decide_eq_true hab) (of_decide_eq_true hbc))

theorem keyLe_total (a b : String × String) : (keyLe a b || keyLe b a) = true := by
  simpa [keyLe] using String.le_total a.1 b.1

/-- Pairs in ascending order of their keys, those of one key in the order they came. -/
def sorted (pairs : List (String × String)) : List (String × String) := pairs.mergeSort keyLe

theorem ascending_sorted (pairs : List (String × String)) :
    (sorted pairs).Pairwise fun a b => a.1 ≤ b.1 :=
  (List.pairwise_mergeSort keyLe_trans keyLe_total pairs).imp of_decide_eq_true

/-- The pairs without each that has another of its key right after it. -/
def lastOfRuns : List (String × String) → List (String × String)
  | [] => []
  | [pair] => [pair]
  | pair :: next :: rest =>
      if pair.1 = next.1 then lastOfRuns (next :: rest) else pair :: lastOfRuns (next :: rest)

theorem lastOfRuns_sublist (pairs : List (String × String)) :
    (lastOfRuns pairs).Sublist pairs := by
  induction pairs using lastOfRuns.induct with
  | case1 => exact .slnil
  | case2 pair => exact .refl _
  | case3 pair next rest same ih =>
      rw [lastOfRuns, if_pos same]
      exact ih.cons pair
  | case4 pair next rest differs ih =>
      rw [lastOfRuns, if_neg differs]
      exact ih.cons_cons pair

theorem below_of_differs {pair next : String × String} {rest : List (String × String)}
    (h : (pair :: next :: rest).Pairwise fun a b => a.1 ≤ b.1) (differs : pair.1 ≠ next.1) :
    ∀ later ∈ next :: rest, pair.1 < later.1 := by
  obtain ⟨above, rest_ascending⟩ := List.pairwise_cons.mp h
  have below : pair.1 < next.1 := Std.lt_of_le_of_ne (above next List.mem_cons_self) differs
  intro later member
  rcases List.mem_cons.mp member with rfl | member
  · exact below
  · exact Std.lt_of_lt_of_le below ((List.pairwise_cons.mp rest_ascending).1 later member)

/-- What is left of sorted pairs is in ascending order with each key once. -/
theorem ascending_lastOfRuns {pairs : List (String × String)}
    (h : pairs.Pairwise fun a b => a.1 ≤ b.1) :
    (lastOfRuns pairs).Pairwise fun a b => a.1 < b.1 := by
  induction pairs using lastOfRuns.induct with
  | case1 => exact .nil
  | case2 pair => exact List.pairwise_singleton _ _
  | case3 pair next rest same ih =>
      rw [lastOfRuns, if_pos same]
      exact ih h.tail
  | case4 pair next rest differs ih =>
      rw [lastOfRuns, if_neg differs]
      refine List.pairwise_cons.mpr ⟨fun later member => ?_, ih h.tail⟩
      exact below_of_differs h differs later ((lastOfRuns_sublist _).subset member)

/-- The bag of pairs that are given all at once: they are sorted by their keys, and of each key
the last pair is kept. -/
def ofPairs (pairs : List (String × String)) : OptionBag :=
  ⟨lastOfRuns (sorted pairs), ascending_lastOfRuns (ascending_sorted pairs)⟩

/-! ## What a bag holds -/

/-- The value of a key, if there is one. -/
def raw (bag : OptionBag) (key : String) : Option String :=
  bag.entries.lookup key

def size (bag : OptionBag) : Nat := bag.entries.length

def isEmpty (bag : OptionBag) : Bool := bag.entries.isEmpty

/-- A write is seen under its own key and leaves every other key alone. -/
theorem lookup_put (key value other : String) (entries : List (String × String)) :
    (put key value entries).lookup other =
      if other = key then some value else entries.lookup other := by
  induction entries with
  | nil => simp [put]
  | cons head rest ih =>
      obtain ⟨k, v⟩ := head
      simp only [put]
      split
      · by_cases h : other = key
        · simp [h]
        · have apart : (other == key) = false := by simpa using h
          simp [List.lookup_cons, h, apart]
      · split
        · rename_i same
          subst same
          by_cases h : other = key
          · simp [h]
          · have apart : (other == key) = false := by simpa using h
            simp [List.lookup_cons, h, apart]
        · rename_i differs
          by_cases h : other = k
          · subst h
            simp [Ne.symm differs]
          · have apart : (other == k) = false := by simpa using h
            simp only [List.lookup_cons, apart, ih]

/-- A write is seen under its own key and nowhere else. -/
theorem raw_insert (bag : OptionBag) (key value other : String) :
    (bag.insert key value).raw other = if other = key then some value else bag.raw other :=
  lookup_put key value other bag.entries

theorem raw_insert_self (bag : OptionBag) (key value : String) :
    (bag.insert key value).raw key = some value := by
  rw [raw_insert, if_pos rfl]

/-- The value of a key or, only where there is none, the default. -/
def get (bag : OptionBag) (key default : String) : String :=
  (bag.raw key).getD default

end OptionBag

end MetricBoard
