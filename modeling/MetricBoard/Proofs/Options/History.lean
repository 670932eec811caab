import Mathlib.Data.Finset.Card
import MetricBoard.Options.History
import MetricBoard.Proofs.Options.Values

/-!
# Last writes

The history of a bag is the list of all pairs that it was built from and of all that was written
since. Of this list the bag keeps the last value of each key: every answer that it gives can be
told from the list, and whatever else is in the list makes no difference to any bag or answer.
-/

namespace MetricBoard

namespace OptionBag

/-! ## Pairs given all at once -/

theorem lastOfRuns_eq_lastOfEach {pairs : List (String × String)}
    (h : pairs.Pairwise fun a b => a.1 ≤ b.1) : lastOfRuns pairs = lastOfEach pairs := by
  induction pairs using lastOfRuns.induct with
  | case1 => rfl
  | case2 pair => rfl
  | case3 pair next rest same ih =>
    have hany : (next :: rest).any (·.1 == pair.1) = true := by simp [same]
    rw [lastOfRuns, if_pos same, lastOfEach, if_pos hany]
    exact ih h.tail
  | case4 pair next rest differs ih =>
    have hany : ¬ (next :: rest).any (·.1 == pair.1) = true := by
      intro hany
      obtain ⟨later, hm, hs⟩ := List.any_eq_true.mp hany
      have hlt := below_of_differs h differs later hm
      rw [eq_of_beq hs] at hlt
      exact String.lt_irrefl _ hlt
    rw [lastOfRuns, if_neg differs, lastOfEach, if_neg hany, ih h.tail]

/-- Sorting does not disturb the pairs of one key. -/
theorem filter_sorted (pairs : List (String × String)) (key : String) :
    (sorted pairs).filter (·.1 == key) = pairs.filter (·.1 == key) := by
  have hkeys : ∀ pair ∈ pairs.filter (·.1 == key), pair.1 = key := fun pair hm =>
    eq_of_beq (List.mem_filter.mp hm).2
  have hle : (pairs.filter (·.1 == key)).Pairwise fun a b => keyLe a b = true := by
    rw [List.pairwise_iff_forall_sublist]
    intro a b hs
    have ha := hkeys a (hs.subset (by simp))
    have hb := hkeys b (hs.subset (by simp))
    simp [keyLe, ha, hb]
  -- Pairs of one key are in order as they came, and what is in order keeps its place.
  have hs : (pairs.filter (·.1 == key)).Sublist (sorted pairs) :=
    List.sublist_mergeSort keyLe_trans keyLe_total hle List.filter_sublist
  have hf := hs.filter (·.1 == key)
  simp only [List.filter_filter, Bool.and_self] at hf
  have hl : ((sorted pairs).filter (·.1 == key)).length = (pairs.filter (·.1 == key)).length :=
    ((List.mergeSort_perm pairs keyLe).filter _).length_eq
  exact (hf.eq_of_length hl.symm).symm

theorem lastValue?_filter {α : Type} (entries : List (String × α)) (key : String) :
    lastValue? (entries.filter (·.1 == key)) key = lastValue? entries key := by
  induction entries with
  | nil => rfl
  | cons first rest ih =>
    rw [List.filter_cons, lastValue?_cons]
    by_cases hk : key = first.1
    · rw [if_pos (beq_iff_eq.mpr hk.symm), lastValue?_cons, ih]
    · rw [if_neg (by simpa using Ne.symm hk), ih, if_neg hk, Option.or_none]

/-- Building a bag at once comes to the same as writing the pairs one by one. -/
theorem raw_ofPairs (pairs : List (String × String)) (key : String) :
    (ofPairs pairs).raw key = lastValue? pairs key := by
  have he : (ofPairs pairs).entries = lastOfEach (sorted pairs) :=
    lastOfRuns_eq_lastOfEach (ascending_sorted pairs)
  have hs : lastValue? (sorted pairs) key = lastValue? pairs key := by
    rw [← lastValue?_filter, filter_sorted, lastValue?_filter]
  ext value
  rw [← mem_entries_iff, he, mem_lastOfEach_iff, hs]

/-! ## What is left of some writes -/

/-- The bag is what is left of the writes: each key has the value that was written last, and no
other key has one. -/
structure Keeps (writes : List (String × String)) (bag : OptionBag) : Prop where
  raw : ∀ key, bag.raw key = lastValue? writes key
  size : bag.size = (writes.map (·.1)).toFinset.card
  isEmpty : bag.isEmpty = true ↔ writes = []

theorem nodup_keys (bag : OptionBag) : (bag.entries.map (·.1)).Nodup := by
  rw [List.nodup_iff_pairwise_ne, List.pairwise_map]
  refine bag.ascending.imp fun hlt he => ?_
  rw [he] at hlt
  exact String.lt_irrefl _ hlt

theorem mem_keys_iff (bag : OptionBag) {key : String} :
    key ∈ bag.entries.map (·.1) ↔ bag.raw key ≠ none := by
  rw [Option.ne_none_iff_exists']
  simp only [List.mem_map, Prod.exists, ← mem_entries_iff, exists_and_right, exists_eq_right]

/-- A bag has as many values as there are different keys among the writes. -/
theorem size_of_raw {writes : List (String × String)} {bag : OptionBag}
    (h : ∀ key, bag.raw key = lastValue? writes key) :
    bag.size = (writes.map (·.1)).toFinset.card := by
  have hkeys : (bag.entries.map (·.1)).toFinset = (writes.map (·.1)).toFinset := by
    ext key
    rw [List.mem_toFinset, List.mem_toFinset, mem_keys_iff, mem_keys_iff_lastValue?, h]
  rw [← hkeys, List.toFinset_card_of_nodup bag.nodup_keys, List.length_map]
  rfl

/-- What a bag has under each key decides the rest. -/
theorem keeps_of_raw {writes : List (String × String)} {bag : OptionBag}
    (h : ∀ key, bag.raw key = lastValue? writes key) : Keeps writes bag := by
  have hsize := size_of_raw h
  refine ⟨h, hsize, ?_⟩
  have hempty : bag.isEmpty = true ↔ bag.size = 0 := by
    unfold isEmpty size
    rw [List.isEmpty_iff_length_eq_zero]
  rw [hempty, hsize]
  simp

theorem keeps_ofPairs (pairs : List (String × String)) : Keeps pairs (ofPairs pairs) :=
  keeps_of_raw (raw_ofPairs pairs)

theorem Keeps.insert {writes : List (String × String)} {bag : OptionBag} (h : Keeps writes bag)
    (key value : String) : Keeps (writes ++ [(key, value)]) (bag.insert key value) := by
  apply keeps_of_raw
  intro other
  rw [raw_insert, lastValue?_concat, h.raw]

/-- Writes that leave the same value of each key leave the same bag. -/
theorem Keeps.eq_of_lastValue? {writes others : List (String × String)} {bag other : OptionBag}
    (h : Keeps writes bag) (ho : Keeps others other)
    (hl : ∀ key, lastValue? writes key = lastValue? others key) : bag = other := by
  apply eq_of_raw
  intro key
  rw [h.raw, ho.raw, hl]

theorem keeps_empty : Keeps [] empty := keeps_of_raw fun _ => rfl

/-! ## Questions -/

/-- The bag in which no key has a value but, perhaps, this one. -/
def only (key : String) (given : Option String) : OptionBag :=
  ofList (given.toList.map (key, ·))

theorem raw_only (key : String) (given : Option String) : (only key given).raw key = given := by
  unfold only
  rw [raw_ofList]
  cases given with
  | none => rfl
  | some value => simp [lastValue?]

theorem reply_congr {bag other : OptionBag} {key : String} (h : bag.raw key = other.raw key)
    (question : Question) : bag.reply key question = other.reply key question := by
  cases question with
  | raw => exact congrArg Answer.raw h
  | text default => exact congrArg (Answer.text <| ·.getD default) h
  | integer default => exact congrArg Answer.integer (readNumber_congr h _ default)
  | count default => exact congrArg Answer.count (readNumber_congr h _ default)
  | list default separator => exact congrArg Answer.list (getList_congr h default separator)

end OptionBag

/-! ## Histories -/

namespace Use

def written : Use → List (String × String)
  | .write key value => [(key, value)]
  | .ask _ _ | .size | .isEmpty => []

/-- All that some uses write, in their order. -/
def writtenBy (uses : List Use) : List (String × String) := uses.flatMap written

/-- The answer to a use by the list of the writes before it. Of a key that is asked about, only
the last value is looked at. -/
def answerFrom (writes : List (String × String)) : Use → Answer
  | .write _ _ => .written
  | .ask key question =>
      (OptionBag.only key (OptionBag.lastValue? writes key)).reply key question
  | .size => .size (writes.map (·.1)).toFinset.card
  | .isEmpty => .isEmpty writes.isEmpty

theorem writtenBy_writes (pairs : List (String × String)) :
    writtenBy (pairs.map fun pair => .write pair.1 pair.2) = pairs := by
  unfold writtenBy
  rw [List.flatMap_map]
  exact List.flatMap_singleton' pairs

end Use

namespace OptionBag

open Use (writtenBy)

def after (bag : OptionBag) (uses : List Use) : OptionBag :=
  (bag.useAll uses).foldl (fun _ step => step.bag) bag

variable {writes : List (String × String)} {bag : OptionBag}

/-- What one use does to the bag and answers is told by the writes so far. -/
theorem Keeps.use (h : Keeps writes bag) (use : Use) :
    Keeps (writes ++ use.written) (bag.use use).bag ∧
      (bag.use use).answer = use.answerFrom writes := by
  have hasked : Keeps (writes ++ []) bag := by rwa [List.append_nil]
  cases use with
  | write key value => exact ⟨h.insert key value, rfl⟩
  | ask key question =>
    have hgiven : bag.raw key = (only key (lastValue? writes key)).raw key := by
      rw [raw_only, h.raw]
    exact ⟨hasked, reply_congr hgiven question⟩
  | size => exact ⟨hasked, congrArg Answer.size h.size⟩
  | isEmpty =>
    have hempty : bag.isEmpty = writes.isEmpty := by
      rw [Bool.eq_iff_iff, h.isEmpty, List.isEmpty_iff]
    exact ⟨hasked, congrArg Answer.isEmpty hempty⟩

theorem length_useAll (bag : OptionBag) (uses : List Use) :
    (bag.useAll uses).length = uses.length := by
  induction uses generalizing bag with
  | nil => rfl
  | cons use uses ih => simp [useAll, ih]

/-- Each step of a history is told by the writes so far. -/
theorem Keeps.getElem?_useAll (h : Keeps writes bag) {uses : List Use} {n : Nat} {use : Use}
    (hu : uses[n]? = some use) :
    ∃ step, (bag.useAll uses)[n]? = some step ∧
      Keeps (writes ++ writtenBy (uses.take (n + 1))) step.bag ∧
      step.answer = use.answerFrom (writes ++ writtenBy (uses.take n)) := by
  induction uses generalizing writes bag n with
  | nil => simp at hu
  | cons first uses ih =>
    obtain ⟨hbag, hanswer⟩ := h.use first
    cases n with
    | zero =>
      have he : first = use := by simpa using hu
      subst he
      refine ⟨bag.use first, rfl, ?_, ?_⟩
      · simpa [writtenBy] using hbag
      · simpa [writtenBy] using hanswer
    | succ n =>
      -- What the first use writes goes over to the writes before the others.
      obtain ⟨step, hs, hk, ha⟩ := ih hbag (by simpa using hu)
      rw [List.append_assoc] at hk ha
      exact ⟨step, hs, hk, ha⟩

/-- A whole history of uses, in which questions write nothing. -/
theorem Keeps.after (h : Keeps writes bag) (uses : List Use) :
    Keeps (writes ++ writtenBy uses) (bag.after uses) := by
  induction uses generalizing writes bag with
  | nil => simpa [writtenBy, OptionBag.after, useAll] using h
  | cons use uses ih =>
    have hk := ih (h.use use).1
    rwa [List.append_assoc] at hk

/-- A bag is what is left of the pairs that it was built from and of the writes since, at every
step of a history: each key has the value that was written for it last, there are as many keys as
were written, and none only where nothing was written. The questions in between change nothing,
and one about a key is answered as by a bag that holds the last value of this key alone. To build
a bag from pairs is to write them one after the other into the empty bag, and histories that agree
on the last value of each key end with the same bag. -/
theorem history_keeps_last_writes (pairs : List (String × String)) (uses : List Use) :
    Keeps pairs (ofPairs pairs) ∧
    ofPairs pairs = after empty (pairs.map fun pair => .write pair.1 pair.2) ∧
    ((ofPairs pairs).useAll uses).length = uses.length ∧
    (∀ n use, uses[n]? = some use → ∃ step, ((ofPairs pairs).useAll uses)[n]? = some step ∧
      Keeps (pairs ++ writtenBy (uses.take (n + 1))) step.bag ∧
      step.answer = use.answerFrom (pairs ++ writtenBy (uses.take n))) ∧
    ∀ otherPairs others,
      (∀ key, lastValue? (pairs ++ writtenBy uses) key =
        lastValue? (otherPairs ++ writtenBy others) key) →
      (ofPairs pairs).after uses = (ofPairs otherPairs).after others := by
  have hbuilt := keeps_ofPairs pairs
  refine ⟨hbuilt, ?_, length_useAll _ uses, fun n use hu => hbuilt.getElem?_useAll hu, ?_⟩
  · have hwritten := keeps_empty.after (pairs.map fun pair => .write pair.1 pair.2)
    rw [List.nil_append, Use.writtenBy_writes] at hwritten
    exact hbuilt.eq_of_lastValue? hwritten fun _ => rfl
  · intro otherPairs others hl
    have hend := hbuilt.after uses
    have hother := (keeps_ofPairs otherPairs).after others
    exact hend.eq_of_lastValue? hother hl

/-- A key that is written again counts once and with its last value, and questions leave no
trace. -/
theorem rewritten_bag_as_written_once :
    let pairs := [("row_limit", "5"), ("title", ""), ("row_limit", "+7")]
    let uses : List Use := [.ask "row_limit" (.count 3), .write "title" " Stars ", .size]
    let others : List Use := [.write "title" " Stars ", .isEmpty, .write "row_limit" "+7"]
    (∃ step, ((ofPairs pairs).useAll uses)[0]? = some step ∧ step.answer = .count (.ok 7)) ∧
    (∃ step, ((ofPairs pairs).useAll uses)[2]? = some step ∧ step.answer = .size 2) ∧
    (∀ key, lastValue? (pairs ++ writtenBy uses) key = lastValue? ([] ++ writtenBy others) key) ∧
    (ofPairs pairs).after uses = (ofPairs []).after others := by
  intro pairs uses others
  obtain ⟨-, -, -, hsteps, hends⟩ := history_keeps_last_writes pairs uses
  obtain ⟨counted, hc, -, hcount⟩ := hsteps 0 _ rfl
  obtain ⟨sized, hs, -, hsize⟩ := hsteps 2 _ rfl
  have hl : ∀ key,
      lastValue? (pairs ++ writtenBy uses) key = lastValue? ([] ++ writtenBy others) key := by
    intro key
    show lastValue? [("row_limit", "5"), ("title", ""), ("row_limit", "+7"), ("title", " Stars ")]
      key = lastValue? [("title", " Stars "), ("row_limit", "+7")] key
    simp only [lastValue?_cons]
    by_cases ht : key = "title"
    · simp [ht]
    · by_cases hr : key = "row_limit" <;> simp [ht, hr]
  exact ⟨⟨counted, hc, hcount.trans rfl⟩, ⟨sized, hs, hsize.trans rfl⟩, hl, hends [] others hl⟩

end OptionBag

end MetricBoard
