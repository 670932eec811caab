import Mathlib.Data.List.Infix
import MetricBoard.Proofs.Text.Items

/-!
# What pieces are made of

A separator is found from left to right, so that no piece between its occurrences holds it. One of
a single character cuts a text into the segments that do not hold it, of which the items are what
trimming leaves; the empty one cuts a text into its characters.

Texts that are joined part by part, and then the parts with the same separator, are joined as if
they stood in one list. No part may be without texts, since it would leave a separator behind.
-/

namespace MetricBoard.Text

/-! ## Separators of any length -/

/-- There is a first piece, and it is what the text begins with. -/
theorem exists_first_piecesAfter (separator : List Char) (skip : Nat) (text : List Char) :
    ∃ first others, piecesAfter separator skip text = first :: others ∧
      (skip = 0 → first <+: text) := by
  induction text generalizing skip with
  | nil =>
    have hp : piecesAfter separator skip [] = [[]] := by cases skip <;> rfl
    exact ⟨[], [], hp, fun _ => List.prefix_rfl⟩
  | cons c rest ih =>
    cases skip with
    | succ skip =>
      obtain ⟨first, others, hp, -⟩ := ih skip
      exact ⟨first, others, hp, nofun⟩
    | zero =>
      rw [piecesAfter]
      split
      · exact ⟨[], _, rfl, fun _ => List.nil_prefix⟩
      · obtain ⟨first, others, hp, hf⟩ := ih 0
        rw [hp]
        exact ⟨c :: first, others, rfl, fun _ => List.cons_prefix_cons.mpr ⟨rfl, hf rfl⟩⟩

theorem not_infix_of_mem_piecesAfter {separator : List Char} (hs : separator ≠ []) {skip : Nat}
    {text piece : List Char} (h : piece ∈ piecesAfter separator skip text) :
    ¬ separator <:+: piece := by
  have hnil : ¬ separator <:+: [] := fun hi => hs (List.infix_nil.mp hi)
  induction text generalizing skip piece with
  | nil =>
    obtain rfl : piece = [] := by simpa [piecesAfter] using h
    exact hnil
  | cons c rest ih =>
    cases skip with
    | succ skip => exact ih h
    | zero =>
      rw [piecesAfter] at h
      split at h
      · rcases List.mem_cons.mp h with rfl | h
        · exact hnil
        · exact ih h
      · -- The separator does not begin here, and the piece is no longer than the text.
        rename_i hc
        obtain ⟨first, others, hp, hf⟩ := exists_first_piecesAfter separator 0 rest
        have hpiece : c :: first <+: c :: rest := List.cons_prefix_cons.mpr ⟨rfl, hf rfl⟩
        rw [hp] at h
        rcases List.mem_cons.mp h with rfl | h
        · rw [List.infix_cons_iff]
          rintro (hi | hi)
          · exact hc (List.isPrefixOf_iff_prefix.mpr (hi.trans hpiece))
          · exact ih (hp ▸ List.mem_cons_self) hi
        · exact ih (hp ▸ List.mem_cons_of_mem _ h)

theorem not_infix_of_mem_pieces {separator : List Char} (hs : separator ≠ [])
    {text piece : List Char} (h : piece ∈ pieces separator text) : ¬ separator <:+: piece := by
  have he : ¬ separator.isEmpty = true := by simpa using hs
  rw [pieces, if_neg he] at h
  exact not_infix_of_mem_piecesAfter hs h

/-! ## Separators of one character -/

/-- The text is the segments with the separator between each two of them, and none holds it. -/
structure Segments (separator : Char) (text : List Char) (segments : List (List Char)) : Prop where
  joined : [separator].intercalate segments = text
  apart : ∀ segment ∈ segments, separator ∉ segment

/-- Cutting at one character leaves segments that can be joined to the text again. -/
theorem segments_splitOn (separator : Char) (text : List Char) :
    Segments separator text (text.splitOn separator) := by
  constructor
  · exact List.intercalate_splitOn separator
  · intro segment hm hc
    rw [← pieces_singleton] at hm
    have hi : [separator] <:+: segment := (List.singleton_infix_iff separator segment).mpr hc
    exact not_infix_of_mem_pieces (List.cons_ne_nil _ _) hm hi

theorem mem_intercalate {c separator : Char} (hc : c ≠ separator) {segments : List (List Char)} :
    c ∈ [separator].intercalate segments ↔ ∃ segment ∈ segments, c ∈ segment := by
  induction segments with
  | nil => simp
  | cons segment segments ih =>
    cases segments with
    | nil => simp
    | cons next segments =>
      rw [List.intercalate_cons_cons, List.append_assoc, List.mem_append, List.mem_append, ih]
      simp [hc]

/-- There is no item where there is nothing but blanks and separators. -/
theorem items_eq_nil_iff {separator : Char} {text : List Char} :
    items separator text = [] ↔ ∀ c ∈ text, isBlank c = true ∨ c = separator := by
  have hs : items separator text = [] ↔ ∀ segment ∈ text.splitOn separator, AllBlank segment := by
    unfold items
    simp [List.filter_eq_nil_iff, trim_eq_nil_iff]
  obtain ⟨hjoined, hapart⟩ := segments_splitOn separator text
  rw [hs]
  constructor
  · intro h c hc
    by_cases he : c = separator
    · exact .inr he
    · rw [← hjoined, mem_intercalate he] at hc
      obtain ⟨segment, hm, hc⟩ := hc
      exact .inl (h segment hm c hc)
  · intro h segment hm c hc
    have he : c ≠ separator := fun he => hapart segment hm (he ▸ hc)
    have ht : c ∈ text := by
      rw [← hjoined, mem_intercalate he]
      exact ⟨segment, hm, hc⟩
    exact (h c ht).resolve_right he

/-! ## The empty separator -/

theorem filter_trim (text : List Char) :
    (trim text).filter (!isBlank ·) = text.filter (!isBlank ·) := by
  have hnone : ∀ blanks, AllBlank blanks → blanks.filter (!isBlank ·) = [] := by
    intro blanks h
    rw [List.filter_eq_nil_iff]
    intro c hc
    simp [h c hc]
  obtain ⟨before, after, hb, ha, ht⟩ := surrounds_trim text
  have hw : text.filter (!isBlank ·) = (before ++ trim text ++ after).filter (!isBlank ·) := by
    rw [← ht]
  rw [hw, List.filter_append, List.filter_append, hnone before hb, hnone after ha,
    List.nil_append, List.append_nil]

theorem filter_pieces_nil (text : List Char) :
    ((pieces [] text).map trim).filter (!·.isEmpty) = (text.filter (!isBlank ·)).map ([·]) := by
  have hp : pieces [] text = text.map ([·]) := rfl
  rw [hp, List.map_map]
  induction text with
  | nil => rfl
  | cons c text ih =>
    have hr := ih rfl
    rw [List.map_cons, Function.comp_apply]
    by_cases hc : isBlank c = true
    · have ht : trim [c] = [] := trim_eq_nil_iff.mpr (by simpa [AllBlank] using hc)
      simpa [ht, hc] using hr
    · have hb : isBlank c = false := by simpa using hc
      have ht : trim [c] = [c] := (Bare.of_ends c c rfl rfl hb hb).trim_eq
      simpa [ht, hb] using hr

/-! ## Joins -/

theorem joined_eq_intercalate (separator : String) :
    joined separator = separator.intercalate := by
  funext texts
  rw [← String.toList_inj, joined, String.toList_ofList, String.toList_intercalate]

theorem joined_singleton (separator text : String) : joined separator [text] = text := by
  rw [joined_eq_intercalate, String.intercalate_singleton]

/-- A join of joins is the join of all texts. -/
theorem joined_flatten (separator : String) {parts : List (List String)}
    (h : ∀ part ∈ parts, part ≠ []) :
    joined separator (parts.map (joined separator)) = joined separator parts.flatten := by
  rw [joined_eq_intercalate]
  induction parts with
  | nil => rfl
  | cons part parts ih =>
    obtain ⟨hp, hrest⟩ := List.forall_mem_cons.mp h
    have hr := ih hrest
    cases parts with
    | nil => simp
    | cons next parts =>
      have hn : next ≠ [] := hrest next List.mem_cons_self
      have hf : (next :: parts).flatten ≠ [] := by simp [hn]
      have hm : (next :: parts).map separator.intercalate ≠ [] := by simp
      rw [List.flatten_cons, String.intercalate_append_of_ne_nil hp hf, ← hr, List.map_cons,
        String.intercalate_cons_of_ne_nil hm]

end MetricBoard.Text
