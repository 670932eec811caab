import Mathlib.Data.List.DropRight
import Mathlib.Data.List.TakeWhile
import MetricBoard.Text.Parts

/-!
# The core of a text

A text can be cut into blanks, a core and blanks again in several ways, but in one way only with
a core that has no blank at its ends. That core is what trimming leaves.
-/

namespace MetricBoard.Text

/-- Nothing but blanks. -/
def AllBlank (text : List Char) : Prop := ∀ c ∈ text, isBlank c = true

/-- The text is the core with blanks before it and after it, or without any. -/
def Surrounds (core text : List Char) : Prop :=
  ∃ before after, AllBlank before ∧ AllBlank after ∧ text = before ++ core ++ after

/-- Neither the first nor the last character is a blank. -/
structure Bare (core : List Char) : Prop where
  first : ∀ c ∈ core.head?, isBlank c = false
  last : ∀ c ∈ core.getLast?, isBlank c = false

theorem Bare.of_ends {core : List Char} (first last : Char) (hf : core.head? = some first)
    (hl : core.getLast? = some last) (hb : isBlank first = false) (he : isBlank last = false) :
    Bare core := by
  constructor
  · intro c hc
    obtain rfl : first = c := Option.some.inj (hf.symm.trans hc)
    exact hb
  · intro c hc
    obtain rfl : last = c := Option.some.inj (hl.symm.trans hc)
    exact he

theorem trimEnd_eq (text : List Char) : trimEnd text = text.rdropWhile isBlank := rfl

/-! ## Blanks at the ends are not seen -/

theorem trimStart_append {before : List Char} (h : AllBlank before) (text : List Char) :
    trimStart (before ++ text) = trimStart text :=
  List.dropWhile_append_of_pos h

theorem trimEnd_append {after : List Char} (h : AllBlank after) (text : List Char) :
    trimEnd (text ++ after) = trimEnd text := by
  have hr : ∀ c ∈ after.reverse, isBlank c = true := fun c hc => h c (List.mem_reverse.mp hc)
  unfold trimEnd
  rw [List.reverse_append, List.dropWhile_append_of_pos hr]

theorem trim_prepend {before : List Char} (h : AllBlank before) (text : List Char) :
    trim (before ++ text) = trim text := by
  unfold trim
  rw [trimStart_append h]

theorem trim_append {after : List Char} (h : AllBlank after) (text : List Char) :
    trim (text ++ after) = trim text := by
  unfold trim
  by_cases hb : (text.dropWhile isBlank).isEmpty
  · -- All is blank, and then nothing is left of either text.
    have ht : trimStart text = [] := List.isEmpty_iff.mp hb
    have ha : trimStart (text ++ after) = [] := by
      unfold trimStart
      rw [List.dropWhile_append, if_pos hb, List.dropWhile_eq_nil_iff.mpr h]
    rw [ht, ha]
  · have ha : trimStart (text ++ after) = trimStart text ++ after := by
      unfold trimStart
      rw [List.dropWhile_append, if_neg hb]
    rw [ha, trimEnd_append h]

theorem trim_of_surrounds {core text : List Char} (h : Surrounds core text) :
    trim text = trim core := by
  obtain ⟨before, after, hb, ha, rfl⟩ := h
  rw [trim_append ha, trim_prepend hb]

/-! ## What is left -/

/-- Trimming takes away blanks and nothing else. -/
theorem surrounds_trim (text : List Char) : Surrounds (trim text) text := by
  refine ⟨text.takeWhile isBlank, (trimStart text).rtakeWhile isBlank, ?_, ?_, ?_⟩
  · exact fun c hc => List.mem_takeWhile_imp hc
  · exact fun c hc => List.mem_rtakeWhile_imp hc
  · rw [trim, trimEnd_eq, List.append_assoc, List.rdropWhile_append_rtakeWhile, trimStart,
      List.takeWhile_append_dropWhile]

theorem trim_infix (text : List Char) : trim text <:+: text := by
  obtain ⟨before, after, -, -, ht⟩ := surrounds_trim text
  exact ⟨before, after, ht.symm⟩

theorem isBlank_head_trimStart (text : List Char) {c : Char} (h : c ∈ (trimStart text).head?) :
    isBlank c = false := by
  have hc : (text.dropWhile isBlank).head? = some c := h
  have hn := List.head?_dropWhile_not isBlank text
  rwa [hc] at hn

/-- Trimming takes away all blanks at the ends. -/
theorem bare_trim (text : List Char) : Bare (trim text) := by
  constructor
  · intro c hc
    -- What comes off at the end leaves the first character, or else it leaves nothing.
    obtain ⟨rest, hr⟩ : trim text <+: trimStart text := List.rdropWhile_prefix isBlank _
    apply isBlank_head_trimStart text
    rw [← hr, List.head?_append, Option.mem_def.mp hc]
    rfl
  · intro c hc
    apply isBlank_head_trimStart (trimStart text).reverse
    rwa [trim, trimEnd, List.getLast?_reverse] at hc

theorem Bare.trim_eq {core : List Char} (h : Bare core) : trim core = core := by
  have hs : trimStart core = core := by
    cases core with
    | nil => rfl
    | cons c rest =>
      have hc := h.first c rfl
      rw [trimStart, List.dropWhile_cons, if_neg (by simp [hc])]
  have he : trimEnd core = core := by
    rw [trimEnd_eq, List.rdropWhile_eq_self_iff]
    intro hn
    have hc := h.last _ (List.getLast?_eq_some_getLast hn)
    simp [hc]
  rw [trim, hs, he]

/-- Trimming finds the one core that has no blank at its ends. -/
theorem trim_eq_iff {core text : List Char} :
    trim text = core ↔ Bare core ∧ Surrounds core text := by
  constructor
  · rintro rfl
    exact ⟨bare_trim text, surrounds_trim text⟩
  · rintro ⟨hb, hs⟩
    rw [trim_of_surrounds hs, hb.trim_eq]

/-- Nothing is left where there is nothing but blanks. -/
theorem trim_eq_nil_iff {text : List Char} : trim text = [] ↔ AllBlank text := by
  have hb : Bare [] := ⟨nofun, nofun⟩
  rw [trim_eq_iff, and_iff_right hb]
  constructor
  · rintro ⟨before, after, hbefore, hafter, rfl⟩ c hc
    rcases List.mem_append.mp hc with hc | hc
    · exact hbefore c (by simpa using hc)
    · exact hafter c hc
  · intro h
    exact ⟨text, [], h, nofun, by simp⟩

end MetricBoard.Text
