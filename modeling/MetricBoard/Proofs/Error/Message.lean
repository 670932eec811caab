import Mathlib.Data.List.Infix
import MetricBoard.Proofs.Time.Unit
import MetricBoard.Widget.Kind

/-!
# Messages of errors

A message puts texts from outside between fixed ones, without quoting what is in them. What it says
can be told from it all the same: each sort of error has an initial letter of its own, a name ends
at the first character that names do not hold, and no two texts for what is expected of a date end
alike. Nothing is assumed about the texts from outside.
-/

namespace MetricBoard

/-! ## Parts of a text -/

theorem Text.takeWhile_marked {c : Char} {part : List Char} (h : c ∉ part) (back : List Char) :
    (part ++ c :: back).takeWhile (· != c) = part := by
  have hp : ∀ d ∈ part, (d != c) = true := fun d hd => bne_iff_ne.mpr (ne_of_mem_of_not_mem hd h)
  rw [List.takeWhile_append_of_pos hp, List.takeWhile_cons, if_neg (by simp), List.append_nil]

/-- The part before a mark ends where the first character of the mark comes first. -/
theorem Text.eq_of_marked {c : Char} {mark front other rest last : String}
    (hm : mark.toList.head? = some c) (hf : c ∉ front.toList) (ho : c ∉ other.toList)
    (h : front ++ (mark ++ rest) = other ++ (mark ++ last)) : front = other ∧ rest = last := by
  obtain ⟨tail, ht⟩ := List.head?_eq_some_iff.mp hm
  have hfront : front = other := by
    have hl := congrArg (fun text => text.toList.takeWhile (· != c)) h
    simp only [String.toList_append, ht, List.cons_append] at hl
    rw [takeWhile_marked hf, takeWhile_marked ho] at hl
    exact String.toList_inj.mp hl
  subst hfront
  exact ⟨rfl, (String.append_right_inj mark).mp ((String.append_right_inj front).mp h)⟩

theorem Text.head?_append {c : Char} {front : String} (h : front.toList.head? = some c)
    (back : String) : (front ++ back).toList.head? = some c := by
  rw [String.toList_append, List.head?_append, h]
  rfl

/-! ## Reported errors -/

/-- No expectation ends like another one. -/
theorem eq_of_expectation_suffix {expected other : String} (h : expected ∈ dateExpectations)
    (ho : other ∈ dateExpectations) (hs : expected.toList <:+ other.toList) : expected = other := by
  have hall : ∀ expected ∈ dateExpectations, ∀ other ∈ dateExpectations,
      expected.toList <:+ other.toList → expected = other := by decide +kernel
  exact hall expected h other ho hs

/-- The errors that the rendering of a widget ends with. The names in them are known ones; all else
comes from outside. -/
inductive Reported : WidgetError → Prop
  | unknown (id : String) : Reported (.unknownWidget id "github")
  | number (kind : WidgetKind) (setting : Setting) (value : String) :
      Reported (.invalidNumber kind.id setting.key value)
  | date (kind : WidgetKind) (setting : Setting) (expression : String) {expected : String}
      (known : expected ∈ dateExpectations) :
      Reported (.malformedDate kind.id setting.key expression expected)
  | provider (kind : WidgetKind) (fault : Fault) : Reported (.provider kind.id fault)
  | display (kind : WidgetKind) (fault : Fault) : Reported (.display kind.id fault)

namespace WidgetError

/-- The error with nothing below the outermost text of a failure from outside. -/
def withoutCauses : WidgetError → WidgetError
  | .provider widget fault => .provider widget ⟨fault.message, []⟩
  | .display widget fault => .display widget ⟨fault.message, []⟩
  | error => error

/-- Causes are not told. -/
theorem message_withoutCauses (error : WidgetError) :
    error.withoutCauses.message = error.message := by
  cases error <;> rfl

def initial : WidgetError → Char
  | .unknownWidget .. => 'U'
  | .invalidNumber .. => 'I'
  | .malformedDate .. => 'M'
  | .provider .. => 'P'
  | .display .. => 'D'
  | .config .. => 'C'
  | .io .. => 'I'

/-- The sort of an error is told by the first letter of its message. -/
theorem head?_message (error : WidgetError) :
    error.message.toList.head? = some error.initial := by
  cases error with
  | _ =>
    unfold message
    simp only [String.append_assoc]
    exact Text.head?_append rfl _

theorem location_of_names {widget option : String} (hw : widget.isEmpty = false)
    (ho : option.isEmpty = false) :
    location widget option = widget ++ (" option '" ++ (option ++ "': ")) := by
  unfold location
  rw [hw, ho]
  simp only [String.append_assoc]

end WidgetError

open WidgetError (location)

theorem location_listed (kind : WidgetKind) (setting : Setting) :
    location kind.id setting.key = kind.id ++ (" option '" ++ (setting.key ++ "': ")) :=
  WidgetError.location_of_names (by cases kind <;> rfl) (by cases setting <;> rfl)

/-- Identifiers have no blank in them, and keys no quotation mark. -/
theorem eq_of_location {kind other : WidgetKind} {setting another : Setting} {rest last : String}
    (h : location kind.id setting.key ++ rest = location other.id another.key ++ last) :
    kind.id = other.id ∧ setting.key = another.key ∧ rest = last := by
  have hid (kind : WidgetKind) : ' ' ∉ kind.id.toList := by cases kind <;> decide
  have hkey (setting : Setting) : '\'' ∉ setting.key.toList := by cases setting <;> decide
  rw [location_listed, location_listed] at h
  simp only [String.append_assoc] at h
  obtain ⟨hk, h⟩ := Text.eq_of_marked rfl (hid kind) (hid other) h
  exact ⟨hk, Text.eq_of_marked rfl (hkey setting) (hkey another) h⟩

/-- Identifiers have no colon in them. -/
theorem eq_of_colon {kind other : WidgetKind} {text last : String}
    (h : kind.id ++ (": " ++ text) = other.id ++ (": " ++ last)) :
    kind.id = other.id ∧ text = last := by
  have hid (kind : WidgetKind) : ':' ∉ kind.id.toList := by cases kind <;> decide
  exact Text.eq_of_marked rfl (hid kind) (hid other) h

/-- Where two texts end alike, so do their expectations. -/
theorem eq_of_expectation {middle expression expected other last : String}
    (hk : expected ∈ dateExpectations) (ho : last ∈ dateExpectations)
    (h : expression ++ (middle ++ expected) = other ++ (middle ++ last)) :
    expression = other ∧ expected = last := by
  have hl := congrArg String.toList h
  simp only [String.toList_append, ← List.append_assoc] at hl
  have he : expected.toList <:+ other.toList ++ middle.toList ++ last.toList :=
    hl ▸ List.suffix_append _ _
  have hs : last.toList <:+ other.toList ++ middle.toList ++ last.toList :=
    List.suffix_append _ _
  have hsame : expected = last := by
    rcases List.suffix_or_suffix_of_suffix he hs with hsuffix | hsuffix
    · exact eq_of_expectation_suffix hk ho hsuffix
    · exact (eq_of_expectation_suffix ho hk hsuffix).symm
  subst hsame
  exact ⟨(String.append_left_inj _).mp h, rfl⟩

/-- Errors with one message differ in causes at most. -/
theorem Reported.eq_of_message {error other : WidgetError} (h : Reported error)
    (ho : Reported other) (hm : error.message = other.message) :
    error.withoutCauses = other.withoutCauses := by
  have hi : error.initial = other.initial := by
    have hhead := other.head?_message
    rw [← hm, error.head?_message] at hhead
    exact Option.some.inj hhead
  unfold WidgetError.message at hm
  cases h with
  | unknown id =>
    cases ho with
    | unknown other =>
      simp only [String.append_left_inj, String.append_right_inj] at hm
      rw [hm]
    | _ => cases hi
  | number kind setting value =>
    cases ho with
    | number other another text =>
      simp only [String.append_assoc, String.append_right_inj] at hm
      obtain ⟨hk, hs, hm⟩ := eq_of_location hm
      have hv := (String.append_left_inj _).mp ((String.append_right_inj _).mp hm)
      rw [hk, hs, hv]
    | _ => cases hi
  | date kind setting expression known =>
    cases ho with
    | date other another text listed =>
      simp only [String.append_assoc, String.append_right_inj] at hm
      obtain ⟨hk, hs, hm⟩ := eq_of_location hm
      obtain ⟨hx, he⟩ := eq_of_expectation known listed ((String.append_right_inj _).mp hm)
      rw [hk, hs, hx, he]
    | _ => cases hi
  | provider kind fault =>
    cases ho with
    | provider other cause =>
      simp only [String.append_assoc, String.append_right_inj] at hm
      obtain ⟨hk, ht⟩ := eq_of_colon hm
      simp only [WidgetError.withoutCauses, hk, ht]
    | _ => cases hi
  | display kind fault =>
    cases ho with
    | display other cause =>
      simp only [String.append_assoc, String.append_right_inj] at hm
      obtain ⟨hk, ht⟩ := eq_of_colon hm
      simp only [WidgetError.withoutCauses, hk, ht]
    | _ => cases hi

end MetricBoard
