import MetricBoard.Proofs.Dashboard.Option
import MetricBoard.Proofs.Engine.Table
import MetricBoard.Proofs.Options.Counts

/-!
# Integers in a dashboard

An integer that is written in a dashboard for the limit of a table reaches the provider as it is,
over all the integers that a document can hold. It passes from the document into the bag as text
and is read from there.
-/

namespace MetricBoard

open Yaml (Document Node Value)

/-- An integer that is given for the limit of a table is one of 64 bits. If it is not negative the
table asks for so many rows, by the operation of its kind, and shows no more of the answer. If it is
negative, or if nothing, a truth value, or a list of none or several scalars is given, nothing is
called and the error repeats the text of what is given. -/
theorem Dashboard.integer_limits_table {text : String} {document : Document}
    {dashboard : Dashboard} {index : Nat} {node : Node} {value : Value}
    {widget : WidgetDescriptor} {kind : WidgetKind} (hd : Document.ofText text = .ok document)
    (hp : parse text = .ok dashboard) (hw : dashboard.widgets[index]? = some widget)
    (hk : kind.id = widget.name) (hf : kind.family = .table)
    (hn : optionNode? document index "row_limit" = some node)
    (hm : document.Means optionDepth node value) :
    (∀ n, GivesInteger value n → -2 ^ 63 ≤ n ∧ n < 2 ^ 64 ∧
      ∀ {σ : Type} (platform : Platform σ) (now : Instant) (state : σ),
        let run := platform.dispatch widget.name widget.options now state
        (0 ≤ n → ∃ query : RowQuery, query.limit = n.toNat ∧ (Query.rows query).asker = kind ∧
          Tables platform ⟨kind, widget.options, now⟩ query n.toNat state run) ∧
        (n < 0 →
          run = ⟨.error (.invalidNumber widget.name "row_limit" (toString n)), [], state⟩)) ∧
    ∀ content, GivesNoCount value content →
      ∀ {σ : Type} (platform : Platform σ) (now : Instant) (state : σ),
        platform.dispatch widget.name widget.options now state =
          ⟨.error (.invalidNumber widget.name "row_limit" content), [], state⟩ := by
  obtain ⟨written, ht, hr⟩ := raw_of_optionNode? (format_of_parse hd hp) hn hm hw
  rw [← hk]
  constructor
  · intro n hi
    obtain rfl := Option.some.inj (hi.optionText?.symm.trans ht)
    obtain ⟨hlow, hhigh⟩ := hi.isWord hm
    refine ⟨hlow, hhigh, fun platform now state => ⟨fun hz => ?_, fun hz => ?_⟩⟩
    · exact platform.dispatch_of_writesCount hf hr (writesCount_of_nonneg hz hhigh) now state
    · exact platform.dispatch_of_unread hf hr (not_writesCount_of_neg hz) now state
  · intro content hc σ platform now state
    obtain rfl := Option.some.inj (hc.optionText?.symm.trans ht)
    exact platform.dispatch_of_unread hf hr hc.not_writesCount now state

/-- A plain scalar with this text and without a tag. -/
def isPlain (text : String) : Node → Bool
  | .scalar _ none .plain written => written == text
  | _ => false

theorem isPlain_iff {text : String} {node : Node} :
    isPlain text node = true ↔ ∃ mark, node = .scalar mark none .plain text := by
  constructor
  · intro h
    unfold isPlain at h
    split at h
    · rename_i mark written
      exact ⟨mark, by rw [eq_of_beq h]⟩
    · cases h
  · rintro ⟨mark, rfl⟩
    exact beq_self_eq_true text

theorem greatest_integer_limits_table :
    let text := "? widgets\n: - ? name\n    : github.table_branches\n    ? options\n" ++
      "    : ? row_limit\n      : 0xffffffffffffffff"
    let bag := OptionBag.ofList [("row_limit", "18446744073709551615")]
    Dashboard.parse text = .ok ⟨[⟨"github.table_branches", bag⟩]⟩ ∧
    ∃ query : RowQuery, query.limit = 18446744073709551615 ∧
      Tables .obliging ⟨.tableBranches, bag, ⟨0, 0⟩⟩ query 18446744073709551615 ()
        (Platform.obliging.dispatch "github.table_branches" bag ⟨0, 0⟩ ()) := by
  intro text bag
  have hp : Dashboard.parse text = .ok ⟨[⟨"github.table_branches", bag⟩]⟩ := by decide +kernel
  have hc : (match Document.ofText text with
      | .ok document =>
          (Dashboard.optionNode? document 0 "row_limit").any (isPlain "0xffffffffffffffff")
      | .error _ => false) = true := by decide +kernel
  refine ⟨hp, ?_⟩
  cases hd : Document.ofText text with
  | error fault =>
    rw [hd] at hc
    cases hc
  | ok document =>
    rw [hd] at hc
    obtain ⟨node, hn, hplain⟩ := (Option.any_eq_true _ _).mp hc
    obtain ⟨mark, rfl⟩ := isPlain_iff.mp hplain
    have hm : document.Means Dashboard.optionDepth
        (.scalar mark none .plain "0xffffffffffffffff")
        (.number (.integer 18446744073709551615)) := ⟨.root, 0, 0, rfl⟩
    have hk : WidgetKind.tableBranches.id = "github.table_branches" := rfl
    obtain ⟨-, -, hrun⟩ :=
      (Dashboard.integer_limits_table hd hp rfl hk rfl hn hm).1 _ (.inl rfl)
    obtain ⟨query, hl, -, htables⟩ := (hrun .obliging ⟨0, 0⟩ ()).1 (by decide)
    exact ⟨query, hl, htables⟩

end MetricBoard
