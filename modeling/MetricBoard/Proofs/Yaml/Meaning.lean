import Mathlib.Algebra.Group.Int.Defs
import MetricBoard.Proofs.Yaml.Reading

/-!
# The meaning of a node

A node that can be read is read as one value. The value is built from those of the nodes inside,
and wherever an integer stands in it, the text of the document spells an integer of 64 bits.
-/

namespace MetricBoard.Yaml

/-! ## Integers of 64 bits -/

namespace Scalar

/-- An integer of 64 bits, whether one of them is the sign or not. -/
def IsWord (n : Int) : Prop := -2 ^ 63 ≤ n ∧ n < 2 ^ 64

theorem isWord_of_fitsIn {n : Int} (h : fitsIn 64 n = true) : IsWord n := by
  unfold fitsIn at h
  unfold IsWord
  cases n with
  | ofNat size =>
    have hs : size < 2 ^ 64 := of_decide_eq_true h
    rw [Int.ofNat_eq_natCast]
    omega
  | negSucc size =>
    have hs : size < 2 ^ 63 := of_decide_eq_true h
    omega

theorem isWord_of_integer? {text : String} {n : Int} (h : integer? text = some (.integer n)) :
    IsWord n := by
  unfold integer? at h
  obtain ⟨number, -, h⟩ := Option.bind_eq_some_iff.mp h
  unfold ofInteger? at h
  split at h
  · rename_i hf
    cases h
    exact isWord_of_fitsIn hf
  · split at h <;> cases h

theorem isWord_of_plain {text : String} {n : Int} (h : ofPlain text = .integer n) : IsWord n := by
  unfold ofPlain at h
  split at h
  · cases h
  · split at h
    · cases h
    · rename_i hi _
      subst h
      exact isWord_of_integer? hi
    · split at h
      · cases h
      · split at h <;> cases h

theorem isWord_of_resolve {tag : Option Tag} {style : ScalarStyle} {text : String} {n : Int}
    (h : resolve tag style text = .ok (.integer n)) : IsWord n := by
  have hplain : ∀ {plain : Bool}, (if plain then ofPlain text else .text text) = .integer n →
      IsWord n := by
    intro plain hp
    split at hp
    · exact isWord_of_plain hp
    · cases hp
  unfold resolve at h
  split at h
  · exact hplain (Except.ok.inj h)
  · split at h
    · rename_i kind _
      split at h
      · rename_i scalar hs
        obtain rfl := Except.ok.inj h
        cases kind with
        | integer => exact isWord_of_integer? hs
        | boolean =>
          obtain ⟨_, -, hs⟩ := Option.map_eq_some_iff.mp hs
          cases hs
        | float =>
          obtain ⟨_, -, hs⟩ := Option.map_eq_some_iff.mp hs
          cases hs
        | null =>
          unfold ofForced? at hs
          dsimp only at hs
          split at hs <;> cases hs
      · cases h
    · exact hplain (Except.ok.inj h)

end Scalar

/-! ## Tags -/

def Value.untagged : Value → Value
  | .tagged _ value => untagged value
  | value => value

namespace Document

theorem untagged_underTag (tag : Option Tag) (value : Value) :
    (underTag tag value).untagged = value.untagged := by
  unfold underTag
  split <;> rfl

/-! ## How values are built -/

/-- The value of a node that is no longer an alias, when those of the nodes inside are known. -/
inductive Builds (inner : Node → Value → Prop) : Node → Value → Prop
  | scalar {mark : Mark} {tag : Option Tag} {style : ScalarStyle} {text : String}
      {scalar : Scalar} {value : Value} (resolved : Scalar.resolve tag style text = .ok scalar)
      (plain : scalarValue (.scalar mark tag style text) .root scalar = .ok value) :
      Builds inner (.scalar mark tag style text) (underTag tag value)
  | sequence {mark : Mark} {tag : Option Tag} {items : List Node} {values : List Value}
      (each : List.Forall₂ inner items values) :
      Builds inner (.sequence mark tag items) (underTag tag (.sequence values))
  | mapping {mark : Mark} {tag : Option Tag} {entries : List (Node × Node)}
      {values : List (Value × Value)}
      (each : List.Forall₂ (fun entry value => inner entry.1 value.1 ∧ inner entry.2 value.2)
        entries values) : Builds inner (.mapping mark tag entries) (underTag tag (.mapping values))
  /-- An alias to an alias is not followed again. -/
  | stranded {mark : Mark} {slot : Nat} : Builds inner (.alias mark slot) .null

/-- What the nodes inside a node mean. There is none inside where no depth is left. -/
def MeansInside (document : Document) : (depth : Nat) → Node → Value → Prop
  | 0 => fun _ _ => False
  | depth + 1 => document.Means depth

variable {document : Document} {inner : Node → Value → Prop} {node : Node} {value : Value}

theorem each_of_readEntries {read : Path → Node → Reading Value} {path : Path} {mark : Mark}
    {earlier : List Value} {entries : List (Node × Node)} {values : List (Value × Value)}
    (h : (readEntries read path mark earlier entries).Obtains values) :
    List.Forall₂ (fun entry value => (∃ place, (read place entry.1).Obtains value.1) ∧
      ∃ place, (read place entry.2).Obtains value.2) entries values := by
  induction entries generalizing earlier values with
  | nil =>
    obtain rfl := h.of_pure
    exact .nil
  | cons entry entries ih =>
    obtain ⟨keyNode, valueNode⟩ := entry
    obtain ⟨key, hk, h⟩ := h.of_bind
    cases hf : earlier.find? (·.same key) with
    | some first =>
      rw [hf] at h
      exact absurd h Reading.not_obtains_throw
    | none =>
      rw [hf] at h
      obtain ⟨value, hv, h⟩ := h.of_bind
      obtain ⟨rest, hr, h⟩ := h.of_bind
      obtain rfl := h.of_pure
      exact .cons ⟨⟨_, hk⟩, _, hv⟩ (ih hr)

theorem builds_of_readLayer {read : Option (Path → Node → Reading Value)} {path : Path}
    (hi : ∀ found, read = some found → ∀ place node value,
      (found place node).Obtains value → inner node value)
    (h : (document.readLayer read path node).Obtains value) :
    Builds inner (document.seen node) value := by
  replace h := obtains_seen h
  match document.seen node, h with
  | .scalar mark tag style text, h =>
    dsimp only at h
    cases hr : Scalar.resolve tag style text with
    | error kind =>
      rw [hr] at h
      exact absurd h Reading.not_obtains_throw
    | ok scalar =>
      rw [hr] at h
      obtain ⟨plain, hp, h⟩ := h.of_bind
      obtain rfl := h.of_pure
      exact .scalar hr (scalarValue_path hp.of_lift .root)
  | .sequence mark tag items, h =>
    cases read with
    | none => exact absurd h Reading.not_obtains_throw
    | some found =>
      obtain ⟨values, hv, h⟩ := h.of_bind
      obtain rfl := h.of_pure
      refine .sequence ((each_of_readItems hv).imp ?_)
      rintro item value ⟨place, ho⟩
      exact hi found rfl place item value ho
  | .mapping mark tag entries, h =>
    cases read with
    | none => exact absurd h Reading.not_obtains_throw
    | some found =>
      obtain ⟨values, hv, h⟩ := h.of_bind
      obtain rfl := h.of_pure
      refine .mapping ((each_of_readEntries hv).imp ?_)
      rintro entry value ⟨⟨place, hk⟩, other, ho⟩
      exact ⟨hi found rfl place _ _ hk, hi found rfl other _ _ ho⟩
  | .alias mark slot, h =>
    obtain rfl := h.of_pure
    exact .stranded

theorem Means.builds {depth : Nat} (h : document.Means depth node value) :
    Builds (document.MeansInside depth) (document.seen node) value := by
  obtain ⟨path, h⟩ := h
  cases depth with
  | zero => exact builds_of_readLayer (fun _ hr => by cases hr) h
  | succ depth =>
    refine builds_of_readLayer (fun found hr place node value ho => ?_) h
    obtain rfl := Option.some.inj hr
    exact ⟨place, ho⟩

/-- If the nodes inside have one value each, so has the node. -/
theorem Builds.unique {other : Value} (hi : Relator.RightUnique inner)
    (h : Builds inner node value) (ho : Builds inner node other) : value = other := by
  cases h with
  | @scalar mark tag style text scalar plain resolved plainly =>
    cases ho with
    | scalar resolvedToo plainlyToo =>
      obtain rfl := Except.ok.inj (resolved.symm.trans resolvedToo)
      obtain rfl := Except.ok.inj (plainly.symm.trans plainlyToo)
      rfl
  | sequence each =>
    cases ho with
    | sequence eachToo =>
      obtain rfl := List.right_unique_forall₂' hi each eachToo
      rfl
  | mapping each =>
    cases ho with
    | mapping eachToo =>
      have hpair : Relator.RightUnique fun (entry : Node × Node) (value : Value × Value) =>
          inner entry.1 value.1 ∧ inner entry.2 value.2 :=
        fun _ _ _ h ho => Prod.ext (hi h.1 ho.1) (hi h.2 ho.2)
      obtain rfl := List.right_unique_forall₂' hpair each eachToo
      rfl
  | stranded =>
    cases ho
    rfl

/-- A node means one value. -/
theorem Means.unique {depth : Nat} {other : Value} (h : document.Means depth node value)
    (ho : document.Means depth node other) : value = other := by
  induction depth generalizing node value other with
  | zero => exact Builds.unique (fun _ _ _ hf => hf.elim) h.builds ho.builds
  | succ depth ih =>
    have hi : Relator.RightUnique (document.MeansInside (depth + 1)) := fun _ _ _ => ih
    exact Builds.unique hi h.builds ho.builds

/-! ## Integers in values -/

theorem Builds.isWord_of_integer (h : Builds inner node value) {n : Int}
    (hn : value.untagged = .number (.integer n)) : Scalar.IsWord n := by
  cases h with
  | @scalar mark tag style text scalar plain resolved plainly =>
    rw [untagged_underTag] at hn
    cases scalar with
    | integer word =>
      cases plainly
      cases hn
      exact Scalar.isWord_of_resolve resolved
    | wideInteger word => cases plainly
    | _ =>
      cases plainly
      cases hn
  | sequence each =>
    rw [untagged_underTag] at hn
    cases hn
  | mapping each =>
    rw [untagged_underTag] at hn
    cases hn
  | stranded => cases hn

theorem Builds.each_of_sequence (h : Builds inner node value) {values : List Value}
    (hs : value.untagged = .sequence values) :
    ∀ item ∈ values, ∃ place, inner place item := by
  cases h with
  | scalar resolved plainly =>
    rename_i scalar plain
    rw [untagged_underTag] at hs
    cases scalar <;> cases plainly <;> cases hs
  | sequence each =>
    rw [untagged_underTag] at hs
    cases hs
    intro item hm
    induction each with
    | nil => cases hm
    | cons first _ ih =>
      rcases List.mem_cons.mp hm with rfl | hm
      · exact ⟨_, first⟩
      · exact ih hm
  | mapping each =>
    rw [untagged_underTag] at hs
    cases hs
  | stranded => cases hs

/-- No node means an integer that neither 64 bits nor 64 bits with a sign can hold. -/
theorem Means.isWord {depth : Nat} (h : document.Means depth node value) {n : Int}
    (hn : value.untagged = .number (.integer n)) : Scalar.IsWord n :=
  h.builds.isWord_of_integer hn

theorem Means.isWord_of_item {depth : Nat} (h : document.Means depth node value) {n : Int}
    {values : List Value} (hs : value.untagged = .sequence values) {item : Value}
    (hm : item ∈ values) (hn : item.untagged = .number (.integer n)) : Scalar.IsWord n := by
  obtain ⟨place, hp⟩ := h.builds.each_of_sequence hs item hm
  cases depth with
  | zero => exact hp.elim
  | succ depth => exact Means.isWord hp hn

end Document

end MetricBoard.Yaml
