import Mathlib.Algebra.GroupWithZero.Nat
import Mathlib.Data.List.Forall2
import MetricBoard.Yaml.Reading

/-!
# What readings come to

A reading may fail because the document is not as wanted or because too many aliases have been
followed. The first does not depend on how many were followed before, nor on the path that is
reported, so whatever a reading has come to once it comes to again wherever there is room for the
aliases on its way.
-/

namespace MetricBoard.Yaml

/-- Some run of the reading comes to the value. -/
def Reading.Obtains {α : Type} (read : Reading α) (value : α) : Prop :=
  ∃ count last, read.run count = .ok (value, last)

namespace Reading

variable {α β : Type}

theorem run_bind_of_ok {read : Reading α} {next : α → Reading β} {value : α} {count last : Nat}
    (h : read.run count = .ok (value, last)) :
    (read >>= next).run count = (next value).run last := by
  rw [StateT.run_bind, h]
  rfl

/-- A reading that goes on has come to a value before, and goes on from it. -/
theorem Obtains.of_bind {read : Reading α} {next : α → Reading β} {value : β}
    (h : (read >>= next).Obtains value) :
    ∃ first, read.Obtains first ∧ (next first).Obtains value := by
  obtain ⟨count, last, h⟩ := h
  rw [StateT.run_bind] at h
  cases hr : read.run count with
  | error problem =>
    rw [hr] at h
    cases h
  | ok pair =>
    rw [hr] at h
    exact ⟨pair.1, ⟨count, pair.2, hr⟩, pair.2, last, h⟩

theorem Obtains.of_pure {value other : α} (h : (pure value : Reading α).Obtains other) :
    value = other := by
  obtain ⟨count, last, h⟩ := h
  cases h
  rfl

theorem not_obtains_throw {problem : Problem} {value : α} :
    ¬ (throw problem : Reading α).Obtains value := by
  rintro ⟨count, last, h⟩
  cases h

theorem Obtains.of_ite {condition : Prop} [Decidable condition] {read other : Reading α} {value : α}
    (h : (if condition then read else other).Obtains value) :
    condition ∧ read.Obtains value ∨ ¬ condition ∧ other.Obtains value := by
  by_cases hc : condition
  · rw [if_pos hc] at h
    exact .inl ⟨hc, h⟩
  · rw [if_neg hc] at h
    exact .inr ⟨hc, h⟩

theorem Obtains.of_lift {result : Except Problem α} {value : α}
    (h : (liftM result : Reading α).Obtains value) : result = .ok value := by
  obtain ⟨count, last, h⟩ := h
  cases result with
  | error problem => cases h
  | ok other =>
    cases h
    rfl

theorem obtains_of_run' {read : Reading α} {count : Nat} {value : α}
    (h : read.run' count = .ok value) : read.Obtains value := by
  rw [StateT.run'_eq] at h
  cases hr : read.run count with
  | error problem =>
    rw [hr] at h
    cases h
  | ok pair =>
    rw [hr] at h
    cases h
    exact ⟨count, pair.2, hr⟩

end Reading

namespace Document

/-- The node that is read in the place of a node. -/
def seen (document : Document) (node : Node) : Node :=
  match node with
  | .alias _ slot => (document.target? slot).getD node
  | node => node

def aliasLimit (document : Document) : Nat := document.size * aliasesPerEvent

/-- The reading comes to the value wherever there is room for so many more aliases. -/
def Yields {α : Type} (document : Document) (read : Reading α) (value : α) (aliases : Nat) :
    Prop :=
  ∀ count, count + aliases ≤ document.aliasLimit →
    ∃ last ≤ count + aliases, read.run count = .ok (value, last)

section

variable {α β : Type} {document : Document}

theorem Yields.mono {read : Reading α} {value : α} {aliases more : Nat}
    (h : document.Yields read value aliases) (hm : aliases ≤ more) :
    document.Yields read value more := by
  intro count hc
  obtain ⟨last, hl, hr⟩ := h count (by omega)
  exact ⟨last, by omega, hr⟩

theorem Yields.pure (value : α) (aliases : Nat) :
    document.Yields (Pure.pure value) value aliases := by
  intro count _
  exact ⟨count, by omega, rfl⟩

/-- Readings that follow one another add up the aliases that they follow. -/
theorem Yields.bind {read : Reading α} {next : α → Reading β} {first : α} {value : β}
    {aliases more : Nat} (h : document.Yields read first aliases)
    (hn : document.Yields (next first) value more) :
    document.Yields (read >>= next) value (aliases + more) := by
  intro count hc
  obtain ⟨middle, hm, hr⟩ := h count (by omega)
  obtain ⟨last, hl, hs⟩ := hn middle (by omega)
  refine ⟨last, by omega, ?_⟩
  rw [StateT.run_bind, hr]
  exact hs

/-- What comes after the reading follows no alias. -/
theorem Yields.last {read : Reading α} {next : α → Reading β} {first : α} {value : β}
    {aliases : Nat} (h : document.Yields read first aliases)
    (hn : document.Yields (next first) value 0) : document.Yields (read >>= next) value aliases :=
  h.bind hn

theorem Yields.lift {result : Except Problem α} {value : α} (h : result = .ok value)
    (aliases : Nat) : document.Yields (liftM result) value aliases := by
  intro count _
  subst h
  exact ⟨count, by omega, rfl⟩

/-! ## Aliases -/

/-- How many aliases are followed where a node stands. -/
def here : Node → Nat
  | .alias .. => 1
  | _ => 0

theorem run_follow_alias (mark : Mark) (slot count : Nat) :
    (document.follow (.alias mark slot)).run count =
      if document.aliasLimit < count + 1 then .error .tooManyAliases
      else .ok (document.seen (.alias mark slot), count + 1) := by
  have hf : (document.follow (.alias mark slot)).run count =
      (if document.size * aliasesPerEvent < count + 1 then throw .tooManyAliases
        else do
          set (count + 1)
          pure (document.seen (.alias mark slot)) : Reading Node).run count := rfl
  rw [hf]
  unfold aliasLimit
  split <;> rfl

theorem seen_of_follow {node found : Node} (h : (document.follow node).Obtains found) :
    document.seen node = found := by
  match node, h with
  | .alias mark slot, h =>
    obtain ⟨count, last, h⟩ := h
    rw [run_follow_alias] at h
    split at h
    · cases h
    · cases h
      rfl
  | .scalar .., h => exact h.of_pure
  | .sequence .., h => exact h.of_pure
  | .mapping .., h => exact h.of_pure

/-- What is read after an alias is followed is read of the node that it refers to. -/
theorem obtains_seen {node : Node} {next : Node → Reading β} {value : β}
    (h : (document.follow node >>= next).Obtains value) :
    (next (document.seen node)).Obtains value := by
  obtain ⟨found, hf, h⟩ := h.of_bind
  rw [seen_of_follow hf]
  exact h

theorem yields_follow (node : Node) :
    document.Yields (document.follow node) (document.seen node) (here node) := by
  match node with
  | .alias mark slot =>
    intro count hc
    have hn : ¬ document.aliasLimit < count + 1 := Nat.not_lt.mpr hc
    exact ⟨count + 1, Nat.le_refl _, by rw [run_follow_alias, if_neg hn]⟩
  | .scalar .. => exact .pure _ _
  | .sequence .. => exact .pure _ _
  | .mapping .. => exact .pure _ _

/-- The aliases at a node and inside what is read in its place, if `inner` counts those of the
nodes there. -/
def aliasesIn (document : Document) (inner : Node → Nat) (node : Node) : Nat :=
  here node +
    match document.seen node with
    | .sequence _ _ items => (items.map inner).sum
    | .mapping _ _ entries => (entries.map fun entry => inner entry.1 + inner entry.2).sum
    | _ => 0

/-- How many aliases are met when a node is read, with collections nested at most `depth`
deep. -/
def aliasesBelow (document : Document) : (depth : Nat) → Node → Nat
  | 0 => document.aliasesIn fun _ => 0
  | depth + 1 => document.aliasesIn (document.aliasesBelow depth)

/-- How many aliases are met when a whole document is read. -/
def aliases (document : Document) : Nat :=
  document.root.elim 0 (document.aliasesBelow depthLimit)

theorem here_le_aliasesBelow (depth : Nat) (node : Node) :
    here node ≤ document.aliasesBelow depth node := by
  cases depth <;> exact Nat.le_add_right _ _

theorem aliasesBelow_sequence {node : Node} {mark : Mark} {tag : Option Tag} {items : List Node}
    (h : document.seen node = .sequence mark tag items) (depth : Nat) :
    document.aliasesBelow (depth + 1) node =
      here node + (items.map (document.aliasesBelow depth)).sum := by
  change document.aliasesIn (document.aliasesBelow depth) node = _
  unfold aliasesIn
  rw [h]

theorem aliasesBelow_mapping {node : Node} {mark : Mark} {tag : Option Tag}
    {entries : List (Node × Node)} (h : document.seen node = .mapping mark tag entries)
    (depth : Nat) :
    document.aliasesBelow (depth + 1) node = here node + (entries.map fun entry =>
      document.aliasesBelow depth entry.1 + document.aliasesBelow depth entry.2).sum := by
  change document.aliasesIn (document.aliasesBelow depth) node = _
  unfold aliasesIn
  rw [h]

/-! ## Texts -/

/-- The text of the scalar that is read in the place of a node, as it is written. -/
def text? (document : Document) (node : Node) : Option String :=
  match document.seen node with
  | .scalar _ _ _ text => some text
  | _ => none

theorem text?_of_readText {wanted text : String} {path : Path} {node : Node}
    (h : (document.readText wanted path node).Obtains text) : document.text? node = some text := by
  replace h := obtains_seen h
  unfold text?
  match document.seen node, h with
  | .scalar .., h => exact congrArg some h.of_pure
  | .sequence .., h => exact absurd h Reading.not_obtains_throw
  | .mapping .., h => exact absurd h Reading.not_obtains_throw
  | .alias .., h => exact absurd h Reading.not_obtains_throw

theorem yields_readText {text : String} {node : Node} (h : document.text? node = some text)
    (wanted : String) (path : Path) (depth : Nat) :
    document.Yields (document.readText wanted path node) text
      (document.aliasesBelow depth node) := by
  refine Yields.mono ((yields_follow node).last ?_) (here_le_aliasesBelow depth node)
  unfold text? at h
  match document.seen node, h with
  | .scalar .., h =>
    obtain rfl := Option.some.inj h
    exact .pure _ 0

/-! ## Collections -/

theorem each_of_readItems {read : Path → Node → Reading α} {path : Path} {index : Nat}
    {items : List Node} {values : List α} (h : (readItems read path index items).Obtains values) :
    List.Forall₂ (fun item value => ∃ place, (read place item).Obtains value) items values := by
  induction items generalizing index values with
  | nil =>
    obtain rfl := h.of_pure
    exact .nil
  | cons item items ih =>
    obtain ⟨value, hv, h⟩ := h.of_bind
    obtain ⟨rest, hr, h⟩ := h.of_bind
    obtain rfl := h.of_pure
    exact .cons ⟨_, hv⟩ (ih hr)

theorem yields_readItems {read : Path → Node → Reading α} {aliases : Node → Nat}
    {items : List Node} {values : List α}
    (h : List.Forall₂ (fun item value => ∀ place,
      document.Yields (read place item) value (aliases item)) items values)
    (path : Path) (index : Nat) :
    document.Yields (readItems read path index items) values (items.map aliases).sum := by
  induction h generalizing index with
  | nil => exact .pure _ _
  | cons first _ ih =>
    rw [List.map_cons, List.sum_cons]
    exact (first _).bind ((ih (index + 1)).last (.pure _ 0))

/-- Which keys repeat an earlier one depends on their values only. -/
theorem yields_readEntries {read : Path → Node → Reading Value} {aliases : Node → Nat}
    (hi : ∀ place node value, (read place node).Obtains value →
      ∀ other, document.Yields (read other node) value (aliases node))
    {path : Path} {mark : Mark} {earlier : List Value} {entries : List (Node × Node)}
    {values : List (Value × Value)}
    (h : (readEntries read path mark earlier entries).Obtains values) (other : Path) :
    document.Yields (readEntries read other mark earlier entries) values
      (entries.map fun entry => aliases entry.1 + aliases entry.2).sum := by
  induction entries generalizing earlier values with
  | nil =>
    obtain rfl := h.of_pure
    exact .pure _ _
  | cons entry entries ih =>
    obtain ⟨keyNode, valueNode⟩ := entry
    obtain ⟨key, hk, h⟩ := h.of_bind
    rw [List.map_cons, List.sum_cons, Nat.add_assoc]
    refine (hi _ _ _ hk other).bind ?_
    cases hf : earlier.find? (·.same key) with
    | some first =>
      rw [hf] at h
      exact absurd h Reading.not_obtains_throw
    | none =>
      rw [hf] at h
      obtain ⟨value, hv, h⟩ := h.of_bind
      obtain ⟨rest, hr, h⟩ := h.of_bind
      obtain rfl := h.of_pure
      exact (hi _ _ _ hv _).bind ((ih hr).last (.pure _ 0))

/-! ## Values -/

theorem scalarValue_path {node : Node} {path : Path} {scalar : Scalar} {value : Value}
    (h : scalarValue node path scalar = .ok value) (other : Path) :
    scalarValue node other scalar = .ok value := by
  cases scalar <;> first | exact h | cases h

/-- One layer of a tree: what the nodes inside it cost is given by the caller. -/
theorem yields_readLayer {inner : Option (Path → Node → Reading Value)} {aliases : Node → Nat}
    (hi : ∀ read, inner = some read → ∀ place node value, (read place node).Obtains value →
      ∀ other, document.Yields (read other node) value (aliases node))
    {path : Path} {node : Node} {value : Value}
    (h : (document.readLayer inner path node).Obtains value) (other : Path) :
    document.Yields (document.readLayer inner other node) value
      (document.aliasesIn aliases node) := by
  replace h := obtains_seen h
  refine (yields_follow node).bind ?_
  -- Either path leads to the same node, so both readings take the same branch.
  match document.seen node, h with
  | .scalar mark tag style text, h =>
    dsimp only at h ⊢
    cases hs : Scalar.resolve tag style text with
    | error kind =>
      rw [hs] at h
      exact absurd h Reading.not_obtains_throw
    | ok scalar =>
      rw [hs] at h
      obtain ⟨plain, hp, h⟩ := h.of_bind
      obtain rfl := h.of_pure
      have hv := scalarValue_path hp.of_lift other
      exact (Yields.lift hv 0).last (.pure _ 0)
  | .sequence mark tag items, h =>
    cases inner with
    | none => exact absurd h Reading.not_obtains_throw
    | some read =>
      obtain ⟨values, hv, h⟩ := h.of_bind
      obtain rfl := h.of_pure
      have he : List.Forall₂ (fun item value => ∀ place,
          document.Yields (read place item) value (aliases item)) items values := by
        refine (each_of_readItems hv).imp ?_
        rintro item value ⟨place, ho⟩
        exact hi read rfl place item value ho
      exact (yields_readItems he other 0).last (.pure _ 0)
  | .mapping mark tag entries, h =>
    cases inner with
    | none => exact absurd h Reading.not_obtains_throw
    | some read =>
      obtain ⟨values, hv, h⟩ := h.of_bind
      obtain rfl := h.of_pure
      exact (yields_readEntries (hi read rfl) hv other).last (.pure _ 0)
  | .alias .., h =>
    obtain rfl := h.of_pure
    exact .pure _ _

/-- Where a value was read once it is read again, at any path and wherever there is room for its
aliases. The induction is on the depth that is left. -/
theorem yields_readValue {depth : Nat} {path : Path} {node : Node} {value : Value}
    (h : (document.readValue depth path node).Obtains value) (other : Path) :
    document.Yields (document.readValue depth other node) value
      (document.aliasesBelow depth node) := by
  induction depth generalizing path node value other with
  | zero => exact yields_readLayer (fun read hr => by cases hr) h other
  | succ depth ih =>
    refine yields_readLayer (fun read hr place node value ho other => ?_) h other
    obtain rfl := Option.some.inj hr
    exact ih ho other

/-- The value that a node is read as. -/
def Means (document : Document) (depth : Nat) (node : Node) (value : Value) : Prop :=
  ∃ path, (document.readValue depth path node).Obtains value

theorem Means.yields {depth : Nat} {node : Node} {value : Value}
    (h : document.Means depth node value) (path : Path) :
    document.Yields (document.readValue depth path node) value
      (document.aliasesBelow depth node) := by
  obtain ⟨place, ho⟩ := h
  exact yields_readValue ho path

end

end Document

end MetricBoard.Yaml
