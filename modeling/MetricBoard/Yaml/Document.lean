import MetricBoard.Yaml.Event
import MetricBoard.Yaml.Token.Stream

/-!
# Documents

The tree that a document is, with places, tags and aliases still in it. An alias refers to a
slot, and a table gives the node in each slot.
-/

namespace MetricBoard.Yaml

/-- A node of a document. Entries of a mapping are in the order of the text and may repeat a
key. -/
inductive Node where
  | scalar (mark : Mark) (tag : Option Tag) (style : ScalarStyle) (text : String)
  | sequence (mark : Mark) (tag : Option Tag) (items : List Node)
  | mapping (mark : Mark) (tag : Option Tag) (entries : List (Node × Node))
  | alias (mark : Mark) (slot : Nat)
  deriving Repr

namespace Node

def mark : Node → Mark
  | .scalar mark .. | .sequence mark .. | .mapping mark .. | .alias mark _ => mark

/-- An absent value is a plain scalar without text. -/
def isAbsent : Node → Bool
  | .scalar _ _ .plain "" => true
  | _ => false

end Node

/-- A node with an anchor: its slot, and how many events came before it. -/
structure Anchored where
  slot : Nat
  position : Nat
  node : Node

/-- A document; without a root where the text holds none. -/
structure Document where
  root : Option Node
  anchored : List Anchored
  /-- How many events the document has. -/
  size : Nat

namespace Document

/-- The node in a slot. Of several it is the one that begins last. -/
def target? (document : Document) (slot : Nat) : Option Node :=
  let candidates := document.anchored.filter (·.slot == slot)
  let last := candidates.foldl (fun best anchored =>
    match best with
    | some found => if found.position < anchored.position then some anchored else best
    | none => some anchored) (none : Option Anchored)
  last.map (·.node)

end Document

/-- The names of anchors and their slots. -/
abbrev Names := List (List Char × Nat)

/-- A name is bound to the slot whose number is the count of names known so far. A name bound
again leaves the count as it is, so that the next new name comes into the same slot. -/
def Names.bind (names : Names) (name : List Char) : Names :=
  (name, names.length) :: names.filter (·.1 != name)

/-- A collection whose end has not come; its parts are latest first. -/
structure OpenNode where
  mark : Mark
  tag : Option Tag
  isMapping : Bool
  slot : Option Nat
  position : Nat
  parts : List Node

/-- Parts of a mapping are keys and values in turn. -/
def pairUp : List Node → List (Node × Node)
  | key :: value :: rest => (key, value) :: pairUp rest
  | _ => []

def OpenNode.close (node : OpenNode) : Node :=
  if node.isMapping then .mapping node.mark node.tag (pairUp node.parts.reverse)
  else .sequence node.mark node.tag node.parts.reverse

structure Draft where
  position : Nat
  names : Names
  anchored : List Anchored
  opened : List OpenNode
  root : Option Node

namespace Draft

/-- A complete node becomes part of the innermost open collection, or the root. -/
def put (draft : Draft) (node : Node) : Draft :=
  match draft.opened with
  | inner :: outer => { draft with opened := { inner with parts := node :: inner.parts } :: outer }
  | [] => { draft with root := some node }

/-- The names after a node with this anchor, and the slot of the node. -/
def bind (draft : Draft) (anchor : Option (List Char)) : Names × Option Nat :=
  match anchor with
  | some name => (draft.names.bind name, some draft.names.length)
  | none => (draft.names, none)

def openNode (draft : Draft) (mark : Mark) (anchor : Option (List Char)) (tag : Option Tag)
    (isMapping : Bool) : Draft :=
  let (names, slot) := draft.bind anchor
  let node := ⟨mark, tag, isMapping, slot, draft.position, []⟩
  { draft with names, opened := node :: draft.opened }

/-- A node that has a slot is kept for its aliases. -/
def keep (draft : Draft) (slot : Option Nat) (position : Nat) (node : Node) : Draft :=
  match slot with
  | some slot => { draft with anchored := ⟨slot, position, node⟩ :: draft.anchored }
  | none => draft

def closeNode (draft : Draft) : Draft :=
  match draft.opened with
  | inner :: outer =>
      ({ draft with opened := outer }.keep inner.slot inner.position inner.close).put inner.close
  | [] => draft

/-- The draft after one more event. An alias needs an anchor before it. -/
def event (draft : Draft) (event : Event) : Except Malformed Draft := do
  let draft ←
    match event.kind with
    | .alias name =>
        match draft.names.lookup name with
        | some slot => pure (draft.put (.alias event.mark slot))
        | none => .error ⟨.unknownAnchor, event.mark⟩
    | .scalar anchor tag style text =>
        let (names, slot) := draft.bind anchor
        let node := Node.scalar event.mark tag style text
        pure (({ draft with names }.keep slot draft.position node).put node)
    | .sequenceStart anchor tag => pure (draft.openNode event.mark anchor tag false)
    | .mappingStart anchor tag => pure (draft.openNode event.mark anchor tag true)
    | .sequenceEnd | .mappingEnd => pure draft.closeNode
  pure { draft with position := draft.position + 1 }

end Draft

namespace Document

def ofEvents (events : List Event) : Except Malformed Document := do
  let draft ← events.foldlM Draft.event ⟨0, [], [], [], none⟩
  pure ⟨draft.root, draft.anchored, events.length⟩

/-- The only document of a text. -/
def ofText (text : String) : Except Malformed Document :=
  match spots? text with
  | none => .error ⟨.characterNotAdmitted, .start⟩
  | some spots => do ofEvents (← Event.ofTokens (← Token.stream spots))

end Document

end MetricBoard.Yaml
