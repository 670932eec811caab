import MetricBoard.Yaml.Document
import MetricBoard.Yaml.Problem

/-!
# Reading a document

How nodes are read as texts, as trees of values, and as mappings from texts to values. Aliases
are followed where a node is read and nowhere else, and are counted on the way: a document may
follow so many in all. Collections may be nested so deep; what is not read counts for neither.
-/

namespace MetricBoard.Yaml

/-- A reading: it counts the aliases followed and ends with the first problem. -/
abbrev Reading := StateT Nat (Except Problem)

/-- How deep the collections that are read may be nested. -/
def depthLimit : Nat := 128

/-- How many aliases may be followed for each event of a document. -/
def aliasesPerEvent : Nat := 100

namespace Document

/-- The node itself, or the one that an alias refers to. -/
def follow (document : Document) (node : Node) : Reading Node := do
  match node with
  | .alias _ slot =>
      let followed := (← get) + 1
      if document.size * aliasesPerEvent < followed then throw .tooManyAliases
      else
        set followed
        pure ((document.target? slot).getD node)
  | node => pure node

/-- The problem that a node has another shape than wanted. A scalar whose tag forces a kind
that its text does not spell is reported as that. -/
def misfit (node : Node) (path : Path) (wanted : String) : Problem :=
  match node with
  | .scalar mark tag style text =>
      match Scalar.resolve tag style text with
      | .ok value => .complaint (.wrongShape (.scalar value) wanted) path mark
      | .error kind => .complaint (.unfitText text kind) path mark
  | .sequence mark .. => .complaint (.wrongShape .sequence wanted) path mark
  | .mapping mark .. => .complaint (.wrongShape .mapping wanted) path mark
  | .alias mark _ => .complaint (.wrongShape (.scalar .null) wanted) path mark

def readText (document : Document) (wanted : String) (path : Path) (node : Node) :
    Reading String := do
  match ← document.follow node with
  | .scalar _ _ _ text => pure text
  | other => throw (misfit other path wanted)

/-- The path to the value under a key. -/
def under (path : Path) (key : Node) : Path :=
  match key with
  | .scalar _ _ _ text => .field path text
  | _ => .unnamed path

/-- The items of a sequence in order; `index` is that of the first. -/
def readItems {α : Type} (read : Path → Node → Reading α) (path : Path) :
    (index : Nat) → List Node → Reading (List α)
  | _, [] => pure []
  | index, item :: items => do
      let value ← read (.item path index) item
      let values ← readItems read path (index + 1) items
      pure (value :: values)

/-- The entries of a mapping in order. A key that is the same as an earlier one, of those in
`earlier`, is refused before its value is read. -/
def readEntries (read : Path → Node → Reading Value) (path : Path) (mark : Mark) :
    (earlier : List Value) → List (Node × Node) → Reading (List (Value × Value))
  | _, [] => pure []
  | earlier, (keyNode, valueNode) :: entries => do
      let key ← read path keyNode
      match earlier.find? (·.same key) with
      | some first => throw (.complaint (.repeatedKey (.of first)) path mark)
      | none =>
          let value ← read (under path keyNode) valueNode
          let rest ← readEntries read path mark (key :: earlier) entries
          pure ((key, value) :: rest)

/-- The value under the local tag of its node, if there is one. -/
def underTag (tag : Option Tag) (value : Value) : Value :=
  match tag.bind Tag.localName? with
  | some name => .tagged name value
  | none => value

def scalarValue (node : Node) (path : Path) : Scalar → Except Problem Value
  | .null => .ok .null
  | .boolean value => .ok (.boolean value)
  | .integer value => .ok (.number (.integer value))
  | .wideInteger _ => .error (misfit node path "any YAML value")
  | .float value => .ok (.number (.float value))
  | .text value => .ok (.text value)

/-- The value of a node; `inner` reads what is inside collections, where there is depth left. -/
def readLayer (document : Document) (inner : Option (Path → Node → Reading Value)) (path : Path)
    (node : Node) : Reading Value := do
  match ← document.follow node with
  | .scalar mark tag style text =>
      match Scalar.resolve tag style text with
      | .error kind => throw (.complaint (.unfitText text kind) path mark)
      | .ok scalar =>
          let value ← scalarValue (.scalar mark tag style text) path scalar
          pure (underTag tag value)
  | .sequence mark tag items =>
      match inner with
      | none => throw (.tooDeep mark)
      | some read => do
          let items ← readItems read path 0 items
          pure (underTag tag (.sequence items))
  | .mapping mark tag entries =>
      match inner with
      | none => throw (.tooDeep mark)
      | some read => do
          let entries ← readEntries read path mark [] entries
          pure (underTag tag (.mapping entries))
  | .alias .. => pure .null

/-- The tree of values of a node, with collections nested at most `depth` deep. -/
def readValue (document : Document) : (depth : Nat) → Path → Node → Reading Value
  | 0 => document.readLayer none
  | depth + 1 => document.readLayer (some (document.readValue depth))

/-- The entries of a mapping whose keys are texts, in order and with all repetitions. -/
def readTextEntries (document : Document) (depth : Nat) (path : Path) :
    List (Node × Node) → Reading (List (String × Value))
  | [] => pure []
  | (keyNode, valueNode) :: entries => do
      let key ← document.readText "a string" path keyNode
      let value ← document.readValue depth (under path keyNode) valueNode
      let rest ← document.readTextEntries depth path entries
      pure ((key, value) :: rest)

end Document

end MetricBoard.Yaml
