import MetricBoard.Number.Digits
import MetricBoard.Yaml.Malformed

/-!
# Block scalars

A literal or folded scalar: a header with an optional indentation and an optional rule for the
breaks at the end, and then lines that are indented alike. A literal scalar keeps its breaks;
a folded one joins two lines of text that both start without a blank.
-/

namespace MetricBoard.Yaml

/-- What becomes of the line breaks after the last line. -/
inductive Chomping where
  | strip
  | clip
  | keep
  deriving DecidableEq, Repr

structure BlockHeader where
  chomping : Chomping
  /-- How much further than its parent the scalar is indented, where that is said. -/
  increment : Option Nat
  deriving DecidableEq, Repr

/-- The rule for the last breaks, if it stands at the front. -/
def chompingAt (spots : List Spot) : Option Chomping :=
  if front spots == '+' then some .keep
  else if front spots == '-' then some .strip
  else none

/-- The indentation, if it stands at the front; zero is refused. -/
def incrementAt (spots : List Spot) : Except Malformed (Option Nat) :=
  match Number.digitIn 10 (front spots) with
  | some 0 => .error ⟨.indentationOfZero, here spots⟩
  | found => .ok found

/-- The header of a block scalar, its parts in either order, and what follows them. -/
def blockHeader (spots : List Spot) : Except Malformed (BlockHeader × List Spot) := do
  match chompingAt spots with
  | some chomping =>
      let spots := spots.drop 1
      match ← incrementAt spots with
      | some increment => pure (⟨chomping, some increment⟩, spots.drop 1)
      | none => pure (⟨chomping, none⟩, spots)
  | none =>
      match ← incrementAt spots with
      | some increment =>
          let spots := spots.drop 1
          match chompingAt spots with
          | some chomping => pure (⟨chomping, some increment⟩, spots.drop 1)
          | none => pure (⟨.clip, some increment⟩, spots)
      | none => pure (⟨.clip, none⟩, spots)

structure BlockText where
  folded : Bool
  /-- No block scalar is indented less than this. -/
  leastIndent : Nat
  /-- The indentation, once it is known. -/
  indent : Option Nat
  /-- The deepest indentation before it is known. -/
  deepest : Nat
  /-- The text, latest character first. -/
  text : List Char
  /-- The break that ended the last line. -/
  lineBreak : List Char
  /-- The breaks of the empty lines since, latest first. -/
  emptyLines : List Char
  /-- The last line started with a blank. -/
  afterBlank : Bool

namespace BlockText

def isLeft (block : BlockText) (column : Nat) : Bool :=
  block.indent.all (column < ·)

/-- The indentation is settled at the first line that holds more than spaces. -/
def settled (block : BlockText) (column : Nat) : BlockText :=
  if block.indent.isSome then block
  else { block with indent := some (max (max block.deepest column) block.leastIndent) }

def emptyLine (block : BlockText) (column : Nat) (c : Char) : BlockText :=
  { block with deepest := max block.deepest column, emptyLines := c :: block.emptyLines }

/-- A line starts with `c`; the breaks before it are joined to the text. -/
def startLine (block : BlockText) (c : Char) : BlockText :=
  let fold := block.folded && block.lineBreak == ['\n'] && !block.afterBlank && !isBlank c
  let joint :=
    if fold then (if block.emptyLines.isEmpty then [' '] else []) else block.lineBreak
  { block with
    text := c :: (block.emptyLines ++ joint ++ block.text)
    lineBreak := []
    emptyLines := []
    afterBlank := isBlank c }

/-- The whole text, with the breaks at the end that the rule keeps. -/
def close (block : BlockText) (chomping : Chomping) : List Char :=
  match chomping with
  | .strip => block.text.reverse
  | .clip => (block.lineBreak ++ block.text).reverse
  | .keep => (block.emptyLines ++ block.lineBreak ++ block.text).reverse

end BlockText

/-- The lines of a block scalar. `inLine` says that the front stands inside a line of text and
not in the indentation before one. -/
def blockLines (block : BlockText) (inLine : Bool) :
    List Spot → Except Malformed (BlockText × List Spot)
  | [] => .ok (block, [])
  | spot :: rest =>
      let column := spot.mark.column
      if inLine then
        if isBreak spot.char then
          blockLines { block with lineBreak := [spot.char] } false rest
        else if spot.char == endOfText then .ok (block, spot :: rest)
        else blockLines { block with text := spot.char :: block.text } true rest
      else if spot.char == ' ' && block.isLeft column then blockLines block false rest
      else if spot.char == '\t' && block.isLeft column then
        .error ⟨.tabInIndentation, spot.mark⟩
      else if isBreak spot.char then
        blockLines (block.emptyLine column spot.char) false rest
      else
        let block := block.settled column
        if block.indent == some column && spot.char != endOfText then
          blockLines (block.startLine spot.char) true rest
        else .ok (block, spot :: rest)

/-- The block scalar whose indicator is at the front, in a block whose content stands at the
margin or beyond. -/
def blockScalar (folded : Bool) (margin : Nat) (spots : List Spot) :
    Except Malformed (List Char × List Spot) := do
  let (header, spots) ← blockHeader (spots.drop 1)
  match restOfLine? spots with
  | none => .error ⟨.textAfterHeader, here spots⟩
  | some spots =>
      let block : BlockText :=
        { folded
          leastIndent := max margin 1
          indent := header.increment.map (margin - 1 + ·)
          deepest := 0
          text := []
          lineBreak := []
          emptyLines := []
          afterBlank := false }
      let (block, rest) ← blockLines block false spots
      pure (block.close header.chomping, rest)

end MetricBoard.Yaml
