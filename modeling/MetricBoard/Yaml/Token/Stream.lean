import MetricBoard.Yaml.Token.Block
import MetricBoard.Yaml.Token.Directive
import MetricBoard.Yaml.Token.Plain
import MetricBoard.Yaml.Token.Quoted

/-!
# The tokens of a text

Tokens are read from left to right and only ever appended. Whether a token starts a key is
known when the colon comes; what the colon then says about an earlier position is kept beside
the tokens and put between them at the end.
-/

namespace MetricBoard.Yaml

/-- A token that will have been a key if a colon follows soon enough. -/
structure PossibleKey where
  /-- The block cannot go on here without a key. -/
  required : Bool
  /-- How many tokens were read before it. -/
  position : Nat
  mark : Mark

structure FoundKey where
  position : Nat
  /-- The key is the first of a block mapping. -/
  opensMapping : Bool
  mark : Mark

def longestKey : Nat := 1024

structure Lexer where
  rest : List Spot
  /-- The tokens read, latest first. -/
  tokens : List Token
  /-- How many tokens have been read. -/
  count : Nat
  /-- The keys found, latest first. -/
  found : List FoundKey
  /-- The columns of the open blocks, innermost first. -/
  columns : List Nat
  /-- The possible key on the innermost level of brackets. -/
  key : Option PossibleKey
  /-- The possible keys on the levels around it. -/
  outerKeys : List (Option PossibleKey)
  /-- A key may start here. -/
  keyAllowed : Bool

namespace Lexer

def start (spots : List Spot) : Lexer := ⟨spots, [], 0, [], [], none, [], true⟩

def mark (lexer : Lexer) : Mark := here lexer.rest

def inFlow (lexer : Lexer) : Bool := !lexer.outerKeys.isEmpty

/-- The column at which the content of the innermost block starts at the earliest. -/
def margin (lexer : Lexer) : Nat :=
  match lexer.columns with
  | [] => 0
  | column :: _ => column + 1

def emit (lexer : Lexer) (token : Token) : Lexer :=
  { lexer with tokens := token :: lexer.tokens, count := lexer.count + 1 }

/-- The possible key can no longer become one at this place: it lies on an earlier line or too
far back. -/
def isStale (place : Mark) (key : PossibleKey) : Bool :=
  key.mark.line < place.line || key.mark.offset + longestKey < place.offset

/-- A possible key that is stale is given up, which a required one does not allow. -/
def refreshed (place : Mark) : Option PossibleKey → Except Malformed (Option PossibleKey)
  | none => .ok none
  | some key =>
      if !isStale place key then .ok (some key)
      else if key.required then .error ⟨.keyWithoutValue, key.mark⟩
      else .ok none

/-- The stale keys of all levels are given up. -/
def refreshKeys (lexer : Lexer) : Except Malformed Lexer := do
  let outerKeys ← lexer.outerKeys.reverse.mapM (refreshed lexer.mark)
  let key ← refreshed lexer.mark lexer.key
  pure { lexer with key, outerKeys := outerKeys.reverse }

def dropKey (lexer : Lexer) : Except Malformed Lexer :=
  match lexer.key with
  | some key =>
      if key.required then .error ⟨.keyWithoutValue, key.mark⟩
      else .ok { lexer with key := none }
  | none => .ok lexer

/-- The front may be a key, where one is allowed. -/
def noteKey (lexer : Lexer) : Except Malformed Lexer := do
  if lexer.keyAllowed then
    let lexer ← lexer.dropKey
    let required := !lexer.inFlow && lexer.margin == lexer.mark.column + 1
    pure { lexer with key := some ⟨required, lexer.count, lexer.mark⟩ }
  else pure lexer

/-- The column lies right of the innermost block, outside brackets. -/
def isDeeper (lexer : Lexer) (column : Nat) : Bool :=
  !lexer.inFlow && lexer.margin ≤ column

/-- A block opens at the front if the front is deeper than the block around it. -/
def openBlock (lexer : Lexer) (kind : TokenKind) : Lexer :=
  if lexer.isDeeper lexer.mark.column then
    { lexer with columns := lexer.mark.column :: lexer.columns }.emit (.at kind lexer.mark)
  else lexer

/-- Blocks right of the column close; `columns` are those still open. -/
def closeTo (lexer : Lexer) (mark : Mark) (least : Nat) : List Nat → Lexer
  | [] => { lexer with columns := [] }
  | column :: columns =>
      if least ≤ column then (lexer.emit (.at .blockEnd mark)).closeTo mark least columns
      else { lexer with columns := column :: columns }

/-- Outside brackets the blocks that start at column `least` or right of it close. -/
def closeBlocks (lexer : Lexer) (mark : Mark) (least : Nat) : Lexer :=
  if lexer.inFlow then lexer else lexer.closeTo mark least lexer.columns

/-- The front is a token of so many characters. -/
def take (lexer : Lexer) (kind : TokenKind) (width : Nat) : Lexer :=
  let rest := lexer.rest.drop width
  { lexer with rest }.emit ⟨kind, lexer.mark, here rest⟩

/-- Blanks, comments and line breaks at the front. A tab counts as a blank inside brackets and
where no key may start. Outside brackets a key may start on a new line. -/
def gapFrom (inFlow keyAllowed inComment : Bool) : List Spot → Bool × List Spot
  | [] => (keyAllowed, [])
  | spot :: rest =>
      if isBreak spot.char then gapFrom inFlow (keyAllowed || !inFlow) false rest
      else if spot.char == endOfText then (keyAllowed, spot :: rest)
      else if inComment then gapFrom inFlow keyAllowed true rest
      else if spot.char == ' ' || (spot.char == '\t' && (inFlow || !keyAllowed)) ||
          (spot.char == byteOrderMark && spot.mark.column == 0) then
        gapFrom inFlow keyAllowed false rest
      else if spot.char == '#' then gapFrom inFlow keyAllowed true rest
      else (keyAllowed, spot :: rest)

/-- The front moves to the next token, and what ends on the way there ends. -/
def approach (lexer : Lexer) : Except Malformed Lexer := do
  let (keyAllowed, rest) := gapFrom lexer.inFlow lexer.keyAllowed false lexer.rest
  let lexer ← { lexer with keyAllowed, rest }.refreshKeys
  pure (lexer.closeBlocks lexer.mark (lexer.mark.column + 1))

/-- Before directives and document markers all blocks close and no key is pending. -/
def leaveBlocks (lexer : Lexer) (mark : Mark) : Except Malformed Lexer := do
  let lexer ← (lexer.closeBlocks mark 0).dropKey
  pure { lexer with keyAllowed := false }

/-- The end of the text, which stands on a line of its own. -/
def finish (lexer : Lexer) : Except Malformed Lexer := do
  let mark := if lexer.mark.column == 0 then lexer.mark else lexer.mark.nextLine 0
  let lexer ← lexer.leaveBlocks mark
  pure (lexer.emit (.at .streamEnd mark))

/-- An opening bracket, which may itself start a key. -/
def openFlow (lexer : Lexer) (kind : TokenKind) : Except Malformed Lexer := do
  let lexer ← lexer.noteKey
  let lexer := { lexer with
    key := none, outerKeys := lexer.key :: lexer.outerKeys, keyAllowed := true }
  pure (lexer.take kind 1)

def closeFlow (lexer : Lexer) (kind : TokenKind) : Except Malformed Lexer := do
  let lexer ← lexer.dropKey
  let lexer :=
    match lexer.outerKeys with
    | [] => lexer
    | key :: outerKeys => { lexer with key, outerKeys }
  pure ({ lexer with keyAllowed := false }.take kind 1)

def comma (lexer : Lexer) : Except Malformed Lexer := do
  let lexer ← lexer.dropKey
  pure ({ lexer with keyAllowed := true }.take .comma 1)

/-- A dash, which outside brackets starts an item of a block sequence. -/
def dash (lexer : Lexer) : Except Malformed Lexer := do
  if !lexer.inFlow && !lexer.keyAllowed then .error ⟨.itemNotAllowed, lexer.mark⟩
  else
    let lexer ← (lexer.openBlock .blockSequence).dropKey
    pure ({ lexer with keyAllowed := true }.take .dash 1)

def explicitKey (lexer : Lexer) : Except Malformed Lexer := do
  if !lexer.inFlow && !lexer.keyAllowed then .error ⟨.keyNotAllowed, lexer.mark⟩
  else
    let lexer ← (lexer.openBlock .blockMapping).dropKey
    pure ({ lexer with keyAllowed := !lexer.inFlow }.take .key 1)

/-- A colon: the possible key before it is one, or the key was announced or is missing. -/
def colon (lexer : Lexer) : Except Malformed Lexer :=
  match lexer.key with
  | some key =>
      let opensMapping := lexer.isDeeper key.mark.column
      let columns := if opensMapping then key.mark.column :: lexer.columns else lexer.columns
      .ok ({ lexer with
        key := none
        keyAllowed := false
        columns
        found := ⟨key.position, opensMapping, key.mark⟩ :: lexer.found }.take .value 1)
  | none =>
      if !lexer.inFlow && !lexer.keyAllowed then .error ⟨.valueNotAllowed, lexer.mark⟩
      else
        let lexer := lexer.openBlock .blockMapping
        .ok ({ lexer with keyAllowed := !lexer.inFlow }.take .value 1)

/-- A token read by one of the scalar or name readers, after which no key may start. -/
def keyed (lexer : Lexer) (read : List Spot → Except Malformed (TokenKind × List Spot)) :
    Except Malformed Lexer := do
  let lexer ← lexer.noteKey
  let (kind, rest) ← read lexer.rest
  pure ({ lexer with keyAllowed := false, rest }.emit ⟨kind, lexer.mark, here rest⟩)

/-- A plain scalar. A key may start after it where a line break follows. -/
def plainScalar (lexer : Lexer) : Except Malformed Lexer := do
  let lexer ← lexer.noteKey
  let scalar ← plain lexer.inFlow lexer.margin lexer.rest
  let kind := TokenKind.scalar .plain (String.ofList scalar.text)
  pure ({ lexer with keyAllowed := scalar.crossed, rest := scalar.rest }.emit
    ⟨kind, lexer.mark, scalar.stop⟩)

/-- A block scalar, which is no key and after which a key may start. -/
def blockText (lexer : Lexer) (style : ScalarStyle) : Except Malformed Lexer := do
  let lexer ← lexer.dropKey
  let (text, rest) ← blockScalar (style == .folded) lexer.margin lexer.rest
  pure ({ lexer with keyAllowed := true, rest }.emit
    ⟨.scalar style (String.ofList text), lexer.mark, here rest⟩)

def quotedToken (style : ScalarStyle) (read : List Spot → Except Malformed QuotedScalar)
    (spots : List Spot) : Except Malformed (TokenKind × List Spot) := do
  let scalar ← read spots
  pure (.scalar style (String.ofList scalar.text), scalar.rest)

def nameToken (kind : List Char → TokenKind) (spots : List Spot) :
    Except Malformed (TokenKind × List Spot) := do
  let (name, rest) ← anchorName spots
  pure (kind name, rest)

def tagToken (inFlow : Bool) (spots : List Spot) :
    Except Malformed (TokenKind × List Spot) := do
  let (token, rest) ← tag inFlow spots
  pure (token.kind, rest)

/-- A plain scalar can start with the character at the front. -/
def startsPlain (inFlow : Bool) (spots : List Spot) : Bool :=
  let c := front spots
  let next := second spots
  (c == '-' && !isBlank next) ||
    (!inFlow && (c == '?' || c == ':') && !isGap next) ||
    !(isGap c || "-?:,[]#&*!|>%@\x60\x7b\x7d\x27\x22".toList.contains c)

/-- The token at the front, which is not the end of the text. -/
def token (lexer : Lexer) : Except Malformed Lexer := do
  let spots := lexer.rest
  let c := front spots
  let indicator := lexer.inFlow || isGap (second spots)
  if lexer.mark.column == 0 && c == '%' then
    let lexer ← lexer.leaveBlocks lexer.mark
    let (token, rest) ← directive spots
    pure ({ lexer with rest }.emit token)
  else if isMarkerOf '-' spots then
    pure ((← lexer.leaveBlocks lexer.mark).take .documentStart 3)
  else if isMarkerOf '.' spots then
    pure ((← lexer.leaveBlocks lexer.mark).take .documentEnd 3)
  else if c == '[' then lexer.openFlow .openBracket
  else if c == '{' then lexer.openFlow .openBrace
  else if c == ']' then lexer.closeFlow .closeBracket
  else if c == '}' then lexer.closeFlow .closeBrace
  else if c == ',' then lexer.comma
  else if c == '-' && isGap (second spots) then lexer.dash
  else if c == '?' && indicator then lexer.explicitKey
  else if c == ':' && indicator then lexer.colon
  else if c == '*' then lexer.keyed (nameToken .alias)
  else if c == '&' then lexer.keyed (nameToken .anchor)
  else if c == '!' then lexer.keyed (tagToken lexer.inFlow)
  else if c == '|' && !lexer.inFlow then lexer.blockText .literal
  else if c == '>' && !lexer.inFlow then lexer.blockText .folded
  else if c == singleQuote then lexer.keyed (quotedToken .singleQuoted singleQuoted)
  else if c == doubleQuote then lexer.keyed (quotedToken .doubleQuoted doubleQuoted)
  else if startsPlain lexer.inFlow spots then lexer.plainScalar
  else .error ⟨.noTokenStarts, lexer.mark⟩

/-- All tokens up to the end. Every token takes at least one character, so that `fuel` need
not exceed the number of spots. -/
def run : (fuel : Nat) → Lexer → Except Malformed Lexer
  | 0, lexer => .error ⟨.unfinished, lexer.mark⟩
  | fuel + 1, lexer => do
      let lexer ← lexer.approach
      if front lexer.rest == endOfText then lexer.finish
      else run fuel (← lexer.token)

end Lexer

/-- The tokens that a found key puts before the token at its position. -/
def FoundKey.tokens (key : FoundKey) : List Token :=
  if key.opensMapping then [.at .blockMapping key.mark, .at .key key.mark]
  else [.at .key key.mark]

/-- Tokens with the found keys between them; `position` is that of the first token, and the
keys are in the order of their positions. -/
def withKeys : (position : Nat) → List FoundKey → List Token → List Token
  | _, _, [] => []
  | position, [], token :: tokens => token :: withKeys (position + 1) [] tokens
  | position, key :: keys, token :: tokens =>
      if key.position == position then
        key.tokens ++ token :: withKeys (position + 1) keys tokens
      else token :: withKeys (position + 1) (key :: keys) tokens

def Token.stream (spots : List Spot) : Except Malformed (List Token) := do
  let lexer ← (Lexer.start spots).run (spots.length + 1)
  let keys := lexer.found.mergeSort fun a b => a.position ≤ b.position
  pure (withKeys 0 keys lexer.tokens.reverse)

end MetricBoard.Yaml
