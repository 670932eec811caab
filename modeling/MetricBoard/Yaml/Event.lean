import MetricBoard.Yaml.Malformed
import MetricBoard.Yaml.Tag

/-!
# Events

What a document consists of in the order of its text: scalars, aliases, and the starts and
ends of sequences and mappings. The tokens are read by a stack of expectations; each step
looks at one token and replaces the topmost expectation by those that follow from it.
-/

namespace MetricBoard.Yaml

inductive EventKind where
  | alias (name : List Char)
  | scalar (anchor : Option (List Char)) (tag : Option Tag) (style : ScalarStyle) (text : String)
  | sequenceStart (anchor : Option (List Char)) (tag : Option Tag)
  | sequenceEnd
  | mappingStart (anchor : Option (List Char)) (tag : Option Tag)
  | mappingEnd
  deriving DecidableEq, Repr

structure Event where
  kind : EventKind
  mark : Mark
  deriving DecidableEq, Repr

/-- The scalar where nothing is written. -/
def Event.absent (mark : Mark) : Event := ⟨.scalar none none .plain "", mark⟩

/-- What may come next. -/
inductive Expectation where
  /-- A node; `block` allows block collections, and `indentless` a sequence whose dashes stand
  in the column of the mapping around it. -/
  | node (block indentless : Bool)
  /-- The node of a document that started with a marker. -/
  | body
  /-- A further item of a block sequence, or its end. -/
  | item
  /-- A further item of an indentless sequence, or what follows it. -/
  | indentlessItem
  | blockKey
  | blockValue
  | flowItem (first : Bool)
  /-- The key, the value and the end of a mapping of one entry inside brackets. -/
  | pairKey
  | pairValue
  | pairEnd
  | flowKey (first : Bool)
  | flowValue
  /-- The absent value of an entry without a colon. -/
  | noValue
  deriving DecidableEq, Repr

/-- What the handles of tags stand for. -/
abbrev Handles := List (Octets × Octets)

structure Reader where
  expected : List Expectation
  tokens : List Token
  handles : Handles

/-- The anchor and the tag before a node, and where they begin. -/
structure Properties where
  anchor : Option (List Char)
  tag : Option (Octets × Octets × Mark)
  mark : Option Mark

/-- The properties at the front: an anchor, a tag, or both in either order. -/
def properties : List Token → Properties × List Token
  | ⟨.anchor name, start, _⟩ :: ⟨.tag handle suffix, tagStart, _⟩ :: rest =>
      (⟨some name, some (handle, suffix, tagStart), some start⟩, rest)
  | ⟨.tag handle suffix, start, _⟩ :: ⟨.anchor name, _, _⟩ :: rest =>
      (⟨some name, some (handle, suffix, start), some start⟩, rest)
  | ⟨.anchor name, start, _⟩ :: rest => (⟨some name, none, some start⟩, rest)
  | ⟨.tag handle suffix, start, _⟩ :: rest =>
      (⟨none, some (handle, suffix, start), some start⟩, rest)
  | rest => (⟨none, none, none⟩, rest)

/-- The tag in full: a tag without a handle is its suffix. -/
def fullTag (handles : Handles) :
    Option (Octets × Octets × Mark) → Except Malformed (Option Tag)
  | none => .ok none
  | some (handle, suffix, mark) =>
      if handle.isEmpty then .ok (some ⟨suffix⟩)
      else
        match handles.lookup handle with
        | some lead => .ok (some ⟨lead ++ suffix⟩)
        | none => .error ⟨.unknownTagHandle, mark⟩

namespace Reader

/-- One step: the reading that goes on, and the event that the step produced. -/
abbrev Step := Except Malformed (Reader × Option Event)

/-- The topmost expectation is met by an event, and `tokens` remain. -/
def met (reader : Reader) (event : Event) (expected : List Expectation) (tokens : List Token) :
    Step :=
  .ok ({ reader with expected, tokens }, some event)

/-- The topmost expectation gives way to others without an event. -/
def expect (reader : Reader) (expected : List Expectation) (tokens : List Token) : Step :=
  .ok ({ reader with expected, tokens }, none)

def unfit (mark : Mark) : Step := .error ⟨.unexpectedToken, mark⟩

/-- The step for a node with its properties; `outer` are the expectations around it. -/
def node (reader : Reader) (block indentless : Bool) (outer : List Expectation) : Step := do
  let (properties, tokens) := properties reader.tokens
  match tokens with
  | [] => .error ⟨.unfinished, .start⟩
  | token :: rest =>
      let mark := properties.mark.getD token.start
      let anchor := properties.anchor
      let tag ← fullTag reader.handles properties.tag
      match token.kind with
      | .dash =>
          if indentless then
            reader.met ⟨.sequenceStart anchor tag, mark⟩ (.indentlessItem :: outer) tokens
          else if properties.mark.isSome then
            reader.met ⟨.scalar anchor tag .plain "", mark⟩ outer tokens
          else unfit token.start
      | .scalar style text => reader.met ⟨.scalar anchor tag style text, mark⟩ outer rest
      | .openBracket => reader.met ⟨.sequenceStart anchor tag, mark⟩ (.flowItem true :: outer) rest
      | .openBrace => reader.met ⟨.mappingStart anchor tag, mark⟩ (.flowKey true :: outer) rest
      | kind =>
          if block && kind == .blockSequence then
            reader.met ⟨.sequenceStart anchor tag, mark⟩ (.item :: outer) rest
          else if block && kind == .blockMapping then
            reader.met ⟨.mappingStart anchor tag, mark⟩ (.blockKey :: outer) rest
          else if properties.mark.isSome then
            reader.met ⟨.scalar anchor tag .plain "", mark⟩ outer tokens
          else unfit token.start

/-- The kinds of token before which the node of a document is absent. -/
def endsBody : TokenKind → Bool
  | .version .. | .tagHandle .. | .documentStart | .documentEnd | .streamEnd => true
  | _ => false

/-- The kinds of token before which a part of a block mapping is absent. -/
def endsEntryPart : TokenKind → Bool
  | .key | .value | .blockEnd => true
  | _ => false

/-- A step at the given token, with the tokens after it; `outer` are the expectations around
the topmost one. -/
def stepAt (reader : Reader) (top : Expectation) (outer : List Expectation) (token : Token)
    (rest : List Token) : Step :=
  let here := token :: rest
  let next := rest.head?.map (·.kind)
  let nextIs (test : TokenKind → Bool) : Bool := next.any test
  match top with
  | .node block indentless =>
      match token.kind with
      | .alias name => reader.met ⟨.alias name, token.start⟩ outer rest
      | _ => reader.node block indentless outer
  | .body =>
      if endsBody token.kind then reader.met (.absent token.start) outer here
      else reader.expect (.node true false :: outer) here
  | .item =>
      match token.kind with
      | .dash =>
          if nextIs fun kind => kind == .dash || kind == .blockEnd then
            reader.met (.absent token.stop) (.item :: outer) rest
          else reader.expect (.node true false :: .item :: outer) rest
      | .blockEnd => reader.met ⟨.sequenceEnd, token.start⟩ outer rest
      | _ => unfit token.start
  | .indentlessItem =>
      match token.kind with
      | .dash =>
          if nextIs fun kind => kind == .dash || endsEntryPart kind then
            reader.met (.absent token.stop) (.indentlessItem :: outer) rest
          else reader.expect (.node true false :: .indentlessItem :: outer) rest
      | _ => reader.met ⟨.sequenceEnd, token.start⟩ outer here
  | .blockKey =>
      match token.kind with
      | .key =>
          if nextIs endsEntryPart then
            reader.met (.absent token.stop) (.blockValue :: outer) rest
          else reader.expect (.node true true :: .blockValue :: outer) rest
      | .blockEnd => reader.met ⟨.mappingEnd, token.start⟩ outer rest
      | _ => unfit token.start
  | .blockValue =>
      match token.kind with
      | .value =>
          if nextIs endsEntryPart then
            reader.met (.absent token.stop) (.blockKey :: outer) rest
          else reader.expect (.node true true :: .blockKey :: outer) rest
      | _ => reader.met (.absent token.start) (.blockKey :: outer) here
  | .flowItem first =>
      match token.kind with
      | .closeBracket => reader.met ⟨.sequenceEnd, token.start⟩ outer rest
      | .comma =>
          if first then unfit token.start else reader.expect (.flowItem true :: outer) rest
      | kind =>
          if !first then unfit token.start
          else if kind == .key then
            reader.met ⟨.mappingStart none none, token.start⟩
              (.pairKey :: .flowItem false :: outer) rest
          else reader.expect (.node false false :: .flowItem false :: outer) here
  | .pairKey =>
      match token.kind with
      | .value | .comma | .closeBracket =>
          reader.met (.absent token.stop) (.pairValue :: outer) rest
      | _ => reader.expect (.node false false :: .pairValue :: outer) here
  | .pairValue =>
      match token.kind with
      | .value =>
          match rest with
          | ⟨.comma, start, _⟩ :: _ | ⟨.closeBracket, start, _⟩ :: _ =>
              reader.met (.absent start) (.pairEnd :: outer) rest
          | _ => reader.expect (.node false false :: .pairEnd :: outer) rest
      | _ => reader.met (.absent token.start) (.pairEnd :: outer) here
  | .pairEnd => reader.met ⟨.mappingEnd, token.start⟩ outer here
  | .flowKey first =>
      match token.kind with
      | .closeBrace => reader.met ⟨.mappingEnd, token.start⟩ outer rest
      | .comma =>
          if first then unfit token.start else reader.expect (.flowKey true :: outer) rest
      | kind =>
          if !first then unfit token.start
          else if kind == .key then
            match rest with
            | ⟨.value, start, _⟩ :: _ | ⟨.comma, start, _⟩ :: _ | ⟨.closeBrace, start, _⟩ :: _ =>
                reader.met (.absent start) (.flowValue :: outer) rest
            | _ => reader.expect (.node false false :: .flowValue :: outer) rest
          else reader.expect (.node false false :: .noValue :: outer) here
  | .flowValue =>
      match token.kind with
      | .value =>
          match rest with
          | ⟨.comma, start, _⟩ :: _ | ⟨.closeBrace, start, _⟩ :: _ =>
              reader.met (.absent start) (.flowKey false :: outer) rest
          | _ => reader.expect (.node false false :: .flowKey false :: outer) rest
      | _ => reader.met (.absent token.start) (.flowKey false :: outer) here
  | .noValue => reader.met (.absent token.start) (.flowKey false :: outer) here

/-- The events up to the point where nothing more is expected. No token is looked at more
than a few times, so that `fuel` is a small multiple of their number. -/
def run : (fuel : Nat) → Reader → Except Malformed (List Event × List Token)
  | 0, reader => .error ⟨.unfinished, (reader.tokens.head?.map (·.start)).getD .start⟩
  | fuel + 1, reader =>
      match reader.expected, reader.tokens with
      | [], tokens => .ok ([], tokens)
      | _, [] => .error ⟨.unfinished, .start⟩
      | top :: outer, token :: rest => do
          let (reader, event) ← reader.stepAt top outer token rest
          let (events, tokens) ← run fuel reader
          pure (event.toList ++ events, tokens)

end Reader

def standardHandles : Handles :=
  [(Tag.octetsOf "!", Tag.octetsOf "!"), (Tag.octetsOf "!!", Tag.octetsOf Tag.coreLead)]

/-- The directives in front, of which `version` says whether one gave a version, and the
handles that they define. -/
def directives (version : Bool) (handles : Handles) :
    List Token → Except Malformed (Handles × List Token)
  | [] => .ok (handles, [])
  | token :: rest =>
      match token.kind with
      | .version major minor =>
          if version then .error ⟨.repeatedDirective, token.start⟩
          else if major == 1 && (minor == 1 || minor == 2) then directives true handles rest
          else .error ⟨.unsupportedVersion, token.start⟩
      | .tagHandle handle lead =>
          if (handles.lookup handle).isSome then .error ⟨.repeatedDirective, token.start⟩
          else directives version (handles ++ [(handle, lead)]) rest
      | _ => .ok (handles, token :: rest)

/-- What a document begins with: its handles, whether a marker starts it, and its tokens. -/
def opening (tokens : List Token) : Except Malformed (Handles × Bool × List Token) := do
  let (handles, rest) ← directives false [] tokens
  let handles := handles ++ standardHandles
  match rest with
  | [] => .error ⟨.unfinished, .start⟩
  | token :: after =>
      if token.kind == .documentStart then pure (handles, true, after)
      else if rest.length == tokens.length then pure (handles, false, rest)
      else .error ⟨.unexpectedToken, token.start⟩

def closing (tokens : List Token) : Except Malformed Unit :=
  match tokens.dropWhile (·.kind == .documentEnd) with
  | ⟨.streamEnd, _, _⟩ :: _ => .ok ()
  | token :: _ => .error ⟨.severalDocuments, token.start⟩
  | [] => .error ⟨.unfinished, .start⟩

/-- The events of the only document; none where there is no document. -/
def Event.ofTokens (tokens : List Token) : Except Malformed (List Event) := do
  if (tokens.head?.map (·.kind)) == some .streamEnd then pure []
  else
    let (handles, marked, rest) ← opening tokens
    let expected := if marked then Expectation.body else .node true false
    let (events, rest) ← (Reader.mk [expected] rest handles).run (8 * tokens.length + 8)
    closing rest
    pure events

end MetricBoard.Yaml
