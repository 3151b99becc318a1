import Sidecar.Yaml.Token.Scanner

/-!
# Yaml/Event — from tokens to the shape of documents

Events tell the shape that the tokens give: documents, collections, scalars and aliases, one after
another.  A `Reader` makes them; what it expects next is a `Phase`, and the phases of the
collections around are on a stack.
-/

namespace Sidecar.Yaml

/-- A scalar, with the tag that it bears. -/
structure Scalar where
  text : List Char
  style : Style
  tag : Option (List Char)
deriving DecidableEq, Repr

/-- What an event says of the document. -/
inductive Event.Kind where
  | streamStart
  | streamEnd
  | documentStart
  | documentEnd
  | alias (name : List Char)
  | scalar (anchor : Option (List Char)) (scalar : Scalar)
  | sequenceStart (anchor : Option (List Char))
  | sequenceEnd
  | mappingStart (anchor : Option (List Char))
  | mappingEnd
deriving DecidableEq, Repr

/-- An event and the place where it begins. -/
structure Event where
  kind : Event.Kind
  position : Position
deriving DecidableEq, Repr

/-- What a reader expects next. -/
inductive Phase where
  | streamStart
  /-- A document; the flag tells whether it may begin without a mark. -/
  | document (mayBeBare : Bool)
  | documentContent
  | documentEnd
  | blockNode
  | blockSequenceFirst
  | blockSequenceEntry
  | indentlessEntry
  | blockMappingFirst
  | blockMappingKey
  | blockMappingValue
  | flowSequenceFirst
  | flowSequenceEntry
  | flowPairKey
  | flowPairValue
  | flowPairEnd
  | flowMappingFirst
  | flowMappingKey
  | flowMappingValue
  | flowMappingNoValue
  | finished
deriving DecidableEq, Repr

/-- What is left to read, and what the reader is in the midst of. -/
structure Reader where
  tokens : List Token
  /-- The fault behind the last token, if there is one. -/
  fault : Option SyntaxError
  phase : Phase
  /-- The phases to return to. -/
  outer : List Phase
  /-- Where the collections around began. -/
  starts : List Position
  /-- What the handles of tags stand for. -/
  handles : List (List Char × List Char)

namespace Reader

/-- **A step gives one event**, or fails. -/
abbrev Step := Except SyntaxError (Event × Reader)

/-- The reader of a text, before its first event. -/
def start (text : String) : Reader :=
  let (tokens, fault) := Token.scan text
  { tokens, fault, phase := .streamStart, outer := [], starts := [], handles := [] }

/-- The next token. -/
def peek (r : Reader) : Except SyntaxError Token :=
  match r.tokens, r.fault with
  | t :: _, _ => .ok t
  | [], some e => .error e
  | [], none => .error (.plain "did not find expected node content" .start)

/-- The reader past its next token. -/
def skip (r : Reader) : Reader := { r with tokens := r.tokens.drop 1 }

/-- Returns to the phase around. -/
def leave (r : Reader) : Reader :=
  match r.outer with
  | [] => { r with phase := .finished }
  | phase :: outer => { r with phase, outer }

/-- Comes back to a phase after the next node. -/
def returnTo (r : Reader) (phase : Phase) : Reader := { r with outer := phase :: r.outer }

/-- The reader in another phase. -/
def go (r : Reader) (phase : Phase) : Reader := { r with phase }

/-- Ends a collection. -/
def close (r : Reader) : Reader := { r.leave with starts := r.starts.drop 1 }

/-- Where the innermost collection began. -/
def opened (r : Reader) : Position := r.starts.headD .start

/-- An empty scalar, as it stands for what is left out. -/
def emptyScalar (p : Position) : Event := ⟨.scalar none ⟨[], .plain, none⟩, p⟩

/-! ## Nodes -/

/-- Reads the anchor and the tag in front of a node, in either order; gives the place where they
begin, and the tag with the place where it stands. -/
def properties (r : Reader) :
    Except SyntaxError (Option (List Char) × Option (List Char × List Char × Position) × Position
      × Reader) := do
  let t ← r.peek
  match t.kind with
  | .anchor name =>
    let r := r.skip
    let u ← r.peek
    match u.kind with
    | .tag handle rest => return (some name, some (handle, rest, u.start), t.start, r.skip)
    | _ => return (some name, none, t.start, r)
  | .tag handle rest =>
    let r := r.skip
    let u ← r.peek
    match u.kind with
    | .anchor name => return (some name, some (handle, rest, t.start), t.start, r.skip)
    | _ => return (none, some (handle, rest, t.start), t.start, r)
  | _ => return (none, none, t.start, r)

/-- A tag with its handle replaced by what it stands for. -/
def resolveTag (r : Reader) (start : Position) :
    Option (List Char × List Char × Position) → Except SyntaxError (Option (List Char))
  | none => .ok none
  | some (handle, rest, p) =>
    if handle.isEmpty then .ok (some rest)
    else
      match r.handles.lookup handle with
      | some replacement => .ok (some (replacement ++ rest))
      | none => .error (.within "while parsing a node" start "found undefined tag handle" p)

/-- A node: an alias, a scalar or the start of a collection.  Collections of blocks are nodes only
if `isBlock`; **a sequence may stand without indentation only as the value or key of a mapping.** -/
def node (r : Reader) (isBlock mayBeIndentless : Bool) : Step := do
  let first ← r.peek
  match first.kind with
  | .alias name => return (⟨.alias name, first.start⟩, r.skip.leave)
  | _ =>
    let (anchor, tag, start, r) ← r.properties
    let tag ← r.resolveTag start tag
    let t ← r.peek
    let opening (kind : Event.Kind) (phase : Phase) : Event × Reader := (⟨kind, start⟩, r.go phase)
    match t.kind with
    | .blockEntry =>
      if mayBeIndentless then return opening (.sequenceStart anchor) .indentlessEntry
      else bare r anchor tag start t
    | .scalar text style =>
      let tag := if tag = some ['!'] then none else tag
      return (⟨.scalar anchor ⟨text, style, tag⟩, start⟩, r.skip.leave)
    | .flowSequenceStart => return opening (.sequenceStart anchor) .flowSequenceFirst
    | .flowMappingStart => return opening (.mappingStart anchor) .flowMappingFirst
    | .blockSequenceStart =>
      if isBlock then return opening (.sequenceStart anchor) .blockSequenceFirst
      else bare r anchor tag start t
    | .blockMappingStart =>
      if isBlock then return opening (.mappingStart anchor) .blockMappingFirst
      else bare r anchor tag start t
    | _ => bare r anchor tag start t
where
  /-- A node that consists of its anchor and its tag alone. -/
  bare (r : Reader) (anchor tag : Option (List Char)) (start : Position) (t : Token) : Step :=
    if anchor.isSome || tag.isSome then
      .ok (⟨.scalar anchor ⟨[], .plain, tag⟩, start⟩, r.leave)
    else
      let context := if isBlock then "while parsing a block node" else "while parsing a flow node"
      .error (.within context start "did not find expected node content" t.start)

/-! ## Documents -/

/-- The handles that stand for themselves or for the standard tags in every document. -/
def standardHandles : List (List Char × List Char) :=
  [(['!'], ['!']), (['!', '!'], "tag:yaml.org,2002:".toList)]

/-- Reads the directives in front of a document; `n` bounds their number. -/
def directives (hasVersion : Bool) : Nat → Reader → Except SyntaxError Reader
  | 0, r => .ok r
  | n + 1, r => do
    let t ← r.peek
    match t.kind with
    | .versionDirective major minor =>
      if hasVersion then throw (.plain "found duplicate %YAML directive" t.start)
      else if major ≠ 1 || (minor ≠ 1 && minor ≠ 2) then
        throw (.plain "found incompatible YAML document" t.start)
      else directives true n r.skip
    | .tagDirective handle replacement =>
      if (r.handles.lookup handle).isSome then
        throw (.plain "found duplicate %TAG directive" t.start)
      else directives hasVersion n { r.skip with handles := r.handles ++ [(handle, replacement)] }
    | _ => return r

/-- Whether a token is a directive. -/
def isDirective : Token.Kind → Bool
  | .versionDirective _ _ => true
  | .tagDirective _ _ => true
  | _ => false

/-- The start of a document, or the end of the stream. -/
def document (r : Reader) (mayBeBare : Bool) : Step := do
  let r := if mayBeBare then r else { r with tokens := r.tokens.dropWhile (·.kind = .documentEnd) }
  let t ← r.peek
  if t.kind = .streamEnd then return (⟨.streamEnd, t.start⟩, r.skip.go .finished)
  else if mayBeBare && !isDirective t.kind && t.kind ≠ .documentStart then
    let r := { r with handles := standardHandles }
    return (⟨.documentStart, t.start⟩, (r.returnTo .documentEnd).go .blockNode)
  else
    let r ← directives false r.tokens.length r
    let u ← r.peek
    if u.kind ≠ .documentStart then
      throw (.plain "did not find expected <document start>" u.start)
    let r := { r.skip with handles := r.handles ++ standardHandles }
    return (⟨.documentStart, t.start⟩, (r.returnTo .documentEnd).go .documentContent)

/-- Whether a token ends the content of a document. -/
def endsContent (kind : Token.Kind) : Bool :=
  isDirective kind || kind = .documentStart || kind = .documentEnd || kind = .streamEnd

/-- The content of a document; **a document without content is an empty scalar.** -/
def documentContent (r : Reader) : Step := do
  let t ← r.peek
  if endsContent t.kind then return (emptyScalar t.start, r.leave) else r.node true false

/-- The end of a document, whether it is marked or not. -/
def documentEnd (r : Reader) : Step := do
  let t ← r.peek
  let r := if t.kind = .documentEnd then r.skip else r
  return (⟨.documentEnd, t.start⟩, { r with phase := .document false, handles := [] })

/-! ## Block collections -/

/-- Takes the first token of a collection, and notes where it stands. -/
def enter (r : Reader) : Except SyntaxError Reader := do
  let t ← r.peek
  return { r.skip with starts := t.start :: r.starts }

/-- A node after an indicator, or an empty scalar if a token of `none` kinds follows at once. -/
def nodeUnless (r : Reader) (isNone : Token.Kind → Bool) (phase : Phase)
    (isBlock mayBeIndentless : Bool) (empty : Position) : Step := do
  let t ← r.peek
  if isNone t.kind then return (emptyScalar empty, r.go phase)
  else (r.returnTo phase).node isBlock mayBeIndentless

/-- The next entry of a block sequence, or its end. -/
def blockSequenceEntry (r : Reader) : Step := do
  let t ← r.peek
  match t.kind with
  | .blockEntry =>
    r.skip.nodeUnless (fun k => k = .blockEntry || k = .blockEnd) .blockSequenceEntry true false
      t.stop
  | .blockEnd => return (⟨.sequenceEnd, t.start⟩, r.skip.close)
  | _ =>
    throw (.within "while parsing a block collection" r.opened
      "did not find expected '-' indicator" t.start)

/-- The next entry of a sequence that stands at its key's column, or its end. -/
def indentlessEntry (r : Reader) : Step := do
  let t ← r.peek
  match t.kind with
  | .blockEntry =>
    r.skip.nodeUnless (fun k => k = .blockEntry || k = .key || k = .value || k = .blockEnd)
      .indentlessEntry true false t.stop
  | _ => return (⟨.sequenceEnd, t.start⟩, r.leave)

/-- The tokens that cannot begin a key or a value of a block mapping. -/
def endsPair (kind : Token.Kind) : Bool := kind = .key || kind = .value || kind = .blockEnd

/-- The next key of a block mapping, or its end. -/
def blockMappingKey (r : Reader) : Step := do
  let t ← r.peek
  match t.kind with
  | .key => r.skip.nodeUnless endsPair .blockMappingValue true true t.stop
  | .blockEnd => return (⟨.mappingEnd, t.start⟩, r.skip.close)
  | _ =>
    throw (.within "while parsing a block mapping" r.opened "did not find expected key" t.start)

/-- The value that belongs to a key of a block mapping. -/
def blockMappingValue (r : Reader) : Step := do
  let t ← r.peek
  match t.kind with
  | .value => r.skip.nodeUnless endsPair .blockMappingKey true true t.stop
  | _ => return (emptyScalar t.start, r.go .blockMappingKey)

/-! ## Flow collections -/

/-- Takes the comma between two entries of a flow collection. -/
def separator (r : Reader) (isFirst : Bool) (ending : Token.Kind) (context problem : String) :
    Except SyntaxError Reader := do
  let t ← r.peek
  if isFirst || t.kind = ending then return r
  else if t.kind = .flowEntry then return r.skip
  else throw (.within context r.opened problem t.start)

/-- The next entry of a flow sequence, or its end. -/
def flowSequenceEntry (r : Reader) (isFirst : Bool) : Step := do
  let r ← r.separator isFirst .flowSequenceEnd "while parsing a flow sequence"
    "did not find expected ',' or ']'"
  let t ← r.peek
  match t.kind with
  | .flowSequenceEnd => return (⟨.sequenceEnd, t.start⟩, r.skip.close)
  | .key => return (⟨.mappingStart none, t.start⟩, r.skip.go .flowPairKey)
  | _ => (r.returnTo .flowSequenceEntry).node false false

/-- Whether a token ends a pair within a flow sequence. -/
def endsFlowPair (kind : Token.Kind) : Bool := kind = .flowEntry || kind = .flowSequenceEnd

/-- The key of a pair that stands in a flow sequence.  **Where the key is left out, the token that
follows goes with it.** -/
def flowPairKey (r : Reader) : Step := do
  let t ← r.peek
  if t.kind = .value || endsFlowPair t.kind then
    return (emptyScalar t.stop, r.skip.go .flowPairValue)
  else (r.returnTo .flowPairValue).node false false

/-- The value of a pair within a flow sequence. -/
def flowPairValue (r : Reader) : Step := do
  let t ← r.peek
  match t.kind with
  | .value =>
    let r := r.skip
    let u ← r.peek
    r.nodeUnless endsFlowPair .flowPairEnd false false u.start
  | _ => return (emptyScalar t.start, r.go .flowPairEnd)

/-- The end of a pair within a flow sequence. -/
def flowPairEnd (r : Reader) : Step := do
  let t ← r.peek
  return (⟨.mappingEnd, t.start⟩, r.go .flowSequenceEntry)

/-- The next key of a flow mapping, or its end. -/
def flowMappingKey (r : Reader) (isFirst : Bool) : Step := do
  let r ← r.separator isFirst .flowMappingEnd "while parsing a flow mapping"
    "did not find expected ',' or '\x7d'"
  let t ← r.peek
  match t.kind with
  | .flowMappingEnd => return (⟨.mappingEnd, t.start⟩, r.skip.close)
  | .key =>
    let r := r.skip
    let u ← r.peek
    r.nodeUnless (fun k => k = .value || k = .flowEntry || k = .flowMappingEnd) .flowMappingValue
      false false u.start
  | _ => (r.returnTo .flowMappingNoValue).node false false

/-- The value that belongs to a key of a flow mapping. -/
def flowMappingValue (r : Reader) : Step := do
  let t ← r.peek
  match t.kind with
  | .value =>
    let r := r.skip
    let u ← r.peek
    r.nodeUnless (fun k => k = .flowEntry || k = .flowMappingEnd) .flowMappingKey false false
      u.start
  | _ => return (emptyScalar t.start, r.go .flowMappingKey)

/-! ## All events -/

/-- The next event. -/
def next (r : Reader) : Step :=
  match r.phase with
  | .streamStart => do
    let t ← r.peek
    return (⟨.streamStart, t.start⟩, r.skip.go (.document true))
  | .document mayBeBare => r.document mayBeBare
  | .documentContent => r.documentContent
  | .documentEnd => r.documentEnd
  | .blockNode => r.node true false
  | .blockSequenceFirst => do (← r.enter).blockSequenceEntry
  | .blockSequenceEntry => r.blockSequenceEntry
  | .indentlessEntry => r.indentlessEntry
  | .blockMappingFirst => do (← r.enter).blockMappingKey
  | .blockMappingKey => r.blockMappingKey
  | .blockMappingValue => r.blockMappingValue
  | .flowSequenceFirst => do (← r.enter).flowSequenceEntry true
  | .flowSequenceEntry => r.flowSequenceEntry false
  | .flowPairKey => r.flowPairKey
  | .flowPairValue => r.flowPairValue
  | .flowPairEnd => r.flowPairEnd
  | .flowMappingFirst => do (← r.enter).flowMappingKey true
  | .flowMappingKey => r.flowMappingKey false
  | .flowMappingValue => r.flowMappingValue
  | .flowMappingNoValue => do
    let t ← r.peek
    return (emptyScalar t.start, r.go .flowMappingKey)
  | .finished => do
    let t ← r.peek
    return (⟨.streamEnd, t.start⟩, r)

/-- Reads events to the end of the stream; `fuel` bounds their number. -/
def events : Nat → Reader → List Event × Option SyntaxError
  | 0, _ => ([], none)
  | fuel + 1, r =>
    match r.next with
    | .error e => ([], some e)
    | .ok (event, r) =>
      if event.kind = .streamEnd then ([event], none)
      else
        let (rest, e) := events fuel r
        (event :: rest, e)

end Reader

/-- The events of a text, up to the first fault if there is one.  **No token stands for more than
four events.** -/
def Event.parse (text : String) : List Event × Option SyntaxError :=
  let r := Reader.start text
  r.events (4 * r.tokens.length + 4)

end Sidecar.Yaml
