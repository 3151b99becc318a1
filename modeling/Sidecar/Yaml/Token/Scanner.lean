import Sidecar.Yaml.Token.Block
import Sidecar.Yaml.Token.Plain
import Sidecar.Yaml.Token.Quoted
import Sidecar.Yaml.Token.Tag

/-!
# Yaml/Token/Scanner — from text to tokens

A `:` may turn what was read before it into a mapping key.  The scanner therefore remembers where
such a **simple key** may have begun, one for each level of flow collections, and holds tokens back
until it is settled that no key begins with them.  `Token.scan` gives the tokens of a whole text, or
those before the first fault and the fault.
-/

namespace Sidecar.Yaml

/-- A place where a simple key may begin. -/
structure SimpleKey where
  /-- Whether nothing but a key may stand there. -/
  isRequired : Bool
  /-- The number of the token that the key begins with. -/
  token : Nat
  position : Position
deriving DecidableEq, Repr

/-- What is left to scan, and the collections that are open. -/
structure Scanner where
  cursor : Cursor
  /-- The column of the innermost block collection, and those of the ones around it. -/
  indent : Int
  outerIndents : List Int
  /-- Whether a simple key may begin here. -/
  keyAllowed : Bool
  /-- The simple key of the innermost level, and those of the flow levels around it. -/
  key : Option SimpleKey
  outerKeys : List (Option SimpleKey)
  /-- The tokens that are held back. -/
  held : List Token
  /-- How many tokens have been let go. -/
  released : Nat
  isEnded : Bool

namespace Scanner

/-- The scanner of a text, before its first token. -/
def start (cursor : Cursor) : Scanner where
  cursor
  indent := -1
  outerIndents := []
  keyAllowed := true
  key := none
  outerKeys := []
  held := [⟨.streamStart, cursor.position, cursor.position⟩]
  released := 0
  isEnded := false

/-- Whether a flow collection is open. -/
def inFlow (s : Scanner) : Bool := !s.outerKeys.isEmpty

/-- The place that the scanner has come to. -/
def position (s : Scanner) : Position := s.cursor.position

/-- The number that the next token gets. -/
def nextToken (s : Scanner) : Nat := s.released + s.held.length

/-- One token more. -/
def push (s : Scanner) (t : Token) : Scanner := { s with held := s.held ++ [t] }

/-- Reads an indicator of `n` characters as a token. -/
def pushIndicator (s : Scanner) (kind : Token.Kind) (n : Nat) : Scanner :=
  let cursor := s.cursor.skip n
  { s.push ⟨kind, s.position, cursor.position⟩ with cursor }

/-- Puts a token in front of the one with the given number. -/
def insertAt (s : Scanner) (number : Nat) (t : Token) : Scanner :=
  let n := number - s.released
  { s with held := s.held.take n ++ t :: s.held.drop n }

/-! ## Simple keys -/

/-- How far, in characters, a simple key's colon may be from its start. -/
def keyReach : Nat := 1024

/-- The error of a key that no colon follows. -/
def missingColon (key : SimpleKey) (p : Position) : SyntaxError :=
  .within "while scanning a simple key" key.position "could not find expected ':'" p

/-- Gives a key up that can no longer be one; **a required one must not be given up.** -/
def expire (p : Position) (key : Option SimpleKey) : Except SyntaxError (Option SimpleKey) :=
  match key with
  | none => .ok none
  | some k =>
    if k.position.line < p.line || k.position.index + keyReach < p.index then
      if k.isRequired then .error (missingColon k p) else .ok none
    else .ok (some k)

/-- Gives up the keys of all levels that can no longer be one, from the outermost level in. -/
def expireKeys (s : Scanner) : Except SyntaxError Scanner := do
  let outerKeys ← s.outerKeys.reverse.mapM (expire s.position)
  let key ← expire s.position s.key
  return { s with outerKeys := outerKeys.reverse, key }

/-- Gives up the key of the innermost level. -/
def dropKey (s : Scanner) : Except SyntaxError Scanner :=
  match s.key with
  | none => .ok s
  | some k =>
    if k.isRequired then .error (missingColon k s.position) else .ok { s with key := none }

/-- Notes that a simple key may begin here. -/
def noteKey (s : Scanner) : Except SyntaxError Scanner :=
  if s.keyAllowed then do
    let isRequired := !s.inFlow && s.indent == (s.position.column : Int)
    let key := some ⟨isRequired, s.nextToken, s.position⟩
    return { ← s.dropKey with key }
  else .ok s

/-! ## Indentation -/

/-- Opens a block collection in a column, unless one is open there; its token goes in front of the
one with the given number. -/
def openBlock (s : Scanner) (column number : Nat) (kind : Token.Kind) (p : Position) : Scanner :=
  if s.inFlow || (column : Int) ≤ s.indent then s
  else
    { s.insertAt number ⟨kind, p, p⟩ with
      indent := column, outerIndents := s.indent :: s.outerIndents }

/-- Closes the block collections that stand right of a column. -/
def closeBlocks (column : Int) (p : Position) : Int → List Int → List Token × Int × List Int
  | indent, [] => ([], indent, [])
  | indent, outer :: rest =>
    if column < indent then
      let (tokens, indent, rest) := closeBlocks column p outer rest
      (⟨.blockEnd, p, p⟩ :: tokens, indent, rest)
    else ([], indent, outer :: rest)

/-- Closes the block collections that the text has left by its indentation. -/
def unindent (s : Scanner) (column : Int) : Scanner :=
  if s.inFlow then s
  else
    let (tokens, indent, outerIndents) := closeBlocks column s.position s.indent s.outerIndents
    { s with held := s.held ++ tokens, indent, outerIndents }

/-! ## Between tokens -/

/-- Moves to the next token: over blanks, comments and line breaks.  **A tab may not stand where a
simple key may begin in a block.** -/
def gap (inFlow keyAllowed inComment : Bool) (p : Position) : List Char → Cursor × Bool
  | [] => (⟨p, []⟩, keyAllowed)
  | c :: rest =>
    if isBreak c then
      if isHalfBreak c rest then gap inFlow keyAllowed inComment p.halfBreak rest
      else gap inFlow (keyAllowed || !inFlow) false (p.nextLine 1) rest
    else if inComment then gap inFlow keyAllowed true p.next rest
    else if c = ' ' || (c = '\t' && (inFlow || !keyAllowed)) || (c = '\uFEFF' && p.column = 0) then
      gap inFlow keyAllowed false p.next rest
    else if c = '#' then gap inFlow keyAllowed true p.next rest
    else (⟨p, c :: rest⟩, keyAllowed)

/-- The scanner past blanks, comments and line breaks. -/
def toNextToken (s : Scanner) : Scanner :=
  let (cursor, keyAllowed) := gap s.inFlow s.keyAllowed false s.position s.cursor.rest
  { s with cursor, keyAllowed }

/-! ## Tokens -/

/-- Ends the stream: the text counts as ending with a line break. -/
def fetchEnd (s : Scanner) : Except SyntaxError Scanner := do
  let p := s.position
  let p := if p.column = 0 then p else { p with line := p.line + 1, column := 0 }
  let s ← ({ s with cursor := ⟨p, []⟩ }.unindent (-1)).dropKey
  return { s.push ⟨.streamEnd, p, p⟩ with keyAllowed := false, isEnded := true }

/-- Leaves all block collections, as what stands between documents does. -/
def leaveBlocks (s : Scanner) : Except SyntaxError Scanner := do
  return { ← (s.unindent (-1)).dropKey with keyAllowed := false }

/-- Takes a directive; **all blocks are closed before it.** -/
def fetchDirective (s : Scanner) : Except SyntaxError Scanner := do
  let s ← s.leaveBlocks
  let (token, cursor) ← Directive.read s.cursor
  return { s.push token with cursor }

/-- Takes the mark of a document's start or end; **all blocks are closed before it.** -/
def fetchDocumentMark (s : Scanner) (kind : Token.Kind) : Except SyntaxError Scanner := do
  return (← s.leaveBlocks).pushIndicator kind 3

/-- Takes the bracket that opens a flow collection, which may itself be a key. -/
def fetchFlowStart (s : Scanner) (kind : Token.Kind) : Except SyntaxError Scanner := do
  let s ← s.noteKey
  return { s with outerKeys := s.key :: s.outerKeys, key := none, keyAllowed := true }.pushIndicator
    kind 1

/-- Takes the bracket that closes a flow collection. -/
def fetchFlowEnd (s : Scanner) (kind : Token.Kind) : Except SyntaxError Scanner := do
  let s ← s.dropKey
  let s := match s.outerKeys with
    | [] => s
    | key :: outerKeys => { s with key, outerKeys }
  return { s with keyAllowed := false }.pushIndicator kind 1

/-- Takes the comma between the entries of a flow collection. -/
def fetchFlowEntry (s : Scanner) : Except SyntaxError Scanner := do
  return { ← s.dropKey with keyAllowed := true }.pushIndicator .flowEntry 1

/-- Opens a block collection for an indicator that stands where it may begin a line. -/
def openBlockHere (s : Scanner) (kind : Token.Kind) (problem : String) :
    Except SyntaxError Scanner :=
  if s.inFlow then .ok s
  else if s.keyAllowed then .ok (s.openBlock s.position.column s.nextToken kind s.position)
  else .error (.plain problem s.position)

/-- Takes the dash before an entry of a block sequence, **which it may open.** -/
def fetchBlockEntry (s : Scanner) : Except SyntaxError Scanner := do
  let s ← s.openBlockHere .blockSequenceStart
    "block sequence entries are not allowed in this context"
  return { ← s.dropKey with keyAllowed := true }.pushIndicator .blockEntry 1

/-- Takes the mark of a key, which may open a block mapping. -/
def fetchKey (s : Scanner) : Except SyntaxError Scanner := do
  let s ← s.openBlockHere .blockMappingStart "mapping keys are not allowed in this context"
  return { ← s.dropKey with keyAllowed := !s.inFlow }.pushIndicator .key 1

/-- A `:`.  **If a simple key may have begun, it has:** its tokens go in front of what was held. -/
def fetchValue (s : Scanner) : Except SyntaxError Scanner := do
  match s.key with
  | some k =>
    let s := (s.insertAt k.token ⟨.key, k.position, k.position⟩).openBlock k.position.column k.token
      .blockMappingStart k.position
    return { s with key := none, keyAllowed := false }.pushIndicator .value 1
  | none =>
    let s ← s.openBlockHere .blockMappingStart "mapping values are not allowed in this context"
    return { s with keyAllowed := !s.inFlow }.pushIndicator .value 1

/-- A token that a simple key may begin with. -/
def fetchInline (s : Scanner) (read : Cursor → Except SyntaxError (Token × Cursor)) :
    Except SyntaxError Scanner := do
  let s ← s.noteKey
  let (token, cursor) ← read s.cursor
  return { s.push token with cursor, keyAllowed := false }

/-- Takes a block scalar. -/
def fetchBlockScalar (s : Scanner) (isLiteral : Bool) : Except SyntaxError Scanner := do
  let s ← s.dropKey
  let (token, cursor) ← Block.read isLiteral s.indent s.cursor
  return { s.push token with cursor, keyAllowed := true }

/-- Takes a plain scalar, which may be a key. -/
def fetchPlain (s : Scanner) : Except SyntaxError Scanner := do
  let s ← s.noteKey
  let (token, cursor, keyAllowed) ← Plain.read s.inFlow (s.indent + 1) s.cursor
  return { s.push token with cursor, keyAllowed }

/-- The characters that begin no plain scalar by themselves. -/
def isIndicator (c : Char) : Bool := "-?:,[]\x7b\x7d#&*!|>'\"%@`".toList.contains c

/-- Whether a plain scalar begins here. -/
def startsPlain (inFlow : Bool) (c : Char) (rest : List Char) : Bool :=
  (!isSpaceTabOrBreak c && !isIndicator c)
    || (c = '-' && !rest.head?.any isSpaceOrTab)
    || (!inFlow && (c = '?' || c = ':') && !atGap rest)

/-- Reads the token at a character. -/
def fetchAt (s : Scanner) (c : Char) (rest : List Char) : Except SyntaxError Scanner :=
  let isEntry := atGap rest
  let isKey := s.inFlow || atGap rest
  if s.position.column = 0 && c = '%' then s.fetchDirective
  else if s.cursor.atDocumentMark then
    s.fetchDocumentMark (if c = '-' then .documentStart else .documentEnd)
  else if c = '[' then s.fetchFlowStart .flowSequenceStart
  else if c = '\x7b' then s.fetchFlowStart .flowMappingStart
  else if c = ']' then s.fetchFlowEnd .flowSequenceEnd
  else if c = '\x7d' then s.fetchFlowEnd .flowMappingEnd
  else if c = ',' then s.fetchFlowEntry
  else if c = '-' && isEntry then s.fetchBlockEntry
  else if c = '?' && isKey then s.fetchKey
  else if c = ':' && isKey then s.fetchValue
  else if c = '*' then s.fetchInline (Anchor.read true)
  else if c = '&' then s.fetchInline (Anchor.read false)
  else if c = '!' then s.fetchInline (Tag.read s.inFlow)
  else if c = '|' && !s.inFlow then s.fetchBlockScalar true
  else if c = '>' && !s.inFlow then s.fetchBlockScalar false
  else if c = '\'' then s.fetchInline (Quoted.read true)
  else if c = '"' then s.fetchInline (Quoted.read false)
  else if startsPlain s.inFlow c rest then s.fetchPlain
  else
    .error (.within "while scanning for the next token" s.position
      "found character that cannot start any token" s.position)

/-- Reads the next token, and the ends of the block collections before it. -/
def fetch (s : Scanner) : Except SyntaxError Scanner := do
  let s ← s.toNextToken.expireKeys
  let s := s.unindent s.position.column
  match s.cursor.rest with
  | [] => s.fetchEnd
  | c :: rest => s.fetchAt c rest

/-! ## Letting tokens go -/

/-- Whether a key may begin with the token of a number. -/
def mayBeginKey (s : Scanner) (number : Nat) : Bool :=
  (s.key :: s.outerKeys).any fun key => key.any (·.token == number)

/-- The held tokens that can be let go, with their number. -/
def ready (s : Scanner) : Nat → List Token → List Token
  | _, [] => []
  | number, t :: rest => if s.mayBeginKey number then [] else t :: ready s (number + 1) rest

/-- Reads on to the end of the stream; `fuel` bounds the number of tokens read. -/
def tokens : Nat → Scanner → List Token × Option SyntaxError
  | 0, _ => ([], none)
  | fuel + 1, s =>
    match s.expireKeys with
    | .error e => ([], some e)
    | .ok s =>
      let out := s.ready s.released s.held
      if s.isEnded then (out, none)
      else
        let s := { s with held := s.held.drop out.length, released := s.released + out.length }
        match s.fetch with
        | .error e => (out, some e)
        | .ok s =>
          let (rest, e) := tokens fuel s
          (out ++ rest, e)

end Scanner

/-- The tokens of a text, up to the first fault if there is one. -/
def Token.scan (text : String) : List Token × Option SyntaxError :=
  match Cursor.ofText text with
  | .error e => ([], some e)
  | .ok cursor => Scanner.tokens (cursor.rest.length + 3) (.start cursor)

end Sidecar.Yaml
