import Sidecar.Yaml.Token

/-!
# Yaml/Token/Block — block scalars

A block scalar is the indented text below its header.  A literal one keeps its line breaks; a folded
one joins lines by spaces, **except around lines that start with a blank.**
-/

namespace Sidecar.Yaml.Block

/-- What becomes of the line breaks at the end. -/
inductive Chomp where
  | strip
  | clip
  | keep
deriving DecidableEq, Repr

/-- How a sign has the line breaks at the end dealt with. -/
def Chomp.ofChar? (c : Char) : Option Chomp :=
  if c = '+' then some .keep else if c = '-' then some .strip else none

/-- What is told to be under way when a block scalar is broken. -/
def context : String := "while scanning a block scalar"

/-! ## The header -/

/-- The indentation that a digit in the header asks for. -/
def increment? (start : Position) (cur : Cursor) : Except SyntaxError (Nat × Cursor) :=
  match cur.rest with
  | c :: _ =>
    if c = '0' then
      .error (.within context start "found an indentation indicator equal to 0" cur.position)
    else if c.isDigit then .ok (c.toNat - 48, cur.skip 1)
    else .ok (0, cur)
  | [] => .ok (0, cur)

/-- Reads the header: how to chomp, and the indentation that it gives, zero for none. -/
def header (start : Position) (cur : Cursor) : Except SyntaxError (Chomp × Nat × Cursor) := do
  match cur.rest.head?.bind Chomp.ofChar? with
  | some chomp =>
    let (increment, cur) ← increment? start (cur.skip 1)
    return (chomp, increment, cur)
  | none =>
    let (increment, after) ← increment? start cur
    match after.rest.head?.bind Chomp.ofChar? with
    | some chomp => return (chomp, increment, after.skip 1)
    | none => return (.clip, increment, after)

/-! ## The text -/

/-- A block scalar as far as it has been read. -/
structure State where
  /-- The text, latest character first. -/
  text : List Char
  /-- The break of the line before. -/
  lineBreak : List Char
  /-- The breaks of the empty lines since, latest first. -/
  emptyBreaks : List Char
  /-- Whether the line before starts with a blank. -/
  afterBlank : Bool
  inLine : Bool

/-- Starts a line with its first character.  **Between two lines without blanks in front, the break
of a folded scalar is a space, or nothing if empty lines follow it.** -/
def State.startLine (s : State) (isLiteral : Bool) (c : Char) : State :=
  let folds := !isLiteral && s.lineBreak = ['\n'] && !s.afterBlank && !isSpaceOrTab c
  let joint :=
    if folds then (if s.emptyBreaks.isEmpty then [' '] else s.emptyBreaks)
    else s.emptyBreaks ++ s.lineBreak
  { text := c :: joint ++ s.text, lineBreak := [], emptyBreaks := []
    afterBlank := isSpaceOrTab c, inLine := true }

/-- What is told of a tab among the spaces before a line. -/
def tabProblem : String := "found a tab character where an indentation space is expected"

/-- Skips the empty lines in front of the text when its indentation is not known yet; gives their
breaks, latest first, and the deepest indentation seen. -/
def leading (start : Position) (breaks : List Char) (deepest : Nat) (p : Position) :
    List Char → Except SyntaxError (List Char × Nat × Cursor)
  | [] => .ok (breaks, max deepest p.column, ⟨p, []⟩)
  | c :: rest =>
    let deepest := max deepest p.column
    if c = ' ' then leading start breaks deepest p.next rest
    else if c = '\t' then .error (.within context start tabProblem p)
    else if isBreak c then
      if isHalfBreak c rest then leading start breaks deepest p.halfBreak rest
      else leading start (foldedBreak c :: breaks) deepest (p.nextLine 1) rest
    else .ok (breaks, deepest, ⟨p, c :: rest⟩)

/-- Reads on to the first text that is less indented. -/
def scan (isLiteral : Bool) (indent : Nat) (start : Position) (s : State) (p : Position) :
    List Char → Except SyntaxError (State × Cursor)
  | [] => .ok (s, ⟨p, []⟩)
  | c :: rest =>
    if isHalfBreak c rest then scan isLiteral indent start s p.halfBreak rest
    else if s.inLine then
      if isBreak c then
        scan isLiteral indent start { s with lineBreak := [foldedBreak c], inLine := false }
          (p.nextLine 1) rest
      else scan isLiteral indent start { s with text := c :: s.text } p.next rest
    else if p.column < indent && c = ' ' then scan isLiteral indent start s p.next rest
    else if p.column < indent && c = '\t' then .error (.within context start tabProblem p)
    else if isBreak c then
      scan isLiteral indent start { s with emptyBreaks := foldedBreak c :: s.emptyBreaks }
        (p.nextLine 1) rest
    else if p.column = indent then scan isLiteral indent start (s.startLine isLiteral c) p.next rest
    else .ok (s, ⟨p, c :: rest⟩)

/-- The text with the breaks at its end that chomping leaves. -/
def State.finish (s : State) (chomp : Chomp) : List Char :=
  let kept := match chomp with
    | .strip => []
    | .clip => s.lineBreak
    | .keep => s.emptyBreaks ++ s.lineBreak
  (kept ++ s.text).reverse

/-- A block scalar at the cursor, inside a collection indented by `parent`. -/
def read (isLiteral : Bool) (parent : Int) (cur : Cursor) :
    Except SyntaxError (Token × Cursor) := do
  let start := cur.position
  let (chomp, increment, cur) ← header start (cur.skip 1)
  let cur := cur.skipBlanksAndComment
  if !cur.rest.head?.all isBreak then
    throw (.within context start "did not find expected comment or line break" cur.position)
  let cur := cur.skipBreak
  let (breaks, indent, cur) ←
    if increment = 0 then do
      let (breaks, deepest, cur) ← leading start [] 0 cur.position cur.rest
      pure (breaks, max deepest (max (parent + 1).toNat 1), cur)
    else pure ([], (max parent 0).toNat + increment, cur)
  let (s, after) ← scan isLiteral indent start ⟨[], [], breaks, false, false⟩ cur.position cur.rest
  let style := if isLiteral then Style.literal else Style.folded
  return (⟨.scalar (s.finish chomp) style, start, after.position⟩, after)

end Sidecar.Yaml.Block
