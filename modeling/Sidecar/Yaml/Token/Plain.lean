import Sidecar.Yaml.Token

/-!
# Yaml/Token/Plain — plain scalars

A plain scalar has no quotes.  It goes on over line breaks as long as the text stays indented, and
a line break in it counts as a space.
-/

namespace Sidecar.Yaml.Plain

/-- Where a plain scalar stands. -/
structure Context where
  inFlow : Bool
  /-- The least column that its further lines may start in. -/
  indent : Int
  /-- Where it starts. -/
  start : Position

/-- A plain scalar as far as it has been read. -/
structure State where
  /-- The text, latest character first. -/
  text : List Char
  /-- Blanks that count only if more text follows on the same line. -/
  blanks : List Char
  /-- The first line break since the text, folded; `none` on the same line. -/
  firstBreak : Option (List Char)
  /-- The further line breaks, latest first. -/
  moreBreaks : List Char
  /-- Whether a blank or a line break has just been read. -/
  afterGap : Bool
  stop : Position

/-- No character has been read yet. -/
def State.start (p : Position) : State := ⟨[], [], none, [], false, p⟩

/-- What goes into the text for the gap before further text.  **One line break is a space; of more,
the first vanishes.** -/
def gap (blanks : List Char) (firstBreak : Option (List Char)) (moreBreaks : List Char) :
    List Char :=
  match firstBreak with
  | none => blanks
  | some ['\n'] => if moreBreaks.isEmpty then [' '] else moreBreaks
  | some b => moreBreaks ++ b

/-- One character more, **with the gap before it folded.** -/
def State.push (s : State) (c : Char) (next : Position) : State :=
  { text := c :: gap s.blanks s.firstBreak s.moreBreaks ++ s.text
    blanks := [], firstBreak := none, moreBreaks := [], afterGap := false, stop := next }

/-- One blank more; **behind a line break it is dropped.** -/
def State.pushBlank (s : State) (c : Char) : State :=
  match s.firstBreak with
  | none => { s with blanks := c :: s.blanks, afterGap := true }
  | some _ => { s with afterGap := true }

/-- One line break more. -/
def State.pushBreak (s : State) (c : Char) : State :=
  match s.firstBreak with
  | none => { s with blanks := [], firstBreak := some [foldedBreak c], afterGap := true }
  | some _ => { s with moreBreaks := foldedBreak c :: s.moreBreaks, afterGap := true }

/-- The characters that end a plain scalar inside a flow collection. -/
def isFlowIndicator (c : Char) : Bool := ",[]\x7b\x7d".toList.contains c

/-- Whether a colon ends the scalar, or another indicator does. -/
def ends (inFlow : Bool) (c : Char) (rest : List Char) : Bool :=
  (c = ':' && atGap rest) || (inFlow && isFlowIndicator c)

/-- Whether a colon stands where it can neither end the scalar nor be part of it. -/
def isStrayColon (inFlow : Bool) (c : Char) (rest : List Char) : Bool :=
  inFlow && c = ':' && rest.head?.any fun d => isFlowIndicator d || d = '?'

/-- What is told to be under way when a plain scalar is broken. -/
def context : String := "while scanning a plain scalar"

/-- Reads on to the end of the scalar. -/
def scan (ctx : Context) (s : State) (p : Position) :
    List Char → Except SyntaxError (State × Cursor)
  | [] => .ok (s, ⟨p, []⟩)
  | c :: rest =>
    if isSpaceOrTab c then
      if s.firstBreak.isSome && (p.column : Int) < ctx.indent && c = '\t' then
        .error (.within context ctx.start "found a tab character that violates indentation" p)
      else scan ctx (s.pushBlank c) p.next rest
    else if isBreak c then
      if isHalfBreak c rest then scan ctx s p.halfBreak rest
      else scan ctx (s.pushBreak c) (p.nextLine 1) rest
    else if s.afterGap && ((!ctx.inFlow && (p.column : Int) < ctx.indent)
        || c = '#' || Cursor.atDocumentMark ⟨p, c :: rest⟩) then .ok (s, ⟨p, c :: rest⟩)
    else if isStrayColon ctx.inFlow c rest then
      .error (.within context ctx.start "found unexpected ':'" p)
    else if ends ctx.inFlow c rest then .ok (s, ⟨p, c :: rest⟩)
    else scan ctx (s.push c p.next) p.next rest

/-- A plain scalar at the cursor, and whether line breaks follow it. -/
def read (inFlow : Bool) (indent : Int) (cur : Cursor) :
    Except SyntaxError (Token × Cursor × Bool) := do
  let (s, after) ← scan ⟨inFlow, indent, cur.position⟩ (.start cur.position) cur.position cur.rest
  return (⟨.scalar s.text.reverse .plain, cur.position, s.stop⟩, after, s.firstBreak.isSome)

end Sidecar.Yaml.Plain
