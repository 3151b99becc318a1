import Sidecar.Text.Hex
import Sidecar.Yaml.Token.Plain

/-!
# Yaml/Token/Quoted — quoted scalars

Between single quotes only the quote itself is special, and is written twice.  Between double quotes
a backslash begins an escape.  Line breaks fold as in plain scalars.
-/

namespace Sidecar.Yaml.Quoted

/-- What the next character is. -/
inductive Mode where
  /-- Part of the text, or the quote that ends it. -/
  | text
  /-- A hexadecimal digit: how many are still to come, and their value so far. -/
  | digits (left value : Nat) (start : Position)

/-- A quoted scalar as far as it has been read. -/
structure State where
  /-- The text, latest character first. -/
  text : List Char
  blanks : List Char
  /-- The first line break since the text; empty if a backslash took it away. -/
  firstBreak : Option (List Char)
  moreBreaks : List Char
  mode : Mode

/-- No character has been read yet. -/
def State.start : State := ⟨[], [], none, [], .text⟩

/-- Moves what the gap before the next character counts for into the text. -/
def State.closeGap (s : State) : State :=
  { s with
    text := Plain.gap s.blanks s.firstBreak s.moreBreaks ++ s.text
    blanks := [], firstBreak := none, moreBreaks := [] }

/-- One character more, **with the gap before it folded.** -/
def State.push (s : State) (c : Char) : State :=
  let s := s.closeGap
  { s with text := c :: s.text, mode := .text }

/-- One blank more; **behind a line break it is dropped.** -/
def State.pushBlank (s : State) (c : Char) : State :=
  match s.firstBreak with
  | none => { s with blanks := c :: s.blanks }
  | some _ => s

/-- One line break more. -/
def State.pushBreak (s : State) (c : Char) : State :=
  match s.firstBreak with
  | none => { s with blanks := [], firstBreak := some [foldedBreak c] }
  | some _ => { s with moreBreaks := foldedBreak c :: s.moreBreaks }

/-- A line break behind a backslash: **it joins the lines without a space, and keeps the blanks
before it.** -/
def State.pushEscapedBreak (s : State) : State :=
  { s.closeGap with firstBreak := some [] }

/-- What a one-letter escape stands for. -/
def escaped? (c : Char) : Option Char :=
  match c with
  | '0' => some '\x00'
  | 'a' => some '\x07'
  | 'b' => some '\x08'
  | 't' => some '\t'
  | '\t' => some '\t'
  | 'n' => some '\n'
  | 'v' => some '\x0b'
  | 'f' => some '\x0c'
  | 'r' => some '\r'
  | 'e' => some '\x1b'
  | ' ' => some ' '
  | '"' => some '"'
  | '/' => some '/'
  | '\\' => some '\\'
  | 'N' => some '\u0085'
  | '_' => some '\u00a0'
  | 'L' => some '\u2028'
  | 'P' => some '\u2029'
  | _ => none

/-- How many digits an escape by code point has. -/
def digitCount? (c : Char) : Option Nat :=
  if c = 'x' then some 2 else if c = 'u' then some 4 else if c = 'U' then some 8 else none

/-- What is told to be under way when a quoted scalar is not closed. -/
def scanning : String := "while scanning a quoted scalar"

/-- What is told to be under way when an escape is broken. -/
def parsing : String := "while parsing a quoted scalar"

/-- The state after the last digit of an escape. -/
def State.pushCodePoint (s : State) (start : Position) (value : Nat) (digits : Position) :
    Except SyntaxError State :=
  if h : value.isValidChar then .ok (s.push (Char.ofNatAux value h))
  else .error (.within parsing start "found invalid Unicode character escape code" digits)

/-- Reads on to the quote that ends the scalar. -/
def scan (isSingle : Bool) (start : Position) (s : State) (p : Position) :
    List Char → Except SyntaxError (State × Cursor)
  | [] =>
    match s.mode with
    | .digits _ _ place =>
      .error (.within parsing start "did not find expected hexdecimal number" place)
    | .text => .error (.within scanning start "found unexpected end of stream" p)
  | c :: rest =>
    match s.mode with
    | .digits left value place =>
      match Text.hexValue? c with
      | none => .error (.within parsing start "did not find expected hexdecimal number" place)
      | some d =>
        if left ≤ 1 then
          match s.pushCodePoint start (value * 16 + d) place with
          | .error e => .error e
          | .ok s => scan isSingle start s p.next rest
        else
          let mode : Mode := .digits (left - 1) (value * 16 + d) place
          scan isSingle start { s with mode } p.next rest
    | .text =>
      if Cursor.atDocumentMark ⟨p, c :: rest⟩ then
        .error (.within scanning start "found unexpected document indicator" p)
      else if isSpaceOrTab c then scan isSingle start (s.pushBlank c) p.next rest
      else if isBreak c then
        if isHalfBreak c rest then scan isSingle start s p.halfBreak rest
        else scan isSingle start (s.pushBreak c) (p.nextLine 1) rest
      else if isSingle then
        if c = '\'' then
          match rest with
          | '\'' :: rest => scan isSingle start (s.push '\'') (p.plus 2) rest
          | _ => .ok (s.closeGap, ⟨p.next, rest⟩)
        else scan isSingle start (s.push c) p.next rest
      else if c = '"' then .ok (s.closeGap, ⟨p.next, rest⟩)
      else if c = '\\' then
        match rest with
        | [] => .error (.within parsing start "found unknown escape character" p)
        | '\r' :: '\n' :: rest => scan isSingle start s.pushEscapedBreak (p.next.nextLine 2) rest
        | d :: rest =>
          if isBreak d then scan isSingle start s.pushEscapedBreak (p.next.nextLine 1) rest
          else
            match escaped? d, digitCount? d with
            | some e, _ => scan isSingle start (s.push e) (p.plus 2) rest
            | none, some n =>
              scan isSingle start { s with mode := .digits n 0 (p.plus 2) } (p.plus 2) rest
            | none, none => .error (.within parsing start "found unknown escape character" p)
      else scan isSingle start (s.push c) p.next rest

/-- A quoted scalar at the cursor. -/
def read (isSingle : Bool) (cur : Cursor) : Except SyntaxError (Token × Cursor) := do
  let start := cur.position
  let (s, after) ← scan isSingle start .start start.next (cur.rest.drop 1)
  let style := if isSingle then Style.singleQuoted else Style.doubleQuoted
  return (⟨.scalar s.text.reverse style, start, after.position⟩, after)

end Sidecar.Yaml.Quoted
