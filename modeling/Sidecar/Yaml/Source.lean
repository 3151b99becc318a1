import Sidecar.Text.Utf8

/-!
# Yaml/Source — text, positions in it, and the faults found there

A cursor is the text that is still to be read together with the position it starts at.  Reading a
character moves the position by one column, and **a line break, a carriage return and its line feed
being one, moves it to the start of the next line.**
-/

namespace Sidecar.Yaml

/-- A place in a text, all parts counted from zero. -/
structure Position where
  /-- Characters before this place. -/
  index : Nat
  line : Nat
  column : Nat
deriving DecidableEq, Repr

namespace Position

/-- The place before the first character. -/
def start : Position := ⟨0, 0, 0⟩

/-- The place after a character that is no line break. -/
def next (p : Position) : Position := ⟨p.index + 1, p.line, p.column + 1⟩

/-- The place after `n` characters that are no line breaks. -/
def plus (p : Position) (n : Nat) : Position := ⟨p.index + n, p.line, p.column + n⟩

/-- The place after a line break of `n` characters. -/
def nextLine (p : Position) (n : Nat) : Position := ⟨p.index + n, p.line + 1, 0⟩

/-- The place between a carriage return and the line feed that belongs to it. -/
def halfBreak (p : Position) : Position := { p with index := p.index + 1 }

/-- Whether this is the first line and column. -/
def isStart (p : Position) : Bool := p.line == 0 && p.column == 0

/-- Whether two places are of one line and one column. -/
def sameSpot (p q : Position) : Bool := p.line == q.line && p.column == q.column

/-- How a message points to a place, **unless it is the first one.** -/
def suffix (p : Position) : String :=
  if p.isStart then "" else s!" at line {p.line + 1} column {p.column + 1}"

end Position

/-- Why a text is no YAML: the problem, and what was being read when it was met. -/
structure SyntaxError where
  problem : String
  position : Position
  context? : Option (String × Position)
  /-- The octets before the problem, for one found before any position was known. -/
  offset : Nat
deriving DecidableEq, Repr

namespace SyntaxError

/-- A problem met while something that began at `start` was being read. -/
def within (context : String) (start : Position) (problem : String) (position : Position) :
    SyntaxError := ⟨problem, position, some (context, start), 0⟩

/-- An error that is told without its context. -/
def plain (problem : String) (position : Position) : SyntaxError := ⟨problem, position, none, 0⟩

/-- What is told of an error, with its place and its context. -/
def message (e : SyntaxError) : String :=
  let place :=
    if e.position.isStart && e.offset ≠ 0 then s!" at position {e.offset}" else e.position.suffix
  let context := match e.context? with
    | none => ""
    | some (text, start) =>
      s!", {text}" ++ (if start.sameSpot e.position then "" else start.suffix)
  e.problem ++ place ++ context

end SyntaxError

/-! ## Characters -/

/-- The characters that YAML text may hold. -/
def isPrintable (c : Char) : Bool :=
  let n := c.toNat
  n == 9 || n == 10 || n == 13 || (0x20 ≤ n && n ≤ 0x7E) || n == 0x85 || (0xA0 ≤ n && n ≤ 0xD7FF)
    || (0xE000 ≤ n && n ≤ 0xFFFD) || 0x10000 ≤ n

/-- A blank within a line. -/
def isSpaceOrTab (c : Char) : Bool := c = ' ' || c = '\t'

/-- A character that ends a line. -/
def isBreak (c : Char) : Bool :=
  c = '\n' || c = '\r' || c = '\u0085' || c = '\u2028' || c = '\u2029'

/-- A blank of any kind. -/
def isSpaceTabOrBreak (c : Char) : Bool := isSpaceOrTab c || isBreak c

/-- Letters, digits, `_` and `-`. -/
def isWordChar (c : Char) : Bool := c.isAlphanum || c = '_' || c = '-'

/-- Whether a text is at its end or goes on with a blank or a line break. -/
def atGap : List Char → Bool
  | [] => true
  | c :: _ => isSpaceTabOrBreak c

/-- Whether a character is the carriage return of a two-character line break. -/
def isHalfBreak (c : Char) (rest : List Char) : Bool := c = '\r' && rest.head? = some '\n'

/-- How a break counts in a text that it is part of: as a line feed, unless it is one of the two
separators of Unicode. -/
def foldedBreak (c : Char) : Char := if c = '\u2028' || c = '\u2029' then c else '\n'

/-! ## Cursors -/

/-- A place in the text, and what stands behind it. -/
structure Cursor where
  position : Position
  rest : List Char
deriving DecidableEq, Repr

namespace Cursor

/-- Moves past `n` characters that are no line breaks. -/
def skip (cur : Cursor) (n : Nat) : Cursor := ⟨cur.position.plus n, cur.rest.drop n⟩

/-- Moves past the line break that the text starts with, if it does. -/
def skipBreak (cur : Cursor) : Cursor :=
  match cur.rest with
  | '\r' :: '\n' :: rest => ⟨cur.position.nextLine 2, rest⟩
  | c :: rest => if isBreak c then ⟨cur.position.nextLine 1, rest⟩ else cur
  | [] => cur

/-- Moves past the characters that satisfy `p`, none of them a line break. -/
def skipWhile (cur : Cursor) (p : Char → Bool) : Cursor := cur.skip (cur.rest.takeWhile p).length

/-- Moves past spaces and tabs and a comment after them. -/
def skipBlanksAndComment (cur : Cursor) : Cursor :=
  let cur := cur.skipWhile isSpaceOrTab
  if cur.rest.head? = some '#' then cur.skipWhile (!isBreak ·) else cur

/-- Whether the text goes on with `---` or `...` and a gap, at the start of a line. -/
def atDocumentMark (cur : Cursor) : Bool :=
  cur.position.column == 0 &&
    match cur.rest with
    | '-' :: '-' :: '-' :: rest => atGap rest
    | '.' :: '.' :: '.' :: rest => atGap rest
    | _ => false

end Cursor

/-- The cursor at the start of a text, **unless a character is in it that YAML may not hold.** -/
def Cursor.ofText (text : String) : Except SyntaxError Cursor :=
  let cs := text.toList
  match cs.dropWhile isPrintable with
  | [] => .ok ⟨.start, cs⟩
  | _ =>
    let offset := (Text.Utf8.encode (cs.takeWhile isPrintable)).length
    .error ⟨"control characters are not allowed", .start, none, offset⟩

end Sidecar.Yaml
