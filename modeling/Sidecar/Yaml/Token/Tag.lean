import Sidecar.Text.Hex
import Sidecar.Text.Utf8
import Sidecar.Yaml.Token

/-!
# Yaml/Token/Tag — tags, anchors, aliases and directives

The tokens that begin with `!`, `&`, `*` and `%`.
-/

namespace Sidecar.Yaml

namespace Anchor

/-- An anchor or an alias at the cursor: one or more word characters, and after them a gap or an
indicator. -/
def read (isAlias : Bool) (cur : Cursor) : Except SyntaxError (Token × Cursor) :=
  let start := cur.position
  let inner := cur.skip 1
  let name := inner.rest.takeWhile isWordChar
  let after := inner.skipWhile isWordChar
  let isClosed := atGap after.rest || after.rest.head?.any "?:,]\x7d%@`".toList.contains
  if name.isEmpty || !isClosed then
    let context := if isAlias then "while scanning an alias" else "while scanning an anchor"
    .error (.within context start "did not find expected alphabetic or numeric character"
      after.position)
  else
    .ok (⟨if isAlias then .alias name else .anchor name, start, after.position⟩, after)

end Anchor

namespace Tag

/-- The characters of a tag; **commas and brackets only where `isOpen` lets any stand.** -/
def isUriChar (isOpen : Bool) (c : Char) : Bool :=
  isWordChar c || ";/?:@&=+$.%!~*'()".toList.contains c || (isOpen && ",[]".toList.contains c)

/-- How many octets a character has whose first octet is this one; zero if it can be none. -/
def octetCount (octet : Nat) : Nat :=
  if octet < 0x80 then 1
  else if octet / 32 = 6 then 2
  else if octet / 16 = 14 then 3
  else if octet / 8 = 30 then 4
  else 0

/-- Reads `n` more percent-encoded octets of one character. -/
def octets (context : String) (start : Position) (isFirst : Bool) :
    Nat → Cursor → Except SyntaxError (List UInt8 × Cursor)
  | 0, cur => .ok ([], cur)
  | n + 1, cur =>
    let octet := match cur.rest with
      | '%' :: a :: b :: _ => do
        let x ← Text.hexValue? a
        let y ← Text.hexValue? b
        some (x * 16 + y)
      | _ => none
    match octet with
    | none => .error (.within context start "did not find URI escaped octet" cur.position)
    | some octet =>
      if !isFirst && octet / 64 ≠ 2 then
        .error (.within context start "found an incorrect trailing UTF-8 octet" cur.position)
      else
        match octets context start false n (cur.skip 3) with
        | .error e => .error e
        | .ok (rest, cur) => .ok (UInt8.ofNat octet :: rest, cur)

/-- The octets of a percent-encoded character. -/
def escape (context : String) (start : Position) (cur : Cursor) :
    Except SyntaxError (List UInt8 × Cursor) := do
  let (first, _) ← octets context start true 1 cur
  let count := octetCount (first.headD 0).toNat
  if count = 0 then
    throw (.within context start "found an incorrect leading UTF-8 octet" cur.position)
  octets context start true count cur

/-- The octets of a tag's text, as long as its characters go; `fuel` bounds their number. -/
def uriOctets (isOpen : Bool) (context : String) (start : Position) :
    Nat → Cursor → Except SyntaxError (List UInt8 × Cursor)
  | 0, cur => .ok ([], cur)
  | fuel + 1, cur =>
    match cur.rest with
    | [] => .ok ([], cur)
    | c :: _ =>
      if isUriChar isOpen c then do
        let (octets, cur) ←
          if c = '%' then escape context start cur
          else pure (String.utf8EncodeChar c, cur.skip 1)
        let (rest, cur) ← uriOctets isOpen context start fuel cur
        return (octets ++ rest, cur)
      else .ok ([], cur)

/-- A tag's text at the cursor; it may be empty only where `mayBeEmpty` says so. -/
def uri (isOpen mayBeEmpty isDirective : Bool) (start : Position) (cur : Cursor) :
    Except SyntaxError (List Char × Cursor) := do
  let context := if isDirective then "while parsing a %TAG directive" else "while parsing a tag"
  let (octets, after) ← uriOctets isOpen context start cur.rest.length cur
  if octets.isEmpty && !mayBeEmpty then
    throw (.within context start "did not find expected tag URI" after.position)
  return (Text.Utf8.decode octets, after)

/-- A handle at the cursor: `!`, word characters, and mostly another `!`. -/
def handle (isDirective : Bool) (start : Position) (cur : Cursor) :
    Except SyntaxError (List Char × Cursor) :=
  if cur.rest.head? ≠ some '!' then
    let context := if isDirective then "while scanning a tag directive" else "while scanning a tag"
    .error (.within context start "did not find expected '!'" cur.position)
  else
    let name := (cur.rest.drop 1).takeWhile isWordChar
    let after := (cur.skip 1).skipWhile isWordChar
    if after.rest.head? = some '!' then .ok ('!' :: name ++ ['!'], after.skip 1)
    else if isDirective && !name.isEmpty then
      .error (.within "while parsing a tag directive" start "did not find expected '!'"
        after.position)
    else .ok ('!' :: name, after)

/-- The handle and the rest of a tag at the cursor. -/
def parts (start : Position) (cur : Cursor) :
    Except SyntaxError (List Char × List Char × Cursor) := do
  if (cur.rest.drop 1).head? = some '<' then
    let (text, cur) ← uri true false false start (cur.skip 2)
    if cur.rest.head? ≠ some '>' then
      throw (.within "while scanning a tag" start "did not find the expected '>'" cur.position)
    return ([], text, cur.skip 1)
  let (head, cur) ← handle false start cur
  if 1 < head.length && head.getLast? = some '!' then
    let (text, cur) ← uri false false false start cur
    return (head, text, cur)
  let (text, cur) ← uri false true false start cur
  let text := head.drop 1 ++ text
  if text.isEmpty then return ([], ['!'], cur) else return (['!'], text, cur)

/-- A tag at the cursor; a gap follows it, or a comma in a flow collection. -/
def read (inFlow : Bool) (cur : Cursor) : Except SyntaxError (Token × Cursor) := do
  let start := cur.position
  let (handle, text, after) ← parts start cur
  if !atGap after.rest && !(inFlow && after.rest.head? = some ',') then
    throw (.within "while scanning a tag" start "did not find expected whitespace or line break"
      after.position)
  return (⟨.tag handle text, start, after.position⟩, after)

end Tag

namespace Directive

/-- What is told to be under way when a directive is broken. -/
def context : String := "while scanning a directive"

/-- A number of a version, of nine digits at most. -/
def versionNumber (start : Position) (cur : Cursor) : Except SyntaxError (Nat × Cursor) :=
  let context := "while scanning a %YAML directive"
  let digits := cur.rest.takeWhile Char.isDigit
  if digits.isEmpty then
    .error (.within context start "did not find expected version number" cur.position)
  else if 9 < digits.length then
    .error (.within context start "found extremely long version number" (cur.position.plus 9))
  else .ok (Nat.ofDigitChars 10 digits 0, cur.skip digits.length)

/-- The version that a directive asks for. -/
def version (start : Position) (cur : Cursor) : Except SyntaxError (Token.Kind × Cursor) := do
  let (major, cur) ← versionNumber start (cur.skipWhile isSpaceOrTab)
  if cur.rest.head? ≠ some '.' then
    throw (.within "while scanning a %YAML directive" start
      "did not find expected digit or '.' character" cur.position)
  let (minor, cur) ← versionNumber start (cur.skip 1)
  return (.versionDirective major minor, cur)

/-- The handle and the prefix that a directive declares. -/
def tag (start : Position) (cur : Cursor) : Except SyntaxError (Token.Kind × Cursor) := do
  let context := "while scanning a %TAG directive"
  let (handle, cur) ← Tag.handle true start (cur.skipWhile isSpaceOrTab)
  if !cur.rest.head?.any isSpaceOrTab then
    throw (.within context start "did not find expected whitespace" cur.position)
  let (text, cur) ← Tag.uri true false true start (cur.skipWhile isSpaceOrTab)
  if !atGap cur.rest then
    throw (.within context start "did not find expected whitespace or line break" cur.position)
  return (.tagDirective handle text, cur)

/-- A directive at the cursor, to the end of its line. -/
def read (cur : Cursor) : Except SyntaxError (Token × Cursor) := do
  let start := cur.position
  let inner := cur.skip 1
  let name := inner.rest.takeWhile isWordChar
  let cur := inner.skipWhile isWordChar
  if name.isEmpty then
    throw (.within context start "could not find expected directive name" cur.position)
  if !atGap cur.rest then
    throw (.within context start "found unexpected non-alphabetical character" cur.position)
  let (kind, cur) ←
    if name = "YAML".toList then version start cur
    else if name = "TAG".toList then tag start cur
    else throw (.within context start "found unknown directive name" cur.position)
  let after := cur.skipBlanksAndComment
  if !after.rest.head?.all isBreak then
    throw (.within context start "did not find expected comment or line break" after.position)
  return (⟨kind, start, cur.position⟩, after.skipBreak)

end Directive

end Sidecar.Yaml
