import Sidecar.Url.Percent
import Sidecar.Url.Punycode

/-!
# Url/Host — the host part of an address

A host is an address of the internet protocol, in version 4 or 6, or a domain name.  **A name whose
last label is a number must be a version 4 address.**  What a name beyond ASCII stands for is read
off tables, which are given from outside (`Idna`).
-/

namespace Sidecar.Url

/-- Why a text is no address that a request can be sent to. -/
inductive Fault where
  | emptyHost
  | badDomain
  | badIpv4
  | badIpv6
  | badPort
  | noScheme
  | otherScheme
deriving DecidableEq, Repr

/-- What is said of a fault. -/
def Fault.message : Fault → String
  | emptyHost => "empty host"
  | badDomain => "invalid international domain name"
  | badIpv4 => "invalid IPv4 address"
  | badIpv6 => "invalid IPv6 address"
  | badPort => "invalid port number"
  | noScheme => "relative URL without a base"
  | otherScheme => "URL scheme is not allowed"

/-- The processing of international domain names, whose tables are no part of this library. -/
class Idna where
  /-- What a name is in ASCII, **unless it is refused.** -/
  toAscii? : List Char → Option (List Char)

/-- A server's place in the network. -/
inductive Host where
  | domain (name : List Char)
  | ipv4 (address : Nat)
  | ipv6 (pieces : List Nat)
deriving DecidableEq, Repr

namespace Host

/-! ## Version 4 -/

/-- A number in decimal, or with `0x` in hexadecimal, or with a leading `0` in octal. -/
def number? (cs : List Char) : Option Nat :=
  let inBase (base : Nat) (digits : List Char) : Option Nat :=
    digits.foldl (fun value c => do
      let v ← value
      let d ← Text.hexValue? c
      if d < base then some (v * base + d) else none) (some 0)
  match cs with
  | [] => none
  | '0' :: 'x' :: digits => inBase 16 digits
  | '0' :: 'X' :: digits => inBase 16 digits
  | '0' :: c :: digits => inBase 8 (c :: digits)
  | digits => inBase 10 digits

/-- The labels of a name; a final dot closes the last one. -/
def labels (name : List Char) : List (List Char) :=
  let parts := name.splitOn '.'
  if parts.getLast? = some [] then parts.dropLast else parts

/-- Whether the last label reads as a number. -/
def endsInNumber (name : List Char) : Bool :=
  match (labels name).getLast? with
  | none => false
  | some [] => false
  | some last => last.all Char.isDigit || (number? last).isSome

/-- **Up to three octets and a last number that fills the rest.** -/
def parseIpv4 (name : List Char) : Except Fault Host :=
  match (labels name).mapM number? with
  | none => .error .badIpv4
  | some parts =>
    let leading := parts.dropLast
    let last := parts.getLastD 0
    if 4 < parts.length || leading.any (255 < ·) || Nat.pow 256 (4 - leading.length) ≤ last then
      .error .badIpv4
    else
      let place (address : Nat) : Nat × Nat → Nat := fun (n, i) => address + n * Nat.pow 256 (3 - i)
      .ok (.ipv4 (leading.zipIdx.foldl place last))

/-! ## Version 6 -/

/-- One to four hexadecimal digits. -/
def piece? (cs : List Char) : Option Nat :=
  if cs.isEmpty || 4 < cs.length then none
  else (cs.mapM Text.hexValue?).map (·.foldl (fun value d => value * 16 + d) 0)

/-- A decimal octet without a leading zero. -/
def octet? (cs : List Char) : Option Nat :=
  if cs.isEmpty || !cs.all Char.isDigit || (1 < cs.length && cs.head? = some '0') then none
  else
    let value := Nat.ofDigitChars 10 cs 0
    if value ≤ 255 then some value else none

/-- The two pieces that a dotted version 4 address stands for. -/
def dotted? (cs : List Char) : Option (List Nat) := do
  let octets ← (cs.splitOn '.').mapM octet?
  match octets with
  | [a, b, c, d] => some [a * 256 + b, c * 256 + d]
  | _ => none

/-- Pieces between colons, of which the last may be dotted. -/
def pieces? (dottedEnd : Bool) (cs : List Char) : Option (List Nat) :=
  if cs.isEmpty then some []
  else
    let parts := cs.splitOn ':'
    let last := parts.getLastD []
    if dottedEnd && last.contains '.' then do
      let front ← parts.dropLast.mapM piece?
      let tail ← dotted? last
      some (front ++ tail)
    else parts.mapM piece?

/-- The text before the first double colon and the text after it. -/
def splitDoubleColon : List Char → Option (List Char × List Char)
  | ':' :: ':' :: cs => some ([], cs)
  | [] => none
  | c :: cs => (splitDoubleColon cs).map fun (before, after) => (c :: before, after)

/-- **Eight pieces, or fewer with a double colon for the missing ones.** -/
def parseIpv6 (cs : List Char) : Except Fault Host :=
  let pieces : Option (List Nat) :=
    match splitDoubleColon cs with
    | none => pieces? true cs
    | some (before, after) => do
      let front ← pieces? false before
      let back ← pieces? true after
      if front.length + back.length ≤ 7 then
        some (front ++ List.replicate (8 - front.length - back.length) 0 ++ back)
      else none
  match pieces with
  | some ps => if ps.length = 8 then .ok (.ipv6 ps) else .error .badIpv6
  | none => .error .badIpv6

/-! ## Domains -/

/-- The characters that no domain holds. -/
def isForbidden (c : Char) : Bool :=
  c.toNat ≤ 0x20 || c.toNat = 0x7F || "%#/:<>?@[\\]^|".toList.contains c

/-- The small letter of a capital in the Latin, Greek and Cyrillic alphabets, and the plain form of
a full-width character. -/
def fold (c : Char) : Char :=
  let n := c.toNat
  if 0xC0 ≤ n && n ≤ 0xDE && n ≠ 0xD7 then Char.ofNat (n + 0x20)
  else if 0x391 ≤ n && n ≤ 0x3A9 then Char.ofNat (n + 0x20)
  else if 0x410 ≤ n && n ≤ 0x42F then Char.ofNat (n + 0x20)
  else if 0x400 ≤ n && n ≤ 0x40F then Char.ofNat (n + 0x50)
  else if 0xFF01 ≤ n && n ≤ 0xFF5E then (Char.ofNat (n - 0xFEE0)).toLower
  else if n = 0x3002 || n = 0xFF0E || n = 0xFF61 then '.'
  else c.toLower

/-- The forbidden characters that tell the parts of an address apart. -/
def isDelimiter (c : Char) : Bool := "#/:?@[\\]".toList.contains c

/-- Whether a label has the mark of one that stands for characters beyond ASCII. -/
def isEncoded (label : List Char) : Bool := (label.take 4).map Char.toLower = "xn--".toList

/-- Whether it takes tables to read a name: **a character of it or what a label stands for is beyond
ASCII.** -/
def isInternational (name : List Char) : Bool :=
  name.any (0x80 ≤ ·.toNat) || (name.splitOn '.').any isEncoded

/-- A name in lower case and ASCII.  **What the tables refuse is refused**, and so is a forbidden
character in a name that needs no tables. -/
def domainToAscii [Idna] (octets : List UInt8) : Except Fault (List Char) :=
  let name := Text.Utf8.decode octets
  if isInternational name then
    if name.contains Text.Utf8.replacement || name.any isDelimiter then .error .badDomain
    else ((Idna.toAscii? name).map Except.ok).getD (.error .badDomain)
  else if name.any isForbidden then .error .badDomain
  else .ok (name.map Char.toLower)

/-- Stands in for the tables where none are given, **with those of three alphabets.** -/
instance (priority := low) threeAlphabets : Idna where
  toAscii? name :=
    let cs := name.map fold
    if cs.any isForbidden then none
    else some (['.'].intercalate ((cs.splitOn '.').map Punycode.encode))

/-! ## Reading and writing -/

/-- Reads a host: an address in brackets, or a name after its escapes. -/
def parse [Idna] (cs : List Char) : Except Fault Host :=
  match cs with
  | '[' :: rest =>
    if rest.getLast? = some ']' then parseIpv6 rest.dropLast else .error .badIpv6
  | _ => do
    let name ← domainToAscii (Percent.decode cs)
    if name.isEmpty then .error .emptyHost
    else if endsInNumber name then parseIpv4 name
    else .ok (.domain name)

/-- The first of the longest runs of zeros in a list of pieces, as `(start, length)`. -/
def longestZeros : Nat → List Nat → Nat × Nat
  | _, [] => (0, 0)
  | i, p :: ps =>
    let run := ((p :: ps).takeWhile (· == 0)).length
    let (start, length) := longestZeros (i + 1) ps
    if length ≤ run then (i, run) else (start, length)

/-- A piece, in digits of 16. -/
def hexText (n : Nat) : List Char := Nat.toDigits 16 n

/-- Pieces, with a colon between them. -/
def piecesText (pieces : List Nat) : List Char := [':'].intercalate (pieces.map hexText)

/-- **The longest run of two or more zeros, the first of equals, is left out.** -/
def ipv6Text (pieces : List Nat) : List Char :=
  let (start, length) := longestZeros 0 pieces
  if length < 2 then piecesText pieces
  else piecesText (pieces.take start) ++ [':', ':'] ++ piecesText (pieces.drop (start + length))

/-- How a host is written. -/
def text : Host → List Char
  | domain name => name
  | ipv4 a =>
    let octets := [a / 16777216, a / 65536 % 256, a / 256 % 256, a % 256]
    ['.'].intercalate (octets.map (Nat.toDigits 10))
  | ipv6 pieces => '[' :: ipv6Text pieces ++ [']']

/-- Whether a request line can carry the host: a domain may hold characters that it cannot. -/
def isSendable (h : Host) : Bool := !h.text.any fun c => "\"`\x7b\x7d".toList.contains c

end Host

end Sidecar.Url
