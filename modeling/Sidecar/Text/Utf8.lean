/-!
# Text/Utf8 — octets and characters

`Utf8.encode` writes characters as octets.  `Utf8.decode` reads any octets: **each longest beginning
of a character that breaks off becomes one replacement character**, so that reading never fails.
-/

namespace Sidecar.Text.Utf8

/-- The octets of a text. -/
def encode (cs : List Char) : List UInt8 := cs.flatMap String.utf8EncodeChar

/-- A character that has begun: its bits so far, the octets owed, and the next one's bounds. -/
structure Pending where
  bits : Nat
  owed : Nat
  low : Nat
  high : Nat
deriving DecidableEq, Repr

/-- What an octet between two characters does. -/
inductive Opening where
  | char (c : Char)
  | begins (p : Pending)
  | malformed
deriving DecidableEq, Repr

/-- The first octet of a character, with the bounds that rule out overlong forms and surrogates. -/
def opening (octet : UInt8) : Opening :=
  let b := octet.toNat
  if b < 0x80 then .char (Char.ofNat b)
  else if b < 0xC2 then .malformed
  else if b < 0xE0 then .begins ⟨b - 0xC0, 1, 0x80, 0xBF⟩
  else if b < 0xF0 then
    .begins ⟨b - 0xE0, 2, if b = 0xE0 then 0xA0 else 0x80, if b = 0xED then 0x9F else 0xBF⟩
  else if b < 0xF5 then
    .begins ⟨b - 0xF0, 3, if b = 0xF0 then 0x90 else 0x80, if b = 0xF4 then 0x8F else 0xBF⟩
  else .malformed

/-- Stands for octets that are no character. -/
def replacement : Char := '\uFFFD'

/-- Reads octets from between characters, or inside the one that is pending. -/
def decodeFrom : Option Pending → List UInt8 → List Char
  | none, [] => []
  | some _, [] => [replacement]
  | none, b :: bs =>
    match opening b with
    | .char c => c :: decodeFrom none bs
    | .begins p => decodeFrom (some p) bs
    | .malformed => replacement :: decodeFrom none bs
  | some p, b :: bs =>
    if p.low ≤ b.toNat && b.toNat ≤ p.high then
      let bits := p.bits * 64 + (b.toNat - 0x80)
      if p.owed = 1 then Char.ofNat bits :: decodeFrom none bs
      else decodeFrom (some ⟨bits, p.owed - 1, 0x80, 0xBF⟩) bs
    else
      match opening b with
      | .char c => replacement :: c :: decodeFrom none bs
      | .begins q => replacement :: decodeFrom (some q) bs
      | .malformed => replacement :: replacement :: decodeFrom none bs

/-- The characters that octets spell. -/
def decode (octets : List UInt8) : List Char := decodeFrom none octets

end Sidecar.Text.Utf8
