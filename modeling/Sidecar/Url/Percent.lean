import Sidecar.Text.Hex
import Sidecar.Text.Utf8

/-!
# Url/Percent — percent encoding

Each part of an address has its own set of characters that may not stand for themselves; such a
character is written as its octets, `%` and two hexadecimal digits each.
-/

namespace Sidecar.Url

namespace Percent

/-! ## Encode sets -/

/-- Controls and everything beyond ASCII: **encoded in every part.** -/
def always (c : Char) : Bool := c.toNat < 0x20 || 0x7E < c.toNat

/-- What is encoded in a fragment. -/
def inFragment (c : Char) : Bool := always c || " \"<>`".toList.contains c

/-- What is encoded in a query. -/
def inQuery (c : Char) : Bool := always c || " \"#<>'".toList.contains c

/-- What is encoded in a path. -/
def inPath (c : Char) : Bool := inFragment c || "#?\x7b\x7d".toList.contains c

/-- What is encoded in a user's name and password. -/
def inUserInfo (c : Char) : Bool := inPath c || "/:;=@[\\]^|".toList.contains c

/-! ## Coding -/

/-- An octet as a percent sign and two digits. -/
def encodeOctet (octet : UInt8) : List Char :=
  ['%', Text.hexDigit (octet.toNat / 16), Text.hexDigit (octet.toNat % 16)]

/-- Writes the characters of `set` as octets and the others as they are. -/
def encode (set : Char → Bool) (cs : List Char) : List Char :=
  cs.flatMap fun c => if set c then (String.utf8EncodeChar c).flatMap encodeOctet else [c]

/-- The octets that percent-encoded text stands for; a `%` without two digits stands for itself. -/
def decode : List Char → List UInt8
  | [] => []
  | '%' :: a :: b :: cs =>
    match Text.hexValue? a, Text.hexValue? b with
    | some x, some y => UInt8.ofNat (x * 16 + y) :: decode cs
    | _, _ => 0x25 :: decode (a :: b :: cs)
  | c :: cs => String.utf8EncodeChar c ++ decode cs

end Percent

end Sidecar.Url
