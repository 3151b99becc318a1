/-!
# Url/Punycode — labels beyond ASCII, in ASCII letters

The ASCII characters of a label come first.  The others follow as a list of insertions in ascending
order, each written as its distance from the one before in digits whose thresholds adapt.
-/

namespace Sidecar.Url.Punycode

/-- A digit to base 36: **the letters come first, and then the numerals.** -/
def digit (d : Nat) : Char := if d < 26 then Char.ofNat (97 + d) else Char.ofNat (22 + d)

/-- Where a digit at place `place` stops being the last one. -/
def threshold (place bias : Nat) : Nat := min 26 (max 1 (place - bias))

/-- Divides by 35 until a distance fits, counting 36 for each division. -/
def shrink (fuel distance bias : Nat) : Nat :=
  match fuel with
  | 0 => bias
  | fuel + 1 =>
    if 455 < distance then shrink fuel (distance / 35) (bias + 36)
    else bias + 36 * distance / (distance + 38)

/-- The bias after a distance has been written, with `count` characters placed. -/
def adapt (distance count : Nat) (isFirst : Bool) : Nat :=
  let halved := if isFirst then distance / 700 else distance / 2
  shrink distance (halved + halved / count) 0

/-- A distance in digits of adapting thresholds, least significant first. -/
def digits (fuel distance place bias : Nat) : List Char :=
  let t := threshold place bias
  match fuel with
  | 0 => [digit distance]
  | fuel + 1 =>
    if distance < t then [digit distance]
    else
      digit (t + (distance - t) % (36 - t))
        :: digits fuel ((distance - t) / (36 - t)) (place + 36) bias

/-- The characters beyond ASCII by code point and place, each with the number of characters that
stand before it when it is put in. -/
def insertions (label : List Char) : List (Nat × Nat) :=
  let placed := (label.zipIdx.filter fun (c, _) => 0x80 ≤ c.toNat).map fun (c, k) =>
    (c.toNat, ((label.take k).filter (·.toNat ≤ c.toNat)).length)
  placed.mergeSort fun a b => a.1 < b.1 || (a.1 == b.1 && a.2 ≤ b.2)

/-- How far the text has been written out. -/
structure Writer where
  point : Nat
  place : Nat
  count : Nat
  bias : Nat
  isFirst : Bool
  written : List Char

/-- Writes one character, by its distance from the one before. -/
def Writer.insert (w : Writer) : Nat × Nat → Writer := fun (point, place) =>
  let distance := (point - w.point) * (w.count + 1) + place - w.place
  { point, place := place + 1, count := w.count + 1, isFirst := false,
    bias := adapt distance (w.count + 1) w.isFirst,
    written := w.written ++ digits distance distance 36 w.bias }

/-- A label in ASCII; one that is ASCII already stays as it is. -/
def encode (label : List Char) : List Char :=
  let basic := label.filter (·.toNat < 0x80)
  if basic.length = label.length then label
  else
    let start := if basic.isEmpty then [] else basic ++ ['-']
    "xn--".toList ++ ((insertions label).foldl Writer.insert
      ⟨128, 0, basic.length, 72, true, start⟩).written

end Sidecar.Url.Punycode
