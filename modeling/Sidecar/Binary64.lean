/-!
# Binary64 — numbers of fifty-three significant bits

A finite number of the 64-bit binary format is `±m · 2 ^ q`.  `nearest` rounds a decimal to one, and
`text` writes one with **the fewest digits that round to it**, in positional notation.
-/

namespace Sidecar

/-- A finite number `±significand · 2 ^ exponent`. -/
structure Binary64 where
  isNegative : Bool
  significand : Nat
  exponent : Int
deriving DecidableEq, Repr

namespace Binary64

/-- The least exponent. -/
def leastExponent : Int := -1074

/-- The exponent of the largest numbers. -/
def greatestExponent : Int := 971

/-- `num / den` rounded to a whole number, **a tie going to the even one.** -/
def roundDiv (num den : Nat) : Nat :=
  let quotient := num / den
  let twice := 2 * (num % den)
  if twice < den || (twice = den && quotient % 2 = 0) then quotient else quotient + 1

/-- A fraction times a power of two. -/
def scale (num den : Nat) (exponent : Int) : Nat × Nat :=
  if 0 ≤ exponent then (num * Nat.pow 2 exponent.toNat, den)
  else (num, den * Nat.pow 2 (-exponent).toNat)

/-- The number nearest to a fraction, if it is finite. -/
def nearest (isNegative : Bool) (num den : Nat) : Option Binary64 :=
  if num = 0 then some ⟨isNegative, 0, leastExponent⟩
  else
    let guess := max leastExponent ((num.log2 : Int) - (den.log2 : Int) - 53)
    let (n, d) := scale num den (-guess)
    let exponent := if Nat.pow 2 53 ≤ n / d then guess + 1 else guess
    let (n, d) := scale num den (-exponent)
    let significand := roundDiv n d
    let (significand, exponent) :=
      if significand = Nat.pow 2 53 then (Nat.pow 2 52, exponent + 1) else (significand, exponent)
    if greatestExponent < exponent then none else some ⟨isNegative, significand, exponent⟩

/-- The number nearest to `digits · 10 ^ exponent`, if it is finite. -/
def ofDecimal (isNegative : Bool) (digits : Nat) (exponent : Int) : Option Binary64 :=
  let magnitude : Int := (Nat.toDigits 10 digits).length + exponent
  if digits = 0 || magnitude < -330 then some ⟨isNegative, 0, leastExponent⟩
  else if 310 < magnitude then none
  else if 0 ≤ exponent then nearest isNegative (digits * Nat.pow 10 exponent.toNat) 1
  else nearest isNegative digits (Nat.pow 10 (-exponent).toNat)

/-! ## Writing -/

/-- The numbers between which everything rounds to a positive number, and that number, as numerators
over one denominator. -/
def neighbourhood (b : Binary64) : Nat × Nat × Nat × Nat :=
  let m := b.significand
  let below := if m = Nat.pow 2 52 && b.exponent ≠ leastExponent then 1 else 2
  let (unit, den) := scale 1 1 (b.exponent - 2)
  ((4 * m - below) * unit, 4 * m * unit, (4 * m + 2) * unit, den)

/-- The number of decimal digits before the point of `num / den`, negative for zeros after it. -/
def decimalPoint (num den : Nat) : Int :=
  if den ≤ num then (Nat.toDigits 10 (num / den)).length
  else
    let zeros := (Nat.toDigits 10 ((den - 1) / num)).length
    if num * Nat.pow 10 zeros < den then -(zeros : Int) else 1 - (zeros : Int)

/-- The multiple of `10 ^ (point - digits)` nearest to the number, if it rounds to it. -/
def candidate? (b : Binary64) (point : Int) (digits : Nat) : Option Nat :=
  let (low, value, high, den) := b.neighbourhood
  let power := point - digits
  let (n, d) := if 0 ≤ power then (1, Nat.pow 10 power.toNat) else (Nat.pow 10 (-power).toNat, 1)
  let isInside (k : Nat) : Bool :=
    if b.significand % 2 = 0 then low * n ≤ k * d * den && k * d * den ≤ high * n
    else low * n < k * d * den && k * d * den < high * n
  let floor := value * n / (den * d)
  let near := roundDiv (value * n) (den * d)
  if isInside near then some near
  else if isInside floor then some floor
  else if isInside (floor + 1) then some (floor + 1)
  else none

/-- The fewest digits that round to a number, and the power of ten of the last one. -/
def shortest (b : Binary64) : Nat × Int :=
  let (_, value, _, den) := b.neighbourhood
  let point := decimalPoint value den
  let found := (List.range 17).findSome? fun n =>
    (b.candidate? point (n + 1)).map fun k => (k, point - (n + 1))
  found.getD (0, 0)

/-- `digits · 10 ^ power` in positional notation, **with a point and a digit after it.** -/
def positional (digits : Nat) (power : Int) : List Char :=
  let cs := Nat.toDigits 10 digits
  if 0 ≤ power then cs ++ List.replicate power.toNat '0' ++ ['.', '0']
  else
    let places := (-power).toNat
    let cs := List.replicate (places + 1 - cs.length) '0' ++ cs
    let fraction := (cs.drop (cs.length - places)).reverse.dropWhile (· == '0')
    cs.take (cs.length - places) ++ '.' :: (if fraction.isEmpty then ['0'] else fraction.reverse)

/-- The text of a number: **the shortest digits that are read as it**, with a point. -/
def text (b : Binary64) : String :=
  let sign := if b.isNegative then ['-'] else []
  if b.significand = 0 then String.ofList (sign ++ ['0', '.', '0'])
  else
    let (digits, power) := b.shortest
    String.ofList (sign ++ positional digits power)

end Binary64

end Sidecar
