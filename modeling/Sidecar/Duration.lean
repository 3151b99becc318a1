import Sidecar.Text.Blank

/-!
# Duration — spans of time and how they are written

A duration is written as a number and a unit, `250ms`, `2s`, `10m` or `1h`; without a unit the
number counts seconds.  `Duration.parse` reads that form and `Duration.text` writes it with the
largest unit that leaves a whole number.
-/

namespace Sidecar

/-- A span of time, counted in nanoseconds. -/
structure Duration where
  nanos : Nat
deriving DecidableEq, Repr

namespace Duration

/-- The bound of a 64-bit count. -/
def wordBound : Nat := Nat.pow 2 64

/-- So many milliseconds. -/
def ofMillis (millis : Nat) : Duration := ⟨millis * 1000000⟩

/-- So many seconds. -/
def ofSeconds (seconds : Nat) : Duration := ofMillis (seconds * 1000)

/-- Seconds and the nanoseconds beyond them. -/
def ofParts (seconds nanos : Nat) : Duration := ⟨seconds * 1000000000 + nanos⟩

/-- The whole milliseconds in a duration. -/
def millis (d : Duration) : Nat := d.nanos / 1000000

/-- No time at all. -/
def isZero (d : Duration) : Bool := d.nanos == 0

theorem millis_ofMillis (n : Nat) : (ofMillis n).millis = n := by
  simp [millis, ofMillis]

/-! ## Units -/

/-- The units that a duration is written in. -/
inductive TimeUnit where
  | hours
  | minutes
  | seconds
  | milliseconds
deriving DecidableEq, Repr

namespace TimeUnit

/-- The milliseconds in one unit. -/
def factor : TimeUnit → Nat
  | hours => 3600000
  | minutes => 60000
  | seconds => 1000
  | milliseconds => 1

/-- How the unit is written after the number. -/
def suffix : TimeUnit → String
  | hours => "h"
  | minutes => "m"
  | seconds => "s"
  | milliseconds => "ms"

/-- Reads a unit in **any letter case**; an empty one means seconds. -/
def ofSuffix? (cs : List Char) : Option TimeUnit :=
  match cs.map Char.toLower with
  | [] => some seconds
  | ['s'] => some seconds
  | ['m', 's'] => some milliseconds
  | ['m'] => some minutes
  | ['h'] => some hours
  | _ => none

/-- The largest unit that divides a count of milliseconds evenly. -/
def largestFor (millis : Nat) : TimeUnit :=
  if millis % hours.factor == 0 then hours
  else if millis % minutes.factor == 0 then minutes
  else if millis % seconds.factor == 0 then seconds
  else milliseconds

end TimeUnit

/-! ## Reading -/

/-- Why a text is no duration. -/
inductive ParseError where
  | empty
  | badNumber (digits : String)
  | unknownUnit (suffix : String)
  | tooLarge (text : String)
deriving DecidableEq, Repr

/-- What is told of a text that is no duration. -/
def ParseError.message : ParseError → String
  | empty => "Empty duration string"
  | badNumber digits => s!"Invalid number in duration: {digits}"
  | unknownUnit suffix => s!"Unknown duration unit: {suffix}"
  | tooLarge text => s!"Duration value too large: {text}"

/-- The value of a non-empty run of digits, if it fits in 64 bits. -/
def number? (digits : List Char) : Option Nat :=
  let value := Nat.ofDigitChars 10 digits 0
  if digits.isEmpty || wordBound ≤ value then none else some value

/-- Reads a duration.  Blanks around it are ignored; **the number is judged before the unit, and
the product last**. -/
def parse (text : String) : Except ParseError Duration :=
  match Text.trim text.toList with
  | [] => .error .empty
  | trimmed =>
    let digits := trimmed.takeWhile Char.isDigit
    let suffix := trimmed.dropWhile Char.isDigit
    match number? digits, TimeUnit.ofSuffix? suffix with
    | none, _ => .error (.badNumber (String.ofList digits))
    | some _, none => .error (.unknownUnit (String.ofList suffix))
    | some value, some unit =>
      let millis := value * unit.factor
      if millis < wordBound then .ok (ofMillis millis)
      else .error (.tooLarge (String.ofList trimmed))

/-! ## Writing -/

/-- Writes a duration in its largest even unit.  **The milliseconds are taken modulo `2 ^ 64`.** -/
def text (d : Duration) : String :=
  let millis := d.millis % wordBound
  if millis == 0 then "0s"
  else
    let unit := TimeUnit.largestFor millis
    toString (millis / unit.factor) ++ unit.suffix

end Duration

end Sidecar
