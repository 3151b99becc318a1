import Sidecar.Binary64
import Sidecar.Text.Quoted
import Sidecar.Yaml.Document

/-!
# Yaml/Value — what a scalar stands for

A plain scalar may read as null, a truth value or a number; a standard tag says what any scalar is
to read as.  Everything else is a string.
-/

namespace Sidecar.Yaml

/-- What a scalar stands for. -/
inductive Value where
  | null
  | boolean (b : Bool)
  | integer (i : Int)
  | float (f : Binary64)
  | infinite (isNegative : Bool)
  | notANumber
  | text (s : List Char)
deriving DecidableEq, Repr

namespace Scalar

/-! ## The forms of the core schema -/

/-- A text that means that there is no value. -/
def isNull (cs : List Char) : Bool := ["null", "Null", "NULL", "~"].contains (String.ofList cs)

/-- The truth value that a text means. -/
def boolean? (cs : List Char) : Option Bool :=
  let s := String.ofList cs
  if ["true", "True", "TRUE"].contains s then some true
  else if ["false", "False", "FALSE"].contains s then some false
  else none

/-- The value of one or more digits of a base. -/
def natural? (base : Nat) (cs : List Char) : Option Nat :=
  if cs.isEmpty then none
  else
    cs.foldl (fun value c => do
      let v ← value
      let d ← Text.hexValue? c
      if d < base then some (v * base + d) else none) (some 0)

/-- A sign before a number. -/
def isSign (c : Char) : Bool := c = '+' || c = '-'

/-- Digits that are no number: **a zero in front of more digits makes a string.** -/
def isDigitString (cs : List Char) : Bool :=
  let cs := if cs.head?.any isSign then cs.drop 1 else cs
  match cs with
  | '0' :: c :: rest => (c :: rest).all Char.isDigit
  | _ => false

/-- The base that a beginning of two characters announces. -/
def base? : List Char → Option (Nat × List Char)
  | '0' :: 'x' :: rest => some (16, rest)
  | '0' :: 'o' :: rest => some (8, rest)
  | '0' :: 'b' :: rest => some (2, rest)
  | _ => none

/-- An integer without a minus sign, below `bound`. -/
def unsigned? (bound : Nat) (cs : List Char) : Option Nat :=
  let digits := match cs with
    | '+' :: rest => rest
    | _ => cs
  let bounded (n : Nat) : Option Nat := if n < bound then some n else none
  match base? digits with
  | some (base, rest) => (natural? base rest).bind bounded
  | none =>
    if isDigitString cs then none else (natural? 10 digits).bind bounded

/-- An integer with a sign, at least `-bound` and below `bound`. -/
def signed? (bound : Nat) (cs : List Char) : Option Int :=
  let negative (n : Nat) : Option Int := if n ≤ bound then some (-(n : Int)) else none
  let based := match cs with
    | '-' :: rest => (base? rest).bind fun (base, digits) => (natural? base digits).bind negative
    | _ => none
  match based with
  | some i => some i
  | none =>
    if isDigitString cs then none
    else
      match cs with
      | '-' :: digits => (natural? 10 digits).bind negative
      | '+' :: digits =>
        (natural? 10 digits).bind fun n => if n < bound then some (n : Int) else none
      | digits => (natural? 10 digits).bind fun n => if n < bound then some (n : Int) else none

/-- An integer of 64 bits, or of 128 where those are not enough. -/
def integer? (cs : List Char) : Option Int :=
  let unsigned (bound : Nat) : Option Int := (unsigned? bound cs).map Int.ofNat
  unsigned (Nat.pow 2 64) <|> signed? (Nat.pow 2 63) cs
    <|> unsigned (Nat.pow 2 128) <|> signed? (Nat.pow 2 127) cs

/-- A number in decimal notation: digits with at most one point among them, and perhaps an exponent;
gives the digits and the power of ten of the last one. -/
def decimal? (cs : List Char) : Option (Nat × Int) :=
  let isMark (c : Char) : Bool := c = 'e' || c = 'E'
  let number := cs.takeWhile (!isMark ·)
  let whole := number.takeWhile (· ≠ '.')
  let fraction := (number.dropWhile (· ≠ '.')).drop 1
  let exponent : Option Int := match cs.dropWhile (!isMark ·) with
    | [] => some 0
    | _ :: '-' :: digits => (natural? 10 digits).map fun n => -(n : Int)
    | _ :: '+' :: digits => (natural? 10 digits).map Int.ofNat
    | _ :: digits => (natural? 10 digits).map Int.ofNat
  match natural? 10 (whole ++ fraction), exponent with
  | some digits, some exponent => some (digits, exponent - fraction.length)
  | _, _ => none

/-- A number that need not be whole.  **Names of infinity begin with a point.** -/
def float? (cs : List Char) : Option Value :=
  let positive := match cs with
    | '+' :: rest => rest
    | _ => cs
  let isNamed (names : List String) (cs : List Char) : Bool := names.contains (String.ofList cs)
  if positive.head?.any isSign && positive.length < cs.length then none
  else if isNamed [".inf", ".Inf", ".INF"] positive then some (.infinite false)
  else if isNamed ["-.inf", "-.Inf", "-.INF"] cs then some (.infinite true)
  else if isNamed [".nan", ".NaN", ".NAN"] cs then some .notANumber
  else
    let isNegative := positive.head? = some '-'
    let digits := if isNegative then positive.drop 1 else positive
    (decimal? digits).bind fun (n, exponent) =>
      (Binary64.ofDecimal isNegative n exponent).map .float

/-- What a plain scalar without a tag stands for. -/
def resolve (cs : List Char) : Value :=
  if cs.isEmpty || isNull cs then .null
  else
    match boolean? cs, integer? cs with
    | some b, _ => .boolean b
    | none, some i => .integer i
    | none, none =>
      if isDigitString cs then .text cs else (float? cs).getD (.text cs)

/-! ## Tags -/

/-- The full name of a standard tag. -/
def standardTag (name : String) : List Char := "tag:yaml.org,2002:".toList ++ name.toList

/-- What a scalar stands for, or what it ought to have been by its tag. -/
def value (s : Scalar) : Except String Value :=
  let expecting (wanted : String) (v : Option Value) : Except String Value :=
    match v with
    | some v => .ok v
    | none => .error wanted
  match s.tag with
  | none => .ok (if s.style = .plain then resolve s.text else .text s.text)
  | some tag =>
    if tag = standardTag "bool" then expecting "a boolean" ((boolean? s.text).map .boolean)
    else if tag = standardTag "int" then expecting "an integer" ((integer? s.text).map .integer)
    else if tag = standardTag "float" then expecting "a float" (float? s.text)
    else if tag = standardTag "null" then
      expecting "null" (if isNull s.text then some .null else none)
    else if tag.head? = some '!' && s.style = .plain then .ok (resolve s.text)
    else .ok (.text s.text)

end Scalar

/-- How a message names a value. -/
def Value.describe : Value → String
  | .null => "unit value"
  | .boolean b => s!"boolean `{b}`"
  | .integer i =>
    if i < -(Nat.pow 2 63 : Int) then s!"integer `{i}` as i128"
    else if i < (Nat.pow 2 64 : Int) then s!"integer `{i}`"
    else s!"integer `{i}` as u128"
  | .float f => s!"floating point `{f.text}`"
  | .infinite isNegative => if isNegative then "floating point `-inf`" else "floating point `inf`"
  | .notANumber => "floating point `NaN`"
  | .text s => s!"string {Text.quoted (String.ofList s)}"

end Sidecar.Yaml
