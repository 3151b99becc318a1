import Mathlib.Data.List.Basic
import Sidecar.Yaml.Value

/-!
# Proofs/Yaml/Outline — nested block mappings, one entry a line

An `Outline` is a document of a simple form: each entry has a line of its own, with a key of
lower-case letters and underscores; its value is a double-quoted text or a natural number on the
same line, or a further outline on the lines below.  `Outline.written` is its text, `Outline.kinds`
and `Outline.items` are the tokens and the items that it comes to, and `Outline.entries` is what it
says.
-/

namespace Sidecar.Yaml

/-! ## Keys -/

/-- Lower-case letters and underscores. -/
def isKeyChar (c : Char) : Bool := c.isLower || c = '_'

/-- A key that is written plainly: **small letters and low lines, at least one.** -/
structure Key where
  chars : List Char
  ne_nil : chars ≠ []
  isKeyChar : ∀ c ∈ chars, isKeyChar c
deriving DecidableEq

/-- The name that a key is read as. -/
def Key.name (k : Key) : String := String.ofList k.chars

/-! ## Quoted texts -/

/-- The characters that stand for themselves between double quotes, on one line. -/
def isQuotable (c : Char) : Bool := isPrintable c && !isBreak c && c ≠ '"' && c ≠ '\\'

/-- How one character is written between double quotes. -/
inductive Piece where
  | raw (c : Char) (h : isQuotable c)
  | letter (d c : Char) (h : Quoted.escaped? d = some c)
  /-- By its code point, in as many hexadecimal digits as the letter asks for. -/
  | code (d : Char) (digits : List Char) (c : Char) (hd : Quoted.digitCount? d = some digits.length)
      (hc : Scalar.natural? 16 digits = some c.toNat)

namespace Piece

/-- The character that is written. -/
def char : Piece → Char
  | raw c _ => c
  | letter _ c _ => c
  | code _ _ c _ _ => c

/-- The characters that a piece is written as. -/
def chars : Piece → List Char
  | raw c _ => [c]
  | letter d _ _ => ['\\', d]
  | code d digits _ _ _ => '\\' :: d :: digits

end Piece

/-- The text that pieces stand for. -/
def text (pieces : List Piece) : List Char := pieces.map Piece.char

/-- The pieces between double quotes. -/
def quoted (pieces : List Piece) : List Char := '"' :: (pieces.flatMap Piece.chars ++ ['"'])

/-- A natural number in decimal digits, without zeros in front. -/
def decimal (n : Nat) : List Char := Nat.toDigits 10 n

theorem isDigit_of_mem_decimal {n : Nat} {c : Char} (h : c ∈ decimal n) : c.isDigit :=
  Nat.isDigit_of_mem_toDigits (by decide) (by decide) h

theorem decimal_ne_nil (n : Nat) : decimal n ≠ [] := Nat.toDigits_ne_nil

/-! ## Lines -/

/-- Lines, with the spaces in front of each. -/
abbrev Lines := List (Nat × List Char)

namespace Lines

/-- What follows a line: the lines after it, each behind a line break. -/
def after (ending : List Char) : Lines → List Char
  | [] => ending
  | (n, line) :: rest => '\n' :: (List.replicate n ' ' ++ (line ++ after ending rest))

/-- The text from the first line's first character on. -/
def front (ending : List Char) : Lines → List Char
  | [] => []
  | (_, line) :: rest => line ++ after ending rest

end Lines

/-! ## Outlines -/

/-- The entries of a mapping from one on. -/
inductive Outline where
  | nil
  | text (key : Key) (value : List Piece) (rest : Outline)
  | number (key : Key) (n : Nat) (rest : Outline)
  /-- A mapping below its key, indented by `step + 1` more spaces. -/
  | group (key : Key) (step : Nat) (body rest : Outline)

namespace Outline

/-- The lines of an outline in a column. -/
def lines (column : Nat) : Outline → Lines
  | nil => []
  | text key value rest => (column, key.chars ++ ':' :: ' ' :: quoted value) :: rest.lines column
  | number key n rest => (column, key.chars ++ ':' :: ' ' :: decimal n) :: rest.lines column
  | group key step body rest =>
    (column, key.chars ++ [':']) :: (body.lines (column + step + 1) ++ rest.lines column)

/-- The text of an outline in a column. -/
def written (column : Nat) (ending : List Char) (o : Outline) : String :=
  String.ofList (List.replicate column ' ' ++ (o.lines column).front ending)

/-- No mapping in the outline is empty. -/
def IsFilled : Outline → Prop
  | nil => True
  | text _ _ rest => rest.IsFilled
  | number _ _ rest => rest.IsFilled
  | group _ _ body rest => body ≠ nil ∧ body.IsFilled ∧ rest.IsFilled

/-- The keys of an outline, those of the mappings in it included. -/
def allKeys : Outline → List Key
  | nil => []
  | text key _ rest => key :: rest.allKeys
  | number key _ rest => key :: rest.allKeys
  | group key _ body rest => key :: (body.allKeys ++ rest.allKeys)

open Token.Kind in
/-- The tokens of an outline, without those that enclose the mapping. -/
def kinds : Outline → List Token.Kind
  | nil => []
  | text k v rest => [key, scalar k.chars .plain, value, scalar (Yaml.text v) .doubleQuoted]
      ++ rest.kinds
  | number k n rest => [key, scalar k.chars .plain, value, scalar (decimal n) .plain] ++ rest.kinds
  | group k _ body rest =>
    [key, scalar k.chars .plain, value, blockMappingStart] ++ body.kinds ++ [blockEnd] ++ rest.kinds

/-- The items of an outline, without those that enclose the mapping. -/
def items : Outline → List Item
  | nil => []
  | text k v rest =>
    [.scalar ⟨k.chars, .plain, none⟩, .scalar ⟨Yaml.text v, .doubleQuoted, none⟩] ++ rest.items
  | number k n rest =>
    [.scalar ⟨k.chars, .plain, none⟩, .scalar ⟨decimal n, .plain, none⟩] ++ rest.items
  | group k _ body rest =>
    [.scalar ⟨k.chars, .plain, none⟩, .mappingStart] ++ body.items ++ [.mappingEnd] ++ rest.items

/-- What stands under a key. -/
inductive Content where
  | text (value : List Piece)
  | number (n : Nat)
  | group (body : Outline)

/-- The keys of an outline with what stands under them, those of the mappings in it left aside. -/
def entries : Outline → List (Key × Content)
  | nil => []
  | text key value rest => (key, .text value) :: rest.entries
  | number key n rest => (key, .number n) :: rest.entries
  | group key _ body rest => (key, .group body) :: rest.entries

/-- The names of the entries, in order. -/
def names (o : Outline) : List String := o.entries.map (·.1.name)

/-- What stands under the first key of a name. -/
def lookup (o : Outline) (name : String) : Option Content :=
  (o.entries.find? (·.1.name = name)).map (·.2)

namespace Content

/-- The value of a text. -/
def text? : Content → Option String
  | text value => some (String.ofList (Yaml.text value))
  | _ => none

/-- The value of a number. -/
def number? : Content → Option Nat
  | number n => some n
  | _ => none

/-- The entries of a group. -/
def group? : Content → Option Outline
  | group body => some body
  | _ => none

end Content

/-- The text that stands under a name. -/
def text? (o : Outline) (name : String) : Option String := (o.lookup name).bind Content.text?

/-- The number that stands under a name. -/
def number? (o : Outline) (name : String) : Option Nat := (o.lookup name).bind Content.number?

/-- The group that stands under a name. -/
def group? (o : Outline) (name : String) : Option Outline := (o.lookup name).bind Content.group?

/-- The value of a field is what stands under its key, or a default where there is no such key. -/
def Tells {κ γ : Type} (given : Option κ) (IsValue : κ → γ → Prop) (default value : γ) : Prop :=
  match given with
  | some k => IsValue k value
  | none => value = default

/-- **What is told is the given value, or else the default.** -/
theorem tells_eq_iff {κ : Type} {given : Option κ} {default value : κ} :
    Tells given (fun k v => v = k) default value ↔ value = given.getD default := by
  cases given <;> rfl

theorem tells_some_iff {κ : Type} {given value : Option κ} :
    Tells given (fun k v => v = some k) none value ↔ given = value := by
  cases given <;> simp [Tells, eq_comm]

/-- Every key is known, and none is repeated. -/
structure HasFields (o : Outline) (known : List String) : Prop where
  known : ∀ name ∈ o.names, name ∈ known
  nodup : o.names.Nodup

/-- What stands under the keys of these names is of a kind. -/
def HasKind {α : Type} (o : Outline) (select : Content → Option α) (names : List String) : Prop :=
  ∀ e ∈ o.entries, e.1.name ∈ names → ∃ a, select e.2 = some a

/-- **Whether contents are of a kind can be computed.** -/
theorem hasKind_iff {α : Type} {o : Outline} {select : Content → Option α} {names : List String} :
    o.HasKind select names ↔ o.entries.all fun e => e.1.name ∉ names || (select e.2).isSome := by
  simp [HasKind, Option.isSome_iff_exists, imp_iff_not_or]

end Outline

end Sidecar.Yaml
