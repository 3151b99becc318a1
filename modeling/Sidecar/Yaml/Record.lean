import Sidecar.Yaml.Value

/-!
# Yaml/Record — texts, numbers and records in a document

A record is a mapping whose keys are names known beforehand, each at most once.  A record is read in
the document's order, and **the first thing that is wrong in it is what is reported**.
-/

namespace Sidecar.Yaml

/-! ## What may be wrong -/

/-- What is wrong with a node. -/
inductive Complaint where
  | wrongType (found expected : String)
  | wrongValue (found expected : String)
  | unknownField (name : String) (known : List String)
  | repeatedField (name : String)
  | missingField (name : String)
  /-- The reader of the field does not accept its text. -/
  | refused (reason : String)
deriving DecidableEq, Repr

/-- What a complaint says. -/
def Complaint.message : Complaint → String
  | wrongType found expected => s!"invalid type: {found}, expected {expected}"
  | wrongValue found expected => s!"invalid value: {found}, expected {expected}"
  | unknownField name known =>
    let names := ", ".intercalate (known.map fun n => s!"`{n}`")
    s!"unknown field `{name}`, expected one of {names}"
  | repeatedField name => s!"duplicate field `{name}`"
  | missingField name => s!"missing field `{name}`"
  | refused reason => reason

/-- The keys that lead to a node; `none` stands for a key without a text of its own. -/
abbrev Trail := List (Option String)

/-- The keys of a trail, with points between them. -/
def Trail.text (trail : Trail) : String := ".".intercalate (trail.map (·.getD "?"))

/-- What a reader stops at. -/
inductive Issue where
  | complaint (c : Complaint)
  | fault (f : Fault)
deriving DecidableEq, Repr

/-- Why a document is no record of the kind that is asked for. -/
structure RecordError where
  issue : Issue
  /-- The node that a complaint is about: its place, and the keys that lead there as they stand in
  the document. -/
  spot? : Option (Position × Trail)
  /-- The fields that lead to the reader that stopped. -/
  trail : Trail
deriving DecidableEq, Repr

namespace RecordError

/-- A complaint about no node in particular. -/
def complaint (c : Complaint) : RecordError := ⟨.complaint c, none, []⟩

/-- The fault that a document breaks off with. -/
def fault (f : Fault) : RecordError := ⟨.fault f, none, []⟩

/-- Points a complaint without a node of its own to the node at `p`. -/
def settle (e : RecordError) (p : Position) : RecordError :=
  match e.issue, e.spot? with
  | .complaint _, none => { e with spot? := some (p, []) }
  | _, _ => e

/-- The error as it is seen from the record in which a key leads to it. -/
def under (e : RecordError) (field : Option String) : RecordError :=
  { e with trail := field :: e.trail }

/-- The error as it is seen from the record that holds the node.  `field` is the field's name and
`key` its key's own text. -/
def inside (e : RecordError) (field key : Option String) : RecordError :=
  { e with spot? := e.spot?.map fun (p, trail) => (p, key :: trail) }.under field

/-- Where an error lies, if it lies anywhere. -/
def position? (e : RecordError) : Option Position :=
  match e.issue with
  | .complaint _ => e.spot?.map (·.1)
  | .fault f => f.position?

/-- What is told of an error: **the trail, the complaint and the place.** -/
def message (e : RecordError) : String :=
  match e.issue, e.spot? with
  | .complaint c, some (p, trail) =>
    (if trail.isEmpty then "" else trail.text ++ ": ") ++ c.message ++ p.suffix
  | .complaint c, none => c.message
  | .fault f, _ => f.message

/-- The message behind the fields that lead to it. -/
def trailMessage (e : RecordError) : String :=
  (if e.trail.all (·.isNone) then "" else e.trail.text ++ ": ") ++ e.message

/-- The message behind the fields that lead to it, as far as they have a text, and its place. -/
def fullMessage (e : RecordError) : String :=
  let place := match e.position? with
    | some p => s!"Line {p.line + 1}, Column {p.column + 1}: "
    | none => ""
  let trail := e.trail.text
  (if trail.isEmpty || trail = "." then "" else trail ++ ": ") ++ place ++ e.message

end RecordError

/-! ## Nodes -/

/-- A node, by the items from its first one on. -/
abbrev Node := List (Item × Position)

/-- The node itself, or the one that it is an alias for. -/
def Document.target (d : Document) : Node → Node
  | (.alias number, _) :: _ => d.fromNode number
  | node => node

/-- What a reader finds where the document breaks off. -/
def Document.brokenOff (d : Document) : RecordError := .fault (d.fault.getD .ended)

/-- How many collections are open after an item if `depth` are before it. -/
def Item.depth (depth : Nat) : Item → Nat
  | sequenceStart => depth + 1
  | mappingStart => depth + 1
  | sequenceEnd => depth - 1
  | mappingEnd => depth - 1
  | _ => depth

/-- What follows a node of which `depth` collections are open. -/
def afterNode (depth : Nat) : Node → Node
  | [] => []
  | (item, _) :: rest =>
    match item.depth depth with
    | 0 => rest
    | d + 1 => afterNode (d + 1) rest

/-- What follows a node is shorter than the node and what follows it. -/
theorem length_afterNode_le (depth : Nat) (node : Node) :
    (afterNode depth node).length ≤ node.length - 1 := by
  induction node generalizing depth with
  | nil => simp [afterNode]
  | cons head rest ih =>
    obtain ⟨item, p⟩ := head
    simp only [afterNode, List.length_cons, Nat.add_sub_cancel]
    split
    · exact Nat.le_refl _
    · exact Nat.le_trans (ih _) (Nat.sub_le _ _)

/-- A key of a mapping and its value. -/
structure Entry where
  key : Node
  value : Node

/-- The entries of a mapping, from the items after its start, and whether its end is there. -/
def entries (node : Node) : List Entry × Bool :=
  match node with
  | [] => ([], false)
  | (.mappingEnd, _) :: _ => ([], true)
  | item :: items =>
    let value := afterNode 0 (item :: items)
    let (rest, isClosed) := entries (afterNode 0 value)
    (⟨item :: items, value⟩ :: rest, isClosed)
termination_by node.length
decreasing_by
  have := length_afterNode_le 0 (item :: items)
  have := length_afterNode_le 0 (afterNode 0 (item :: items))
  simp only [List.length_cons] at *
  omega

/-! ## Scalars -/

/-- The complaint about an item where something else is wanted. -/
def Item.mismatch (expected : String) : Item → Complaint
  | scalar s =>
    match s.value with
    | .ok v => .wrongType v.describe expected
    | .error wanted => .wrongValue (Value.text s.text).describe wanted
  | sequenceStart => .wrongType "sequence" expected
  | _ => .wrongType "map" expected

namespace Document

/-- The scalar that a node is, and its place. -/
def scalar (d : Document) (expected : String) (node : Node) :
    Except RecordError (Scalar × Position) :=
  match d.target node with
  | [] => .error d.brokenOff
  | (.scalar s, p) :: _ => .ok (s, p)
  | (item, p) :: _ => .error ((RecordError.complaint (item.mismatch expected)).settle p)

/-- A text, **whatever else it could stand for.** -/
def text (d : Document) (expected : String) (node : Node) : Except RecordError String := do
  let (s, _) ← d.scalar expected node
  return String.ofList s.text

/-- A text that a plain null stands in for. -/
def text? (d : Document) (node : Node) : Except RecordError (Option String) := do
  let (s, _) ← d.scalar "a string" node
  let text := String.ofList s.text
  if s.style ≠ .plain then return some text
  else
    match s.tag with
    | none => return if s.text.isEmpty || Scalar.isNull s.text then none else some text
    | some tag =>
      if tag ≠ Scalar.standardTag "null" then return some text
      else if Scalar.isNull s.text then return none
      else throw (.complaint (.wrongValue (Value.text s.text).describe "null"))

/-- A whole number below `2 ^ 16`. -/
def word16 (d : Document) (node : Node) : Except RecordError Nat := do
  let (s, p) ← d.scalar "u16" node
  let isNumeric := s.style = .plain
    || (s.style = .literal && s.tag = some (Scalar.standardTag "int"))
  match (if isNumeric then Scalar.unsigned? (Nat.pow 2 64) s.text else none) with
  | some n =>
    if n < Nat.pow 2 16 then return n
    else throw ((RecordError.complaint (.wrongValue s!"integer `{n}`" "u16")).settle p)
  | none => throw ((RecordError.complaint ((Item.scalar s).mismatch "u16")).settle p)

/-! ## Records -/

/-- The name that a key gives to its field. -/
def fieldName (d : Document) (known seen : List String) (key : Node) :
    Except RecordError String := do
  let (s, p) ← (d.scalar "field identifier" key).mapError (·.under none)
  let name := String.ofList s.text
  if !known.contains name then
    throw (((RecordError.complaint (.unknownField name known)).settle p).under (some name))
  else if seen.contains name then throw (.complaint (.repeatedField name))
  else return name

/-- The text of a key, unless it is an alias or a collection. -/
def keyText? : Node → Option String
  | (.scalar s, _) :: _ => some (String.ofList s.text)
  | _ => none

/-- Reads entries into a draft, after those of the fields `seen`. -/
def readEntries {α : Type} (d : Document) (known : List String)
    (assign : String → Node → α → Except RecordError α) (seen : List String) (draft : α) :
    List Entry → Except RecordError α
  | [] => .ok draft
  | entry :: rest => do
    let name ← d.fieldName known seen entry.key
    let draft ← (assign name entry.value draft).mapError
      (·.inside (some name) (keyText? entry.key))
    readEntries d known assign (name :: seen) draft rest

/-- Reads a record: its entries into a draft, and the draft to its end.  **A scalar without a text
is a record without entries.** -/
def record {α β : Type} (d : Document) (expected : String) (known : List String)
    (assign : String → Node → α → Except RecordError α) (draft : α)
    (finish : α → Except Complaint β) (node : Node) : Except RecordError β :=
  match d.target node with
  | [] => .error d.brokenOff
  | (item, p) :: body =>
    let finish (draft : α) : Except RecordError β := (finish draft).mapError .complaint
    let isEmpty : Bool := match item with
      | .void => true
      | .scalar s => s.style = .plain && s.text.isEmpty
      | _ => false
    let result : Except RecordError β :=
      if isEmpty then finish draft
      else if item = .mappingStart then do
        let (entries, isClosed) := entries body
        let draft ← d.readEntries known assign [] draft entries
        if isClosed then finish draft else throw (d.brokenOff.under none)
      else throw (.complaint (item.mismatch expected))
    result.mapError (·.settle p)

/-- Reads the only document of a text. -/
def readOnly {α : Type} (text : String) (read : Document → Node → Except RecordError α) :
    Except RecordError α := do
  let d := Document.ofText text
  let a ← read d d.items
  match d.fault with
  | some fault => throw (.fault fault)
  | none => if d.isFollowed then throw (.fault .severalDocuments) else return a

end Document

end Sidecar.Yaml
