import Sidecar.Yaml.Event

/-!
# Yaml/Document — the nodes of one document

A document is the events between its marks, with aliases bound to the nodes that their anchors name.
It keeps the fault that broke it off: **what stands before the fault can still be looked at.**
-/

namespace Sidecar.Yaml

/-- What a document is made of. -/
inductive Item where
  /-- A node named before, by its number. -/
  | alias (number : Nat)
  | scalar (scalar : Scalar)
  | sequenceStart
  | sequenceEnd
  | mappingStart
  | mappingEnd
  /-- The whole of a stream without documents. -/
  | void
deriving DecidableEq, Repr

/-- Why a text cannot be read as one document. -/
inductive Fault where
  | malformed (e : SyntaxError)
  | unknownAnchor (p : Position)
  /-- The text ended before the value did. -/
  | ended
  | severalDocuments
deriving DecidableEq, Repr

namespace Fault

/-- Where a fault lies, if it lies anywhere. -/
def position? : Fault → Option Position
  | malformed e => some e.position
  | unknownAnchor p => some p
  | ended => none
  | severalDocuments => none

/-- What is told of a fault. -/
def message : Fault → String
  | malformed e => e.message
  | unknownAnchor p => "unknown anchor" ++ p.suffix
  | ended => "EOF while parsing a value"
  | severalDocuments =>
    "deserializing from YAML containing more than one document is not supported"

end Fault

/-- A document as a list of its items, **up to the first fault.** -/
structure Document where
  items : List (Item × Position)
  /-- The numbers of named nodes with the places of their first items, latest first. -/
  places : List (Nat × Nat)
  fault : Option Fault
  /-- Whether anything but the end of the stream follows. -/
  isFollowed : Bool
deriving DecidableEq, Repr

namespace Document

/-- A document that is being built. -/
structure Builder where
  /-- The items, latest first. -/
  items : List (Item × Position)
  /-- The names of anchors with the numbers of their nodes, latest first. -/
  names : List (List Char × Nat)
  /-- The numbers of nodes with the places of their first items, latest first. -/
  places : List (Nat × Nat)

namespace Builder

/-- Nothing has been read yet. -/
def empty : Builder := ⟨[], [], []⟩

/-- One item more. -/
def push (b : Builder) (item : Item) (p : Position) : Builder :=
  { b with items := (item, p) :: b.items }

/-- Binds a name to the next item.  **A node's number is how many names there are before it**, so
that a name bound again may share its number with another. -/
def bind (b : Builder) : Option (List Char) → Builder
  | none => b
  | some name =>
    let number := b.names.length
    { b with
      names := (name, number) :: b.names.filter (·.1 ≠ name)
      places := (number, b.items.length) :: b.places }

/-- The item for an alias. -/
def alias? (b : Builder) (name : List Char) : Option Item := (b.names.lookup name).map .alias

/-- The document of all that has been read. -/
def finish (b : Builder) (fault : Option Fault) (isFollowed : Bool) : Document :=
  ⟨b.items.reverse, b.places, fault, isFollowed⟩

end Builder

/-- Whether a stream goes on: with more events than its end, or with a fault. -/
def goesOn (events : List Event) (fault : Option SyntaxError) : Bool :=
  match events with
  | [] => fault.isSome
  | e :: _ => e.kind ≠ .streamEnd

/-- Builds the first document of a stream. -/
def build (fault : Option SyntaxError) (b : Builder) : List Event → Document
  | [] => b.finish (some ((fault.map .malformed).getD .ended)) false
  | ⟨kind, p⟩ :: rest =>
    match kind with
    | .streamStart => build fault b rest
    | .documentStart => build fault b rest
    | .streamEnd => (if b.items.isEmpty then b.push .void p else b).finish none false
    | .documentEnd => b.finish none (goesOn rest fault)
    | .alias name =>
      match b.alias? name with
      | some item => build fault (b.push item p) rest
      | none => b.finish (some (.unknownAnchor p)) true
    | .scalar anchor scalar => build fault ((b.bind anchor).push (.scalar scalar) p) rest
    | .sequenceStart anchor => build fault ((b.bind anchor).push .sequenceStart p) rest
    | .sequenceEnd => build fault (b.push .sequenceEnd p) rest
    | .mappingStart anchor => build fault ((b.bind anchor).push .mappingStart p) rest
    | .mappingEnd => build fault (b.push .mappingEnd p) rest

/-- The items from the node of a number on. -/
def fromNode (d : Document) (number : Nat) : List (Item × Position) :=
  match d.places.lookup number with
  | some place => d.items.drop place
  | none => []

/-- The first document of a text. -/
def ofText (text : String) : Document :=
  let (events, fault) := Event.parse text
  build fault .empty events

end Document

end Sidecar.Yaml
