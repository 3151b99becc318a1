import Sidecar.FileTree
import Sidecar.Intent

/-!
# Marker — the file that declares what the node is to find

The marker is replaced as a whole: a temporary file beside it gets its mode and its content, and is
then renamed onto it.  `Writing` takes these steps one at a time, so that writers can be interleaved
and abandoned anywhere; `write` takes them all.  **Any step may fail though the tree would allow
it** (`Mishap`), for whatever reason the machine has.
-/

namespace Sidecar.Marker

/-- Anyone may replace a marker: mode 0777. -/
def mode : Nat := 511

/-- The mode of a temporary file while it is being written: 0600. -/
def privateMode : Nat := 384

/-- What is read in a marker: **the token and nothing else.** -/
def octets (state : DeclaredState) : List UInt8 := Text.Utf8.encode state.token.toList

/-! ## Temporary files -/

/-- A step that fails **whatever the tree is.** -/
inductive Mishap where
  | creating (fault : FileFault)
  | settingMode (fault : FileFault)
  /-- So many octets of the token are there when the file takes no more. -/
  | filling (written : Nat) (fault : FileFault)
  | syncing (fault : FileFault)
  | placing (fault : FileFault)
deriving DecidableEq, Repr

/-- The temporary file of a write: the name that it gets, and what goes wrong with it.  **One mishap
is all there can be**, since a write goes no further after it. -/
structure TempFile where
  name : String
  mishap? : Option Mishap := none
deriving DecidableEq, Repr

/-- A name alone is a file with which nothing goes wrong. -/
instance : Coe String TempFile := ⟨fun name => { name }⟩

/-! ## Writers -/

/-- How far a writer has come. -/
inductive Stage where
  | creating
  | settingMode (temporary : Location)
  | filling (temporary : Location)
  | syncing
  | renaming
  | discarding (failure : FileFailure)
  | returned (result : Except FileFailure Unit)

/-- One writer on its way. -/
structure Writing where
  /-- The path of the marker. -/
  path : List Char
  state : DeclaredState
  /-- The path of the temporary file. -/
  temporary : List Char
  mishap? : Option Mishap
  stage : Stage

namespace Writing

/-- The path of a temporary file beside the marker.  **It is absolute**, so that failures can name
it; a marker with a bare name stands in the working directory. -/
def temporaryPath (workingDirectory : Location) (path : List Char) (name : String) : List Char :=
  let directory := match Path.parent? path with
    | none => ['.']
    | some [] => ['.']
    | some p => p
  let here := if workingDirectory = [] then ['/'] else workingDirectory.flatMap ('/' :: ·)
  Path.join (Path.join here directory) name.toList

/-- A writer before its first step. -/
def start (tree : FileTree) (path : String) (state : DeclaredState) (temp : TempFile) :
    Writing where
  path := path.toList
  state
  temporary := temporaryPath tree.workingDirectory path.toList temp.name
  mishap? := temp.mishap?
  stage := .creating

/-- A failure that names the temporary file. -/
def failureAtFile (w : Writing) (fault : FileFault) : FileFailure :=
  ⟨fault, some (String.ofList w.temporary)⟩

/-- The next step of a writer; one that has returned takes none.  **Once its file is there, a step
that fails leads to its removal.** -/
def step (w : Writing) (tree : FileTree) : Writing × FileTree :=
  match w.stage with
  | .creating =>
    match w.mishap? with
    | some (.creating fault) =>
      ({ w with stage := .returned (.error (w.failureAtFile fault)) }, tree)
    | _ =>
      match tree.createNew w.temporary privateMode with
      | .ok (tree, l) => ({ w with stage := .settingMode l }, tree)
      | .error fault => ({ w with stage := .returned (.error (w.failureAtFile fault)) }, tree)
  | .settingMode l =>
    match w.mishap? with
    | some (.settingMode fault) => ({ w with stage := .discarding ⟨fault, none⟩ }, tree)
    | _ => ({ w with stage := .filling l }, tree.updateFile l fun _ content => (mode, content))
  | .filling l =>
    match w.mishap? with
    | some (.filling written fault) =>
      ({ w with stage := .discarding (w.failureAtFile fault) },
        tree.updateFile l fun mode content => (mode, content ++ (octets w.state).take written))
    | _ =>
      ({ w with stage := .syncing },
        tree.updateFile l fun mode content => (mode, content ++ octets w.state))
  | .syncing =>
    match w.mishap? with
    | some (.syncing fault) => ({ w with stage := .discarding ⟨fault, none⟩ }, tree)
    | _ => ({ w with stage := .renaming }, tree)
  | .renaming =>
    match w.mishap? with
    | some (.placing fault) => ({ w with stage := .discarding ⟨fault, none⟩ }, tree)
    | _ =>
      match tree.renameFile w.temporary w.path with
      | .ok tree => ({ w with stage := .returned (.ok ()) }, tree)
      | .error fault => ({ w with stage := .discarding ⟨fault, none⟩ }, tree)
  | .discarding failure =>
    ({ w with stage := .returned (.error failure) },
      (tree.remove w.temporary).toOption.getD tree)
  | .returned _ => (w, tree)

/-- Takes `n` steps. -/
def steps : Nat → Writing → FileTree → Writing × FileTree
  | 0, w, tree => (w, tree)
  | n + 1, w, tree =>
    let (w, tree) := w.step tree
    steps n w tree

/-- No writer takes more steps than this.  The number is kept folded, so that a write does not
unfold into its steps unasked. -/
@[irreducible] def stepCount : Nat := 6

end Writing

/-- Writes a marker, from the first step to the last. -/
def write (tree : FileTree) (path : String) (state : DeclaredState) (temp : TempFile) :
    Except FileFailure Unit × FileTree :=
  let (w, tree) := Writing.steps Writing.stepCount (Writing.start tree path state temp) tree
  match w.stage with
  | .returned result => (result, tree)
  | _ => (.error ⟨.busy, none⟩, tree)

end Sidecar.Marker
