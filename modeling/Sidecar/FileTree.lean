import Sidecar.FileTree.Path
import Sidecar.Text.Quoted
import Sidecar.Text.Utf8

/-!
# FileTree — directories, files and symbolic links

A tree maps locations, which are names from the root down, to entries.  A path is looked up from the
working directory or the root; links on the way are followed, forty at most.
-/

namespace Sidecar

/-- Why an operation on files fails. -/
inductive FileFault where
  | notFound
  | notADirectory
  | isADirectory
  | alreadyExists
  | tooManyLinks
  | nameTooLong
  | busy
  | nulInName
  | notText
deriving DecidableEq, Repr

/-- What the system says of a fault. -/
def FileFault.message : FileFault → String
  | notFound => "No such file or directory (os error 2)"
  | notADirectory => "Not a directory (os error 20)"
  | isADirectory => "Is a directory (os error 21)"
  | alreadyExists => "File exists (os error 17)"
  | tooManyLinks => "Too many levels of symbolic links (os error 40)"
  | nameTooLong => "File name too long (os error 36)"
  | busy => "Device or resource busy (os error 16)"
  | nulInName => "file name contained an unexpected NUL byte"
  | notText => "stream did not contain valid UTF-8"

/-- A fault, and the path it concerns if that is not the caller's own. -/
structure FileFailure where
  fault : FileFault
  path? : Option String
deriving DecidableEq, Repr

/-- What is told of a failure: **the fault, and the path if one is known.** -/
def FileFailure.message (e : FileFailure) : String :=
  match e.path? with
  | none => e.fault.message
  | some path => s!"{e.fault.message} at path {Text.quoted path}"

/-- What stands at a location. -/
inductive Entry where
  | directory
  | file (mode : Nat) (content : List UInt8)
  | link (target : List Char)
deriving DecidableEq, Repr

/-- The names that lead from the root to an entry. -/
abbrev Location := List (List Char)

/-- The entries of a machine, each at its location, and the directory that relative paths start
from. -/
structure FileTree where
  entries : List (Location × Entry)
  workingDirectory : Location
deriving DecidableEq, Repr

namespace FileTree

/-- A tree that holds nothing but the working directory and those above it. -/
def empty (workingDirectory : Location) : FileTree where
  entries := (List.range workingDirectory.length).map fun n =>
    (workingDirectory.take (n + 1), .directory)
  workingDirectory

/-! ## Entries -/

/-- The entry at a location; the root is a directory in every tree. -/
def get? (tree : FileTree) (l : Location) : Option Entry :=
  if l = [] then some .directory else tree.entries.lookup l

/-- The tree without its entry at a location. -/
def erase (tree : FileTree) (l : Location) : FileTree :=
  { tree with entries := tree.entries.filter (·.1 ≠ l) }

/-- The tree with this entry at a location, **in place of what was there.** -/
def put (tree : FileTree) (l : Location) (e : Entry) : FileTree :=
  { tree with entries := (l, e) :: (tree.erase l).entries }

/-- Leaving out one location hides no other. -/
theorem lookup_filter_ne {l m : Location} (h : m ≠ l) (entries : List (Location × Entry)) :
    (entries.filter (·.1 ≠ l)).lookup m = entries.lookup m := by
  induction entries with
  | nil => rfl
  | cons head rest ih =>
    by_cases hl : head.1 = l
    · rw [List.filter_cons_of_neg (by simpa using hl), ih, List.lookup_cons,
        beq_eq_false_iff_ne.mpr (hl ▸ h)]
    · rw [List.filter_cons_of_pos (by simpa using hl), List.lookup_cons, List.lookup_cons, ih]

/-- **Erasing one location leaves the others as they are.** -/
theorem get?_erase_of_ne (tree : FileTree) {l m : Location} (h : m ≠ l) :
    (tree.erase l).get? m = tree.get? m := by
  simp only [get?, erase, lookup_filter_ne h]

/-- **What is put at a location is found there.** -/
theorem get?_put_self (tree : FileTree) {l : Location} (h : l ≠ []) (e : Entry) :
    (tree.put l e).get? l = some e := by
  simp [get?, put, h]

/-- **What is put at a location is found nowhere else.** -/
theorem get?_put_of_ne (tree : FileTree) {l m : Location} (h : m ≠ l) (e : Entry) :
    (tree.put l e).get? m = tree.get? m := by
  simp only [get?, put, List.lookup_cons, beq_eq_false_iff_ne.mpr h, erase, lookup_filter_ne h]

/-! ## Looking up a path -/

/-- How many links one look-up follows. -/
def linkLimit : Nat := 40

/-- What the last name of a path may turn out to be. -/
inductive Goal where
  | directory
  | existing
  /-- An entry that may still have to be made. -/
  | possible
deriving DecidableEq, Repr

/-- Walks through names from a directory; `links` more links may be followed. -/
def walk (tree : FileTree) (goal : Goal) (links : Nat) (here : Location) :
    List (List Char) → Except FileFault Location
  | [] => .ok here
  | name :: rest =>
    if name = ['.'] then walk tree goal links here rest
    else if name = ['.', '.'] then walk tree goal links here.dropLast rest
    else if 255 < (Text.Utf8.encode name).length then .error .nameTooLong
    else
      match tree.get? (here ++ [name]) with
      | none => if rest = [] && goal = .possible then .ok (here ++ [name]) else .error .notFound
      | some .directory => walk tree goal links (here ++ [name]) rest
      | some (.file _ _) =>
        if rest = [] && goal ≠ .directory then .ok (here ++ [name]) else .error .notADirectory
      | some (.link target) =>
        match links with
        | 0 => .error .tooManyLinks
        | links + 1 =>
          walk tree (if rest = [] && Path.endsInSlash target then .directory else goal) links
            (if Path.isAbsolute target then [] else here) (Path.names target ++ rest)
termination_by names => (links, names.length)

/-- Rejects the texts that no look-up accepts. -/
def checkPath (path : List Char) : Except FileFault Unit :=
  if path.contains '\x00' then .error .nulInName
  else if path.isEmpty then .error .notFound
  else if 4096 ≤ (Text.Utf8.encode path).length then .error .nameTooLong
  else .ok ()

/-- The directory that a path starts from. -/
def origin (tree : FileTree) (path : List Char) : Location :=
  if Path.isAbsolute path then [] else tree.workingDirectory

/-- The location that a path names, **links followed to the end.** -/
def resolve (tree : FileTree) (goal : Goal) (path : List Char) : Except FileFault Location := do
  checkPath path
  let goal := if Path.endsInSlash path then .directory else goal
  tree.walk goal linkLimit (tree.origin path) (Path.names path)

/-- The location that a path names, **its last name not followed.**  The last name must be a plain
one; the flag tells whether a slash follows it. -/
def resolveParent (tree : FileTree) (path : List Char) : Except FileFault (Location × Bool) := do
  checkPath path
  let names := Path.names path
  let directory ← tree.walk .directory linkLimit (tree.origin path) names.dropLast
  match names.getLast? with
  | none => throw .busy
  | some name =>
    if name = ['.'] || name = ['.', '.'] then throw .busy
    else if 255 < (Text.Utf8.encode name).length then throw .nameTooLong
    else return (directory ++ [name], Path.endsInSlash path)

/-! ## Reading -/

/-- The octets of the file that a path names. -/
def read (tree : FileTree) (path : String) : Except FileFault (List UInt8) := do
  let l ← tree.resolve .existing path.toList
  match tree.get? l with
  | some (.file _ content) => return content
  | some .directory => throw .isADirectory
  | _ => throw .notFound

/-- The text of the file that a path names. -/
def readText (tree : FileTree) (path : String) : Except FileFault String := do
  let octets ← tree.read path
  match String.fromUTF8? ⟨octets.toArray⟩ with
  | some text => return text
  | none => throw .notText

/-! ## Changing -/

/-- Makes the directory that names lead to, if it is missing. -/
def makeDirectory (tree : FileTree) (origin : Location) (names : List (List Char)) :
    Except FileFault FileTree := do
  let l ← tree.walk .possible linkLimit origin names
  match tree.get? l with
  | none => return tree.put l .directory
  | some .directory => return tree
  | _ => throw .notADirectory

/-- Makes one directory after the other, **up to the first that cannot be made.** -/
def makeEach (tree : FileTree) (origin : Location) :
    List (List (List Char)) → FileTree × Except FileFault Unit
  | [] => (tree, .ok ())
  | names :: rest =>
    match tree.makeDirectory origin names with
    | .ok tree => makeEach tree origin rest
    | .error fault => (tree, .error fault)

/-- Makes the directories that a path names, as far as they are missing.  **Those above one that
cannot be made stay.** -/
def makeAll (tree : FileTree) (path : String) : FileTree × Except FileFault Unit :=
  let names := Path.names path.toList
  if path.isEmpty then (tree, .ok ())
  else
    match checkPath path.toList with
    | .error fault => (tree, .error fault)
    | .ok () =>
      tree.makeEach (tree.origin path.toList)
        ((List.range names.length).map fun n => names.take (n + 1))

/-- The tree with all the directories that a path names, if they can be made. -/
def makeDirectories (tree : FileTree) (path : String) : Except FileFault FileTree :=
  let (tree, result) := tree.makeAll path
  result.map fun () => tree

/-- Writes a whole file and gives it a mode. -/
def writeFile (tree : FileTree) (path : String) (mode : Nat) (content : List UInt8) :
    Except FileFault FileTree := do
  let l ← tree.resolve .possible path.toList
  match tree.get? l with
  | some .directory => throw .isADirectory
  | _ => return tree.put l (.file mode content)

/-- Makes a symbolic link. -/
def makeLink (tree : FileTree) (path target : String) : Except FileFault FileTree := do
  checkPath target.toList
  let (l, _) ← tree.resolveParent path.toList
  match tree.get? l with
  | none => return tree.put l (.link target.toList)
  | some _ => throw .alreadyExists

/-- Removes a file or a link. -/
def remove (tree : FileTree) (path : List Char) : Except FileFault FileTree := do
  let (l, isSlashed) ← tree.resolveParent path
  match tree.get? l with
  | none => throw .notFound
  | some .directory => throw .isADirectory
  | some _ => if isSlashed then throw .notADirectory else return tree.erase l

/-- Makes a new file, empty and with a mode of its own. -/
def createNew (tree : FileTree) (path : List Char) (mode : Nat) :
    Except FileFault (FileTree × Location) := do
  let (l, _) ← tree.resolveParent path
  match tree.get? l with
  | none => return (tree.put l (.file mode []), l)
  | some _ => throw .alreadyExists

/-- Moves a file onto a path.  **What the path named before is replaced at once, unless it is a
directory**; a slash after the path's last name asks for a directory, which a file is not. -/
def renameFile (tree : FileTree) (source target : List Char) : Except FileFault FileTree := do
  let (l, _) ← tree.resolveParent source
  let (m, isSlashed) ← tree.resolveParent target
  match tree.get? l with
  | none => throw .notFound
  | some entry =>
    if isSlashed then throw .notADirectory
    else if tree.get? m = some .directory then throw .isADirectory
    else return (tree.erase l).put m entry

/-- Changes the file at a location, if there is one. -/
def updateFile (tree : FileTree) (l : Location) (f : Nat → List UInt8 → Nat × List UInt8) :
    FileTree :=
  match tree.get? l with
  | some (.file mode content) =>
    let (mode, content) := f mode content
    tree.put l (.file mode content)
  | _ => tree

/-! ## Listing -/

/-- Orders locations name by name; **a directory comes right before what it holds.** -/
def locationLe : Location → Location → Bool
  | [], _ => true
  | _ :: _, [] => false
  | a :: as, b :: bs =>
    if a = b then locationLe as bs else decide (String.ofList a < String.ofList b)

/-- The entries below the working directory, in order, at their places relative to it. -/
def listing (tree : FileTree) : List (Location × Entry) :=
  let here := tree.workingDirectory
  let below := tree.entries.filterMap fun (l, e) =>
    if here.isPrefixOf l && here.length < l.length then some (l.drop here.length, e) else none
  below.mergeSort fun a b => locationLe a.1 b.1

end FileTree

end Sidecar
