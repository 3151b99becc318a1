import Sidecar.Marker
import Sidecar.Proofs.FileTree.Change

/-!
# Proofs/Marker — a marker is written as a whole or not at all

`write_ok` and `write_error` say what a write leaves behind: **the marker's entry holds the token
and nothing else has changed**, or nothing has changed at all, whatever has gone wrong with the
temporary file.  The token is read back through the
marker's path unless the look-up of that path follows a link that stands at the marker's own place
(`IsApart`), which the write has then replaced.
-/

namespace Sidecar.Marker

/-- A name that a temporary file may get: **one name, without a slash.** -/
structure IsFileName (name : String) : Prop where
  ne_nil : name.toList ≠ []
  no_slash : '/' ∉ name.toList

/-- **A path inside a directory ends as the path does.** -/
theorem endsInSlash_join (directory : List Char) {path : List Char} (h : path ≠ []) :
    Path.endsInSlash (Path.join directory path) = Path.endsInSlash path := by
  have happend (front : List Char) : (front ++ path).getLast? = path.getLast? :=
    List.getLast?_append_of_ne_nil front h
  unfold Path.join Path.endsInSlash
  split
  · rfl
  · split
    · rw [happend]
    · rw [← List.singleton_append, ← List.append_assoc, happend]

/-- No path of a temporary file ends in a slash. -/
theorem endsInSlash_temporaryPath {name : String} (h : IsFileName name)
    (workingDirectory : Location) (path : List Char) :
    Path.endsInSlash (Writing.temporaryPath workingDirectory path name) = false := by
  rw [Writing.temporaryPath, endsInSlash_join _ h.ne_nil, Path.endsInSlash, decide_eq_false_iff_not]
  exact fun hlast => h.no_slash (List.mem_of_getLast? hlast)

/-- **The octets of a marker tell its state.** -/
theorem octets_injective {a b : DeclaredState} (h : octets a = octets b) : a = b := by
  revert h
  cases a <;> cases b <;> decide

/-- The entry that a marker is. -/
def entry (state : DeclaredState) : Entry := .file mode (octets state)

section Write

variable (tree : FileTree) (path : String) (state : DeclaredState) {temp : TempFile}

/-- The path of the temporary file of a write. -/
def temporary (temp : TempFile) : List Char :=
  Writing.temporaryPath tree.workingDirectory path.toList temp.name

/-- **A writer that has returned takes no step.** -/
theorem steps_of_returned {w : Writing} {result : Except FileFailure Unit}
    (h : w.stage = .returned result) (n : Nat) : w.steps n tree = (w, tree) := by
  have hstep : w.step tree = (w, tree) := by simp only [Writing.step, h]
  induction n with
  | zero => rfl
  | succ n ih =>
    rw [Writing.steps, hstep]
    exact ih

/-- **A temporary file that cannot be made is not written.** -/
theorem write_of_not_created {fault : FileFault}
    (h : tree.createNew (temporary tree path temp) privateMode = .error fault) :
    ∃ failure, write tree path state temp = (.error failure, tree) := by
  obtain ⟨w, failure, hstep, hreturned⟩ : ∃ w failure,
      (Writing.start tree path state temp).step tree = (w, tree) ∧
        w.stage = .returned (.error failure) := by
    rw [temporary] at h
    simp only [Writing.step, Writing.start, h]
    split <;> exact ⟨_, _, rfl, rfl⟩
  refine ⟨failure, ?_⟩
  rw [write, Writing.stepCount, Writing.steps, hstep]
  simp only [steps_of_returned tree hreturned, hreturned]

section Created

variable {l : Location} (hl : l ≠ [])
  (h : tree.createNew (temporary tree path temp) privateMode
    = .ok (tree.put l (.file privateMode []), l))
include hl h

/-- **A temporary file that could be made is filled**, and then it is moved or removed. -/
theorem write_of_created (hmishap : temp.mishap? = none) :
    write tree path state temp =
      match (tree.put l (entry state)).renameFile (temporary tree path temp) path.toList with
      | .ok tree' => (.ok (), tree')
      | .error fault =>
        (.error ⟨fault, none⟩, ((tree.put l (entry state)).remove
          (temporary tree path temp)).toOption.getD (tree.put l (entry state))) := by
  rw [temporary] at h
  cases hrename : (tree.put l (entry state)).renameFile (temporary tree path temp) path.toList <;>
    rw [temporary, entry] at hrename <;>
    simp [write, Writing.steps, Writing.stepCount, Writing.start, Writing.step, h, hmishap,
      FileTree.updateFile_put hl, entry, temporary, hrename]

/-- **After a mishap the temporary file is removed**, whatever has been written of it. -/
theorem write_of_mishap {mishap : Mishap} (hmishap : temp.mishap? = some mishap) :
    (∃ failure, write tree path state temp = (.error failure, tree)) ∨
      ∃ failure mode content, write tree path state temp =
        (.error failure, ((tree.put l (.file mode content)).remove
          (temporary tree path temp)).toOption.getD (tree.put l (.file mode content))) := by
  rw [temporary] at h
  cases mishap <;>
    simp only [write, Writing.steps, Writing.stepCount, Writing.start, Writing.step, hmishap, h,
      FileTree.updateFile_put hl, temporary]
  case creating => exact .inl ⟨_, rfl⟩
  all_goals exact .inr ⟨_, _, _, rfl⟩

end Created

/-- **A whole write is one change to the tree**, or none. -/
theorem write_cases (hname : IsFileName temp.name) :
    (∃ failure, write tree path state temp = (.error failure, tree)) ∨
      ∃ followed d last, tree.LeadsTo path.toList followed d last ∧
        Path.endsInSlash path.toList = false ∧ tree.get? (d ++ [last]) ≠ some .directory ∧
        temp.mishap? = none ∧
        write tree path state temp = (.ok (), tree.put (d ++ [last]) (entry state)) := by
  cases hcreate : tree.createNew (temporary tree path temp) privateMode with
  | error fault => exact .inl (write_of_not_created tree path state hcreate)
  | ok made =>
    obtain ⟨tree', l⟩ := made
    obtain ⟨followed, d, last, hleads, rfl, hnone, rfl⟩ := FileTree.of_createNew hcreate
    have hl : d ++ [last] ≠ [] := by simp
    have htemporary (e : Entry) :
        (tree.put (d ++ [last]) e).LeadsTo (temporary tree path temp) followed d last :=
      hleads.put (fun hmem => by simpa [hnone] using hleads.passes.isLink hmem) (by simp [hnone]) _
    -- whatever the file holds by then, its removal brings the first tree back
    have hremove (mode : Nat) (content : List UInt8) :
        (tree.put (d ++ [last]) (.file mode content)).remove (temporary tree path temp)
          = .ok tree := by
      rw [(htemporary _).remove (endsInSlash_temporaryPath hname _ _)
        (tree.get?_put_self hl _), FileTree.erase_put, FileTree.erase_of_get?_eq_none tree hnone]
    cases hmishap : temp.mishap? with
    | some mishap =>
      rcases write_of_mishap tree path state hl hcreate hmishap with hfailed | ⟨failure, _, _, hw⟩
      · exact .inl hfailed
      · rw [hw, hremove]
        exact .inl ⟨failure, rfl⟩
    | none =>
      rw [write_of_created tree path state hl hcreate hmishap]
      cases hrename : (tree.put (d ++ [last]) (entry state)).renameFile (temporary tree path temp)
          path.toList with
      | error fault =>
        rw [entry, hremove]
        exact .inl ⟨_, rfl⟩
      | ok tree' =>
        obtain ⟨followed', d', last', hleads', hslash, hget, rfl⟩ :=
          FileTree.of_renameFile (htemporary _) (tree.get?_put_self hl _) hrename
        rw [FileTree.erase_put, FileTree.erase_of_get?_eq_none tree hnone]
        refine .inr ⟨followed', d', last', hleads'.of_put hl, hslash, fun hdirectory => ?_, rfl,
          rfl⟩
        rw [FileTree.get?_put tree hl, if_neg (fun he => by simp [he, hnone] at hdirectory)] at hget
        exact hget hdirectory

end Write

/-! ## Reading a marker back -/

/-- **No link at the marker's own place leads to it**, so that a write, which replaces the link,
does not change where the marker's path leads. -/
def IsApart (tree : FileTree) (path : String) : Prop :=
  ∀ followed d last, tree.LeadsTo path.toList followed d last → d ++ [last] ∉ followed

variable {tree : FileTree} {path : String} {state : DeclaredState} {temp : TempFile}

/-- **A write that fails has changed nothing.** -/
theorem write_error (hname : IsFileName temp.name) {failure : FileFailure}
    (h : (write tree path state temp).1 = .error failure) :
    (write tree path state temp).2 = tree := by
  rcases write_cases tree path state hname with ⟨_, hw⟩ | ⟨_, _, _, -, -, -, -, hw⟩
  · rw [hw]
  · simp [hw] at h

/-- **A written marker is the token**, and nothing else has changed. -/
theorem write_ok (hname : IsFileName temp.name) (h : (write tree path state temp).1 = .ok ()) :
    ∃ followed d last, tree.LeadsTo path.toList followed d last ∧
      Path.endsInSlash path.toList = false ∧ tree.get? (d ++ [last]) ≠ some .directory ∧
      temp.mishap? = none ∧
      (write tree path state temp).2 = tree.put (d ++ [last]) (entry state) := by
  rcases write_cases tree path state hname with
    ⟨_, hw⟩ | ⟨followed, d, last, hl, hs, hget, hmishap, hw⟩
  · simp [hw] at h
  · exact ⟨followed, d, last, hl, hs, hget, hmishap, by rw [hw]⟩

/-- **What has been written is read**, through the same path. -/
theorem read_write (hname : IsFileName temp.name) (hapart : IsApart tree path)
    (h : (write tree path state temp).1 = .ok ()) :
    (write tree path state temp).2.read path = .ok (octets state) := by
  obtain ⟨followed, d, last, hleads, hslash, hget, -, hw⟩ := write_ok hname h
  rw [hw]
  exact (hleads.put (hapart _ _ _ hleads) hget _).read hslash (tree.get?_put_self (by simp) _)

/-- **A write leaves a marker apart that was so.** -/
theorem isApart_write (hname : IsFileName temp.name) (hapart : IsApart tree path) :
    IsApart (write tree path state temp).2 path := by
  rcases write_cases tree path state hname with ⟨_, hw⟩ | ⟨_, d, last, -, -, -, -, hw⟩ <;> rw [hw]
  · exact hapart
  · exact fun _ _ _ hleads => hapart _ _ _ (hleads.of_put (by simp))

/-- **A write brings no token into the tree but its own.** -/
theorem get?_write (hname : IsFileName temp.name) (l : Location) :
    (write tree path state temp).2.get? l = some (entry state) ∨
      (write tree path state temp).2.get? l = tree.get? l := by
  rcases write_cases tree path state hname with ⟨_, hw⟩ | ⟨_, d, last, -, -, -, -, hw⟩ <;> rw [hw]
  · exact .inr rfl
  · simp only
    rw [FileTree.get?_put tree (by simp)]
    split
    · exact .inl rfl
    · exact .inr rfl

end Sidecar.Marker
