import Sidecar.Proofs.FileTree.Overlay
import Sidecar.Proofs.Marker

/-!
# Proofs/Marker/Step — what one step of a writer changes

A writer has a place of its own, which its temporary path names, and may have a draft there
(`IsDraft`).  `moves_step` tells all that one step does to a tree that other writers change too:
**the own place gets the new draft, and the marker's place the whole token, if the step is the
rename**; nothing else is touched.  A step that fails keeps the draft, or part of it, until it is
discarded.
-/

namespace Sidecar.Marker.Writing

open FileTree (Names Overlays)

/-! ## Drafts -/

/-- Whether the writer has returned. -/
def isReturned (w : Writing) : Bool :=
  match w.stage with
  | .returned _ => true
  | _ => false

/-- Whether the writer has renamed its file onto the marker. -/
def isPlaced (w : Writing) : Bool :=
  match w.stage with
  | .returned (.ok _) => true
  | _ => false

/-- What the writer may have at its own place.  **Of a file that is to go nothing is known** but that
it is one. -/
def IsDraft (w : Writing) (e? : Option Entry) : Prop :=
  match w.stage with
  | .creating | .returned _ => e? = none
  | .settingMode _ => e? = some (.file privateMode [])
  | .filling _ => e? = some (.file mode [])
  | .syncing | .renaming => e? = some (entry w.state)
  | .discarding _ => ∃ mode content, e? = some (.file mode content)

/-- The place that the writer holds a handle to is `l`, if it holds one. -/
def IsAt (w : Writing) (l : Location) : Prop :=
  match w.stage with
  | .settingMode l' | .filling l' => l' = l
  | _ => True

/-- A draft is at the place that the temporary path named **in the first tree, where nothing
stood.** -/
def IsSited (tree : FileTree) (w : Writing) : Prop :=
  ¬ w.IsDraft none → ∃ l, tree.Names w.temporary l ∧ tree.get? l = none ∧ w.IsAt l

/-- At the writer's own place the second tree has its draft, or else **what the first tree has.** -/
def Holds (tree tree' : FileTree) (w : Writing) : Prop :=
  ∀ l, tree.Names w.temporary l → ∃ e?, w.IsDraft e? ∧ tree'.get? l = e?.or (tree.get? l)

/-- No link at the marker's place leads to the temporary file. -/
def IsApart (tree : FileTree) (w : Writing) : Prop :=
  ∀ followed d name, tree.LeadsTo w.temporary followed d name →
    ∀ l ∈ followed, ¬ tree.Names w.path l

/-- The step from `w` to `w'` is the rename onto the marker. -/
def Places (w w' : Writing) : Prop := w.isPlaced = false ∧ w'.isPlaced = true

/-- All that a step from `w` to `w'` does to a tree `tree'` that began as `tree`. -/
structure Moves (tree tree' : FileTree) (w w' : Writing) (tree'' : FileTree) : Prop where
  exists_stage : ∃ stage, w' = { w with stage }
  sited : w'.IsSited tree
  overlays : Overlays (tree.Names w.path) tree tree''
  beside : ∀ l, ¬ tree.Names w.temporary l → (Places w w' → ¬ tree.Names w.path l) →
    tree''.get? l = tree'.get? l
  holds : (w'.isReturned = true → w.IsApart tree) → w'.Holds tree tree''
  placed : Places w w' → ∃ m, tree.Names w.path m ∧ tree''.get? m = some (entry w.state)
  slash : Places w w' → Path.endsInSlash w.path = false

/-! ## One step -/

section Step

variable {tree tree' : FileTree} {w : Writing} {l : Location}

/-- A draft is a file. -/
theorem IsDraft.exists_file {e : Entry} (h : w.IsDraft (some e)) :
    ∃ mode content, e = .file mode content := by
  unfold IsDraft at h
  split at h
  · cases h
  · cases h
  · exact ⟨_, _, Option.some.inj h⟩
  · exact ⟨_, _, Option.some.inj h⟩
  · exact ⟨_, _, Option.some.inj h⟩
  · exact ⟨_, _, Option.some.inj h⟩
  · obtain ⟨mode, content, hfile⟩ := h
    exact ⟨mode, content, Option.some.inj hfile⟩

/-- **A writer that has returned has no draft.** -/
theorem IsDraft.eq_none {e? : Option Entry} (h : w.IsDraft e?) (hreturned : w.isReturned = true) :
    e? = none := by
  unfold isReturned at hreturned
  split at hreturned
  · rename_i hstage
    rwa [IsDraft, hstage] at h
  · cases hreturned

/-- **A writer with a draft has not renamed it yet.** -/
theorem IsDraft.isPlaced_eq_false {e : Entry} (h : w.IsDraft (some e)) : w.isPlaced = false := by
  rw [isPlaced]
  split
  · rename_i hstage
    rw [IsDraft, hstage] at h
    cases h
  · rfl

/-- What a writer finds before its step, **whatever the other writers have done.** -/
structure Finds (tree tree' : FileTree) (w : Writing) : Prop where
  overlays : Overlays (tree.Names w.path) tree tree'
  sited : w.IsSited tree
  holds : (w.isReturned = true → w.IsApart tree) → w.Holds tree tree'
  slash : Path.endsInSlash w.temporary = false
  other : ∀ l, tree.Names w.temporary l → ¬ tree.Names w.path l

/-- **A writer that has not returned finds its draft at its own place**, where nothing stood at
first. -/
theorem Finds.isDraft (h : Finds tree tree' w) (hgoes : w.isReturned = false)
    (hl : tree.Names w.temporary l) (hnone : tree.get? l = none) : w.IsDraft (tree'.get? l) := by
  obtain ⟨e?, hdraft, hget⟩ := h.holds (fun hreturned => by simp [hgoes] at hreturned) l hl
  rwa [hget, hnone, Option.or_none]

/-- **A draft is found where the writer has put it.** -/
theorem Finds.exists_place (h : Finds tree tree' w) (hgoes : w.isReturned = false)
    (hsome : ¬ w.IsDraft none) :
    ∃ l, tree.Names w.temporary l ∧ tree.get? l = none ∧ w.IsAt l ∧ w.IsDraft (tree'.get? l) := by
  obtain ⟨l, hl, hnone, hat⟩ := h.sited hsome
  exact ⟨l, hl, hnone, hat, h.isDraft hgoes hl hnone⟩

/-! ### Changes to the tree -/

/-- **A step that leaves the tree alone** keeps the draft, or has none to keep. -/
theorem Finds.moves_refl (h : Finds tree tree' w) (stage : Stage)
    (hat : ∀ l, w.IsAt l → { w with stage }.IsAt l)
    (hdraft : ∀ e?, w.IsDraft e? → { w with stage }.IsDraft e?)
    (hreturned : w.isReturned = true → { w with stage }.isReturned = true)
    (hplaces : ¬ Places w { w with stage }) : Moves tree tree' w { w with stage } tree' where
  exists_stage := ⟨stage, rfl⟩
  sited hsome := by
    obtain ⟨l, hl, hnone, hplace⟩ := h.sited fun hnone => hsome (hdraft _ hnone)
    exact ⟨l, hl, hnone, hat l hplace⟩
  overlays := h.overlays
  beside _ _ _ := rfl
  holds hapart l hl := by
    obtain ⟨e?, he, hget⟩ := h.holds (fun hw => hapart (hreturned hw)) l hl
    exact ⟨e?, hdraft e? he, hget⟩
  placed h := absurd h hplaces
  slash h := absurd h hplaces

/-- **A draft that is to go is kept for now.** -/
theorem Finds.moves_fail (h : Finds tree tree' w) (hgoes : w.isReturned = false)
    (hdraft : ∀ e?, w.IsDraft e? → ∃ mode content, e? = some (.file mode content))
    (failure : FileFailure) : Moves tree tree' w { w with stage := .discarding failure } tree' :=
  h.moves_refl _ (fun _ _ => trivial) hdraft (fun hw => by simp [hgoes] at hw)
    fun hplaces => by cases hplaces.2

/-- **A new draft at the writer's own place.** -/
theorem Finds.moves_put (h : Finds tree tree' w) (hgoes : w.isReturned = false) (stage : Stage)
    (hl : tree.Names w.temporary l) (hnone : tree.get? l = none) (hat : { w with stage }.IsAt l)
    {mode : Nat} {content : List UInt8}
    (hdraft : { w with stage }.IsDraft (some (.file mode content))) :
    Moves tree tree' w { w with stage } (tree'.put l (.file mode content)) where
  exists_stage := ⟨stage, rfl⟩
  sited _ := ⟨l, hl, hnone, hat⟩
  overlays := by
    have hown := h.isDraft hgoes hl hnone
    refine h.overlays.put hl.ne_nil (fun hdirectory => ?_) (fun _ target hlink => ?_) mode content
    · rw [hdirectory] at hown
      obtain ⟨_, _, hfile⟩ := hown.exists_file
      cases hfile
    · rw [hlink] at hown
      obtain ⟨_, _, hfile⟩ := hown.exists_file
      cases hfile
  beside m hm _ := FileTree.get?_put_of_ne tree' (by rintro rfl; exact hm hl) _
  holds _ m hm := by
    obtain rfl := hl.unique hm
    exact ⟨_, hdraft, FileTree.get?_put_self tree' hl.ne_nil _⟩
  placed h := absurd (h.2.symm.trans hdraft.isPlaced_eq_false) (by decide)
  slash h := absurd (h.2.symm.trans hdraft.isPlaced_eq_false) (by decide)

/-- The draft goes, and the writer returns. -/
theorem Finds.moves_erase (h : Finds tree tree' w) (hl : tree.Names w.temporary l)
    (hnone : tree.get? l = none) {mode : Nat} {content : List UInt8}
    (hfile : tree'.get? l = some (.file mode content)) {failure : FileFailure} :
    Moves tree tree' w { w with stage := .returned (.error failure) } (tree'.erase l) where
  exists_stage := ⟨_, rfl⟩
  sited h := absurd rfl h
  overlays := h.overlays.erase hl.ne_nil hfile
  beside m hm _ := FileTree.get?_erase_of_ne tree' (by rintro rfl; exact hm hl)
  holds _ m hm := by
    obtain rfl := hl.unique hm
    exact ⟨none, rfl, by rw [FileTree.get?_erase_self tree' hl.ne_nil, hnone]; rfl⟩
  placed h := by cases h.2
  slash h := by cases h.2

/-- **The whole token gets the marker's place.** -/
theorem Finds.moves_rename (h : Finds tree tree' w) (hl : tree.Names w.temporary l)
    (hnone : tree.get? l = none) (hfile : tree'.get? l = some (entry w.state))
    (hplaced : w.isPlaced = false) {m : Location} (hm : tree.Names w.path m)
    (hdirectory : tree'.get? m ≠ some .directory) (hslash : Path.endsInSlash w.path = false) :
    Moves tree tree' w { w with stage := .returned (.ok ()) }
      ((tree'.erase l).put m (entry w.state)) where
  exists_stage := ⟨_, rfl⟩
  sited h := absurd rfl h
  overlays := by
    have herased := h.overlays.erase hl.ne_nil hfile
    refine herased.put hm.ne_nil ?_ (fun hplace => absurd hm hplace) _ _
    rw [FileTree.get?_erase tree' hl.ne_nil]
    split
    · simp
    · exact hdirectory
  beside x hx hplace := by
    have hne : x ≠ m := by
      rintro rfl
      exact hplace ⟨hplaced, rfl⟩ hm
    rw [FileTree.get?_put_of_ne _ hne,
      FileTree.get?_erase_of_ne tree' (by rintro rfl; exact hx hl)]
  holds _ x hx := by
    obtain rfl := hl.unique hx
    have hne : l ≠ m := by
      rintro rfl
      exact h.other _ hl hm
    refine ⟨none, rfl, ?_⟩
    rw [FileTree.get?_put_of_ne _ hne, FileTree.get?_erase_self tree' hl.ne_nil, hnone]
    rfl
  placed _ := ⟨m, hm, FileTree.get?_put_self _ hm.ne_nil _⟩
  slash _ := hslash

/-! ### Stages -/

/-- **The temporary file is made**, or it cannot be. -/
theorem Finds.moves_creating (h : Finds tree tree' w) (hstage : w.stage = .creating) :
    Moves tree tree' w (w.step tree').1 (w.step tree').2 := by
  obtain ⟨path, state, temporary, mishap?, _⟩ := w
  obtain rfl := hstage
  have hfails (failure : FileFailure) := h.moves_refl (.returned (.error failure)) (fun _ h => h)
    (fun _ h => h) (fun _ => rfl) fun hplaces => by cases hplaces.2
  simp only [step]
  split
  · exact hfails _
  · cases hcreate : tree'.createNew temporary privateMode with
    | error fault => exact hfails _
    | ok made =>
      obtain ⟨tree'', l⟩ := made
      obtain ⟨followed, d, name, hleads, rfl, hnone', rfl⟩ := FileTree.of_createNew hcreate
      have hl := (h.overlays.of_leadsTo hleads).names
      have hnone : tree.get? (d ++ [name]) = none := by
        obtain ⟨_, rfl, hget⟩ := h.holds (fun hw => by cases hw) _ hl
        simpa [hnone'] using hget.symm
      exact h.moves_put rfl (.settingMode _) hl hnone rfl rfl

/-- **The file gets its mode**: the handle leads to the draft. -/
theorem Finds.moves_settingMode {l' : Location} (h : Finds tree tree' w)
    (hstage : w.stage = .settingMode l') :
    Moves tree tree' w (w.step tree').1 (w.step tree').2 := by
  obtain ⟨path, state, temporary, mishap?, _⟩ := w
  obtain rfl := hstage
  obtain ⟨l, hl, hnone, rfl, hfile⟩ := h.exists_place rfl (Option.some_ne_none _).symm
  simp only [step]
  split
  · exact h.moves_fail rfl (fun _ hdraft => ⟨_, _, hdraft⟩) _
  · rw [FileTree.updateFile_of_file hfile]
    exact h.moves_put rfl (.filling _) hl hnone rfl rfl

/-- **The file gets the token**, as a whole or the part of it that can be written. -/
theorem Finds.moves_filling {l' : Location} (h : Finds tree tree' w)
    (hstage : w.stage = .filling l') : Moves tree tree' w (w.step tree').1 (w.step tree').2 := by
  obtain ⟨path, state, temporary, mishap?, _⟩ := w
  obtain rfl := hstage
  obtain ⟨l, hl, hnone, rfl, hfile⟩ := h.exists_place rfl (Option.some_ne_none _).symm
  simp only [step]
  split
  · rw [FileTree.updateFile_of_file hfile]
    exact h.moves_put rfl (.discarding _) hl hnone trivial ⟨_, _, rfl⟩
  · rw [FileTree.updateFile_of_file hfile]
    exact h.moves_put rfl .syncing hl hnone trivial rfl

/-- **The content is on the disk**, or the file is to go. -/
theorem Finds.moves_syncing (h : Finds tree tree' w) (hstage : w.stage = .syncing) :
    Moves tree tree' w (w.step tree').1 (w.step tree').2 := by
  obtain ⟨path, state, temporary, mishap?, _⟩ := w
  obtain rfl := hstage
  simp only [step]
  split
  · exact h.moves_fail rfl (fun _ hdraft => ⟨_, _, hdraft⟩) _
  · exact h.moves_refl .renaming (fun _ h => h) (fun _ h => h) (fun hw => by cases hw)
      fun hplaces => by cases hplaces.2

/-- **The draft is moved onto the marker**, or stays where it is. -/
theorem Finds.moves_renaming (h : Finds tree tree' w) (hstage : w.stage = .renaming) :
    Moves tree tree' w (w.step tree').1 (w.step tree').2 := by
  obtain ⟨path, state, temporary, mishap?, _⟩ := w
  obtain rfl := hstage
  obtain ⟨l, hl, hnone, -, hfile⟩ := h.exists_place rfl (Option.some_ne_none _).symm
  have hfails := h.moves_fail rfl fun _ hdraft => ⟨_, _, hdraft⟩
  simp only [step]
  split
  · exact hfails _
  · cases hrename : tree'.renameFile temporary path with
    | error fault => exact hfails _
    | ok tree'' =>
      obtain ⟨followed, d, name, hleads⟩ := FileTree.exists_leadsTo_of_renameFile hrename
      obtain rfl := hl.unique (h.overlays.of_leadsTo hleads).names
      obtain ⟨followed', d', name', hleads', hslash, hdirectory, rfl⟩ :=
        FileTree.of_renameFile hleads hfile hrename
      exact h.moves_rename hl hnone hfile rfl (h.overlays.of_leadsTo hleads').names hdirectory
        hslash

/-- **The draft goes**, unless its path leads nowhere any more. -/
theorem Finds.moves_discarding {failure : FileFailure} (h : Finds tree tree' w)
    (hstage : w.stage = .discarding failure) :
    Moves tree tree' w (w.step tree').1 (w.step tree').2 := by
  obtain ⟨path, state, temporary, mishap?, _⟩ := w
  obtain rfl := hstage
  obtain ⟨l, hl, hnone, -, mode, content, hfile⟩ := h.exists_place rfl (by
    rintro ⟨_, _, hfile⟩
    cases hfile)
  simp only [step]
  cases hremove : tree'.remove temporary with
  | error fault =>
    refine ⟨⟨_, rfl⟩, fun h => absurd rfl h, h.overlays, fun _ _ _ => rfl, fun hapart => ?_,
      (fun h => by cases h.2), (fun h => by cases h.2)⟩
    obtain ⟨followed, d, name, hleads, rfl⟩ := hl
    have hleads' := h.overlays.leadsTo hleads (hapart rfl followed d name hleads)
    rw [hleads'.remove h.slash hfile] at hremove
    cases hremove
  | ok tree'' =>
    obtain ⟨followed, d, name, hleads, rfl⟩ := FileTree.of_remove hremove
    obtain rfl := hl.unique (h.overlays.of_leadsTo hleads).names
    exact h.moves_erase hl hnone hfile

/-- **What one step of a writer does**, whatever the other writers have done before. -/
theorem moves_step (h : Finds tree tree' w) :
    Moves tree tree' w (w.step tree').1 (w.step tree').2 := by
  rcases hstage : w.stage with _ | l | l | _ | _ | failure | result
  · exact h.moves_creating hstage
  · exact h.moves_settingMode hstage
  · exact h.moves_filling hstage
  · exact h.moves_syncing hstage
  · exact h.moves_renaming hstage
  · exact h.moves_discarding hstage
  · have hstep : w.step tree' = (w, tree') := by simp only [step, hstage]
    rw [hstep]
    exact h.moves_refl w.stage (fun _ h => h) (fun _ h => h) (fun h => h)
      fun hplaces => by cases hplaces.1.symm.trans hplaces.2

/-- **A writer that has placed its file stays as it is.** -/
theorem isPlaced_step (h : w.isPlaced = true) (tree : FileTree) :
    (w.step tree).1.isPlaced = true := by
  unfold isPlaced at h
  split at h
  · rename_i hstage
    simp only [step, hstage, isPlaced]
  · cases h

end Step

end Sidecar.Marker.Writing
