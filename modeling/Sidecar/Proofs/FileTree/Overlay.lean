import Sidecar.Proofs.FileTree.Change

/-!
# Proofs/FileTree/Overlay — a tree with files put on it

`Overlays` relates a tree to one that differs from it by files alone, and by links only at a given
place.  **Putting and removing files keeps it** (`Overlays.put`, `Overlays.erase`), and as no
look-up of a directory passes a file, a path leads where it led before
(`Overlays.leadsTo`, `Overlays.of_leadsTo`).
-/

namespace Sidecar.FileTree

variable {tree tree' : FileTree} {path : List Char} {followed : List Location} {d l m : Location}
  {name : List Char}

theorem get?_erase_self (tree : FileTree) (h : l ≠ []) : (tree.erase l).get? l = none := by
  rw [get?, if_neg h, List.lookup_eq_none_iff]
  intro x hx
  have hne : x.1 ≠ l := by simpa using (List.mem_filter.mp hx).2
  exact bne_iff_ne.mpr (Ne.symm hne)

/-- **What is erased is found no more**, and all else stays. -/
theorem get?_erase (tree : FileTree) (h : l ≠ []) :
    (tree.erase l).get? m = if m = l then none else tree.get? m := by
  split
  · subst m
    exact get?_erase_self tree h
  · exact get?_erase_of_ne tree ‹_›

/-! ## The entry that a path names -/

/-- A path names the entry at a location, **whatever stands there.** -/
def Names (tree : FileTree) (path : List Char) (l : Location) : Prop :=
  ∃ followed d name, tree.LeadsTo path followed d name ∧ l = d ++ [name]

theorem LeadsTo.names (h : tree.LeadsTo path followed d name) : tree.Names path (d ++ [name]) :=
  ⟨followed, d, name, h, rfl⟩

theorem Names.ne_nil (h : tree.Names path l) : l ≠ [] := by
  obtain ⟨_, _, _, -, rfl⟩ := h
  simp

/-- **A path names one entry.** -/
theorem Names.unique (hl : tree.Names path l) (hm : tree.Names path m) : l = m := by
  obtain ⟨_, d, name, hd, rfl⟩ := hl
  obtain ⟨_, d', name', hd', rfl⟩ := hm
  have hsame := hd.resolveParent.symm.trans hd'.resolveParent
  exact (Prod.mk.inj (Except.ok.inj hsame)).1

/-- The entry that a path names has the path's last name. -/
theorem Names.getLast? (h : tree.Names path l) : l.getLast? = (Path.names path).getLast? := by
  obtain ⟨_, d, name, hd, rfl⟩ := h
  rw [hd.getLast?, List.getLast?_append_of_ne_nil d (List.cons_ne_nil name [])]
  rfl

/-! ## Files put on a tree -/

/-- The second tree is the first **but for files**, and but for a link at a place where `IsPlace`
holds. -/
structure Overlays (IsPlace : Location → Prop) (tree tree' : FileTree) : Prop where
  workingDirectory_eq : tree'.workingDirectory = tree.workingDirectory
  directory_iff : ∀ l, tree'.get? l = some .directory ↔ tree.get? l = some .directory
  link_of : ∀ l target, tree'.get? l = some (.link target) → tree.get? l = some (.link target)
  link_kept : ∀ l target, ¬ IsPlace l → tree.get? l = some (.link target) →
    tree'.get? l = some (.link target)

namespace Overlays

variable {IsPlace : Location → Prop}

theorem refl (IsPlace : Location → Prop) (tree : FileTree) : Overlays IsPlace tree tree :=
  ⟨rfl, fun _ => Iff.rfl, fun _ _ => id, fun _ _ _ => id⟩

/-- **A file goes where no directory is**, and takes a link's place only where it may. -/
theorem put (h : Overlays IsPlace tree tree') (hl : l ≠ [])
    (hdirectory : tree'.get? l ≠ some .directory)
    (hlink : ¬ IsPlace l → ∀ target, tree'.get? l ≠ some (.link target)) (mode : Nat)
    (content : List UInt8) : Overlays IsPlace tree (tree'.put l (.file mode content)) where
  workingDirectory_eq := h.workingDirectory_eq
  directory_iff m := by
    rw [get?_put tree' hl, ← h.directory_iff]
    split
    · subst m
      exact iff_of_false (by simp) hdirectory
    · rfl
  link_of m target hm := by
    rw [get?_put tree' hl] at hm
    split at hm
    · cases hm
    · exact h.link_of m target hm
  link_kept m target hplace hm := by
    have hkept := h.link_kept m target hplace hm
    rw [get?_put tree' hl, if_neg]
    · exact hkept
    · rintro rfl
      exact hlink hplace target hkept

/-- **A file may be taken away.** -/
theorem erase (h : Overlays IsPlace tree tree') (hl : l ≠ []) {mode : Nat} {content : List UInt8}
    (hfile : tree'.get? l = some (.file mode content)) : Overlays IsPlace tree (tree'.erase l) where
  workingDirectory_eq := h.workingDirectory_eq
  directory_iff m := by
    rw [get?_erase tree' hl, ← h.directory_iff]
    split
    · subst m
      rw [hfile]
      simp
    · rfl
  link_of m target hm := by
    rw [get?_erase tree' hl] at hm
    split at hm
    · cases hm
    · exact h.link_of m target hm
  link_kept m target hplace hm := by
    have hkept := h.link_kept m target hplace hm
    rw [get?_erase tree' hl, if_neg]
    · exact hkept
    · rintro rfl
      rw [hfile] at hkept
      cases hkept

theorem origin_eq (h : Overlays IsPlace tree tree') (path : List Char) :
    tree'.origin path = tree.origin path := by
  rw [origin, origin, h.workingDirectory_eq]

/-- **A path leads nowhere that it did not lead before.** -/
theorem of_leadsTo (h : Overlays IsPlace tree tree') (hleads : tree'.LeadsTo path followed d name) :
    tree.LeadsTo path followed d name where
  checked := hleads.checked
  getLast? := hleads.getLast?
  plain := hleads.plain
  passes := by
    have hlink : ∀ m ∈ followed, tree.get? m = tree'.get? m := fun m hm => by
      obtain ⟨target, htarget⟩ := hleads.passes.isLink hm
      rw [htarget, h.link_of m target htarget]
    have hpasses := hleads.passes.mono (fun m hm => (h.directory_iff m).mp hm) hlink
    rwa [h.origin_eq] at hpasses

/-- **A path leads where it led before**, unless it went through a link at the place. -/
theorem leadsTo (h : Overlays IsPlace tree tree') (hleads : tree.LeadsTo path followed d name)
    (hbeside : ∀ l ∈ followed, ¬ IsPlace l) : tree'.LeadsTo path followed d name where
  checked := hleads.checked
  getLast? := hleads.getLast?
  plain := hleads.plain
  passes := by
    have hlink : ∀ m ∈ followed, tree'.get? m = tree.get? m := fun m hm => by
      obtain ⟨target, htarget⟩ := hleads.passes.isLink hm
      rw [htarget, h.link_kept m target (hbeside m hm) htarget]
    have hpasses := hleads.passes.mono (fun m hm => (h.directory_iff m).mpr hm) hlink
    rwa [← h.origin_eq] at hpasses

end Overlays

end Sidecar.FileTree
