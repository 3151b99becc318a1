import Sidecar.Proofs.FileTree.LookUp

/-!
# Proofs/FileTree/Change — what the operations on files change

One lemma for each operation that a writer uses: **when it succeeds, where its path led, and what
the tree is from then on.**
-/

namespace Sidecar.FileTree

variable {tree tree' : FileTree} {path source target : List Char} {followed : List Location}
  {d l : Location} {name : List Char}

/-- **A new file is made where nothing stood.** -/
theorem of_createNew {mode : Nat} (h : tree.createNew path mode = .ok (tree', l)) :
    ∃ followed d name, LeadsTo tree path followed d name ∧ l = d ++ [name] ∧ tree.get? l = none ∧
      tree' = tree.put l (.file mode []) := by
  simp only [createNew, bind_eq_ok_iff] at h
  obtain ⟨⟨m, slashed⟩, hresolve, h⟩ := h
  obtain ⟨followed, d, name, hleads, rfl, -⟩ := leadsTo_of_resolveParent hresolve
  split at h
  · obtain ⟨rfl, rfl⟩ := Prod.mk.inj (Except.ok.inj h)
    exact ⟨followed, d, name, hleads, rfl, ‹_›, rfl⟩
  · cases h

/-- **A file is moved to where the other path led.** -/
theorem of_renameFile (hsource : LeadsTo tree source followed d name) {entry : Entry}
    (hentry : tree.get? (d ++ [name]) = some entry)
    (h : tree.renameFile source target = .ok tree') :
    ∃ followed' d' name', LeadsTo tree target followed' d' name' ∧
      Path.endsInSlash target = false ∧ tree.get? (d' ++ [name']) ≠ some .directory ∧
      tree' = (tree.erase (d ++ [name])).put (d' ++ [name']) entry := by
  simp only [renameFile, hsource.resolveParent, ok_bind, bind_eq_ok_iff] at h
  obtain ⟨⟨m, slashed⟩, hresolve, h⟩ := h
  obtain ⟨followed', d', name', hleads, rfl, rfl⟩ := leadsTo_of_resolveParent hresolve
  simp only [hentry] at h
  split at h
  · cases h
  · rename_i hslash
    split at h
    · cases h
    · exact ⟨followed', d', name', hleads, Bool.eq_false_iff.mpr hslash, ‹_›,
        (Except.ok.inj h).symm⟩

/-- **A file is removed** through any path without a slash at its end. -/
theorem LeadsTo.remove (h : LeadsTo tree path followed d name)
    (hslash : Path.endsInSlash path = false) {mode : Nat} {content : List UInt8}
    (hget : tree.get? (d ++ [name]) = some (.file mode content)) :
    tree.remove path = .ok (tree.erase (d ++ [name])) := by
  simp [FileTree.remove, h.resolveParent, hget, hslash]

/-- **What is removed is the entry that the path named.** -/
theorem of_remove (h : tree.remove path = .ok tree') :
    ∃ followed d name, LeadsTo tree path followed d name ∧ tree' = tree.erase (d ++ [name]) := by
  simp only [FileTree.remove, bind_eq_ok_iff] at h
  obtain ⟨⟨l, slashed⟩, hresolve, h⟩ := h
  obtain ⟨followed, d, name, hleads, rfl, rfl⟩ := leadsTo_of_resolveParent hresolve
  refine ⟨followed, d, name, hleads, ?_⟩
  simp only at h
  split at h
  · cases h
  · cases h
  · split at h
    · cases h
    · exact (Except.ok.inj h).symm

/-- A file that is moved has a path that leads to it. -/
theorem exists_leadsTo_of_renameFile (h : tree.renameFile source target = .ok tree') :
    ∃ followed d name, LeadsTo tree source followed d name := by
  simp only [renameFile, bind_eq_ok_iff] at h
  obtain ⟨⟨l, slashed⟩, hresolve, -⟩ := h
  obtain ⟨followed, d, name, hleads, -, -⟩ := leadsTo_of_resolveParent hresolve
  exact ⟨followed, d, name, hleads⟩

/-- **A file that is there is changed.** -/
theorem updateFile_of_file {mode : Nat} {content : List UInt8}
    (h : tree.get? l = some (.file mode content)) (f : Nat → List UInt8 → Nat × List UInt8) :
    tree.updateFile l f = tree.put l (.file (f mode content).1 (f mode content).2) := by
  simp [updateFile, h]

theorem updateFile_put (hl : l ≠ []) (mode : Nat) (content : List UInt8)
    (f : Nat → List UInt8 → Nat × List UInt8) :
    (tree.put l (.file mode content)).updateFile l f
      = tree.put l (.file (f mode content).1 (f mode content).2) := by
  simp [updateFile, get?_put_self tree hl]

end Sidecar.FileTree
