import Mathlib.Data.List.Basic
import Sidecar.FileTree
import Sidecar.Proofs.Peel

/-!
# Proofs/FileTree/LookUp — what a look-up passes through

`Passes` is the look-up of a directory as a relation: it tells which links were followed, so that
one can say **which changes to a tree a look-up does not notice** (`Passes.put`, `Passes.of_put`).
`LeadsTo` is the same for a path whose last name is not followed.
-/

namespace Sidecar.FileTree

/-! ## Changes at one location -/

section Change

variable (tree : FileTree) {l : Location}

@[simp] theorem erase_put (e : Entry) : (tree.put l e).erase l = tree.erase l := by
  simp [put, erase, List.filter_filter]

@[simp] theorem put_put (e e' : Entry) : (tree.put l e).put l e' = tree.put l e' := by
  have := erase_put tree (l := l) e
  simp only [put] at this ⊢
  rw [this]

/-- **There is nothing to leave out** where nothing stands. -/
theorem erase_of_get?_eq_none (h : tree.get? l = none) : tree.erase l = tree := by
  have hl : l ≠ [] := by
    rintro rfl
    simp [get?] at h
  rw [get?, if_neg hl, List.lookup_eq_none_iff] at h
  have hself : tree.entries.filter (·.1 ≠ l) = tree.entries :=
    List.filter_eq_self.mpr fun x hx => by simpa using Ne.symm (bne_iff_ne.mp (h x hx))
  simp only [erase, hself]

/-- **What is put at a place is found there, and nowhere else.** -/
theorem get?_put {m : Location} (h : l ≠ []) (e : Entry) :
    (tree.put l e).get? m = if m = l then some e else tree.get? m := by
  split
  · subst m
    exact get?_put_self tree h e
  · exact get?_put_of_ne tree ‹_› e

end Change

/-! ## Directories -/

/-- A name that stands for an entry of its directory. -/
structure IsPlain (name : List Char) : Prop where
  ne_dot : name ≠ ['.']
  ne_dotDot : name ≠ ['.', '.']
  short : (Text.Utf8.encode name).length ≤ 255

/-- From `here` the names lead to the directory `d`, **through these links**, with as many to spare
as are left over. -/
inductive Passes (tree : FileTree) :
    Nat → Location → List (List Char) → List Location → Location → Prop
  | nil {links : Nat} {here : Location} : Passes tree links here [] [] here
  | dot {links : Nat} {here d : Location} {rest : List (List Char)} {followed : List Location} :
      Passes tree links here rest followed d → Passes tree links here (['.'] :: rest) followed d
  | dotDot {links : Nat} {here d : Location} {rest : List (List Char)} {followed : List Location} :
      Passes tree links here.dropLast rest followed d →
      Passes tree links here (['.', '.'] :: rest) followed d
  | directory {links : Nat} {here d : Location} {name : List Char} {rest : List (List Char)}
      {followed : List Location} : IsPlain name →
      tree.get? (here ++ [name]) = some .directory →
      Passes tree links (here ++ [name]) rest followed d →
      Passes tree links here (name :: rest) followed d
  | link {links : Nat} {here d : Location} {name target : List Char} {rest : List (List Char)}
      {followed : List Location} : IsPlain name →
      tree.get? (here ++ [name]) = some (.link target) →
      Passes tree links (if Path.isAbsolute target then [] else here) (Path.names target ++ rest)
        followed d →
      Passes tree (links + 1) here (name :: rest) ((here ++ [name]) :: followed) d

section Passes

variable {tree tree' : FileTree} {links : Nat} {here d l : Location} {names : List (List Char)}
  {followed : List Location}

/-- **A plain name leads to the entry of its name.** -/
theorem walk_plain {name : List Char} (h : IsPlain name) (goal : Goal)
    (rest : List (List Char)) : tree.walk goal links here (name :: rest) =
      match tree.get? (here ++ [name]) with
      | none => if rest = [] && goal = .possible then .ok (here ++ [name]) else .error .notFound
      | some .directory => tree.walk goal links (here ++ [name]) rest
      | some (.file _ _) =>
        if rest = [] && goal ≠ .directory then .ok (here ++ [name]) else .error .notADirectory
      | some (.link target) =>
        match links with
        | 0 => .error .tooManyLinks
        | links + 1 =>
          tree.walk (if rest = [] && Path.endsInSlash target then .directory else goal) links
            (if Path.isAbsolute target then [] else here) (Path.names target ++ rest) := by
  have hwalk := walk.eq_2 tree goal links here name rest
  rw [if_neg h.ne_dot, if_neg h.ne_dotDot, if_neg (Nat.not_lt.mpr h.short)] at hwalk
  exact hwalk

/-- **A walk to a directory passes.** -/
theorem exists_passes (h : tree.walk .directory links here names = .ok d) :
    ∃ followed, Passes tree links here names followed d := by
  generalize hgoal : Goal.directory = goal at h
  fun_induction walk tree goal links here names with
  | case1 => exact ⟨[], Except.ok.inj h ▸ .nil⟩
  | case2 _ _ _ _ ih =>
    obtain ⟨followed, hp⟩ := ih hgoal h
    exact ⟨followed, .dot hp⟩
  | case3 _ _ _ _ _ ih =>
    obtain ⟨followed, hp⟩ := ih hgoal h
    exact ⟨followed, .dotDot hp⟩
  | case7 _ _ _ _ _ hdot hdotDot hshort hget ih =>
    obtain ⟨followed, hp⟩ := ih hgoal h
    exact ⟨followed, .directory ⟨hdot, hdotDot, Nat.not_lt.mp hshort⟩ hget hp⟩
  | case11 _ _ _ _ hdot hdotDot hshort _ hget _ ih =>
    obtain ⟨followed, hp⟩ := ih (by simp [← hgoal]) (by simpa using h)
    exact ⟨_ :: followed, .link ⟨hdot, hdotDot, Nat.not_lt.mp hshort⟩ hget (by simpa using hp)⟩
  | _ => simp_all

/-- **What passes is walked**, and then the walk goes on from the directory. -/
theorem Passes.walk_append (h : Passes tree links here names followed d) (goal : Goal)
    (more : List (List Char)) (hgoal : more ≠ [] ∨ goal = .directory) :
    ∃ spare, tree.walk goal links here (names ++ more) = tree.walk goal spare d more := by
  induction h with
  | nil => exact ⟨_, rfl⟩
  | dot _ ih =>
    obtain ⟨spare, hw⟩ := ih
    exact ⟨spare, by rw [List.cons_append, walk, if_pos rfl, hw]⟩
  | dotDot _ ih =>
    obtain ⟨spare, hw⟩ := ih
    exact ⟨spare, by rw [List.cons_append, walk, if_neg (by decide), if_pos rfl, hw]⟩
  | directory hplain hget _ ih =>
    obtain ⟨spare, hw⟩ := ih
    exact ⟨spare, by rw [List.cons_append, walk_plain hplain, hget]; exact hw⟩
  | link hplain hget _ ih =>
    obtain ⟨spare, hw⟩ := ih
    refine ⟨spare, ?_⟩
    rw [List.cons_append, walk_plain hplain, hget, ← hw]
    rcases hgoal with hmore | rfl
    · simp [hmore]
    · simp

/-- Only links are followed. -/
theorem Passes.isLink (h : Passes tree links here names followed d) (hl : l ∈ followed) :
    ∃ target, tree.get? l = some (.link target) := by
  induction h with
  | nil => cases hl
  | dot _ ih => exact ih hl
  | dotDot _ ih => exact ih hl
  | directory _ _ _ ih => exact ih hl
  | link _ hget _ ih =>
    rcases List.mem_cons.mp hl with rfl | hl
    · exact ⟨_, hget⟩
    · exact ih hl

/-- **A look-up sees directories and the links that it follows**, and nothing else. -/
theorem Passes.mono (h : Passes tree links here names followed d)
    (hdirectory : ∀ l, tree.get? l = some .directory → tree'.get? l = some .directory)
    (hlink : ∀ l ∈ followed, tree'.get? l = tree.get? l) :
    Passes tree' links here names followed d := by
  induction h with
  | nil => exact .nil
  | dot _ ih => exact .dot (ih hlink)
  | dotDot _ ih => exact .dotDot (ih hlink)
  | directory hplain hget _ ih => exact .directory hplain (hdirectory _ hget) (ih hlink)
  | link hplain hget _ ih =>
    rw [List.forall_mem_cons] at hlink
    exact .link hplain (hlink.1.trans hget) (ih hlink.2)

/-- **A change beside its way goes unnoticed.** -/
theorem Passes.put (h : Passes tree links here names followed d) (hl : l ∉ followed)
    (hget : tree.get? l ≠ some .directory) (e : Entry) :
    Passes (tree.put l e) links here names followed d :=
  h.mono (fun m hm => by rwa [get?_put_of_ne tree (by rintro rfl; exact hget hm)])
    (fun m hm => get?_put_of_ne tree (by rintro rfl; exact hl hm) e)

/-- **No look-up passes a file**, so that what passes beside a file passed before it was there. -/
theorem Passes.of_put {mode : Nat} {content : List UInt8} (hl : l ≠ [])
    (h : Passes (tree.put l (.file mode content)) links here names followed d) :
    Passes tree links here names followed d := by
  refine h.mono (fun m hm => ?_) (fun m hm => ?_)
  · rw [get?_put tree hl] at hm
    split at hm
    · cases hm
    · exact hm
  · obtain ⟨target, hm⟩ := h.isLink hm
    rw [get?_put tree hl] at hm ⊢
    split at hm
    · cases hm
    · rw [if_neg ‹_›]

end Passes

/-! ## Paths -/

/-- A path leads to the entry `name` of the directory `d`, **whatever stands there**, and through
these links to its directory. -/
structure LeadsTo (tree : FileTree) (path : List Char) (followed : List Location) (d : Location)
    (name : List Char) : Prop where
  checked : checkPath path = .ok ()
  getLast? : (Path.names path).getLast? = some name
  plain : IsPlain name
  passes : Passes tree linkLimit (tree.origin path) (Path.names path).dropLast followed d

section LeadsTo

variable {tree : FileTree} {path : List Char} {followed : List Location} {d l : Location}
  {name : List Char}

theorem LeadsTo.names_eq (h : LeadsTo tree path followed d name) :
    Path.names path = (Path.names path).dropLast ++ [name] :=
  (List.dropLast_append_getLast? name h.getLast?).symm

/-- **The look-up of a path without its last name.** -/
theorem LeadsTo.resolveParent (h : LeadsTo tree path followed d name) :
    tree.resolveParent path = .ok (d ++ [name], Path.endsInSlash path) := by
  obtain ⟨spare, hw⟩ := h.passes.walk_append .directory [] (.inr rfl)
  rw [List.append_nil, walk] at hw
  simp [FileTree.resolveParent, h.checked, hw, h.getLast?, h.plain.ne_dot, h.plain.ne_dotDot,
    Nat.not_lt.mpr h.plain.short]

/-- **What a path names stands in a directory that the rest of the path leads to.** -/
theorem leadsTo_of_resolveParent {slashed : Bool} (h : tree.resolveParent path = .ok (l, slashed)) :
    ∃ followed d name, LeadsTo tree path followed d name ∧ l = d ++ [name] ∧
      slashed = Path.endsInSlash path := by
  simp only [FileTree.resolveParent, bind_eq_ok_iff] at h
  obtain ⟨⟨⟩, hchecked, d, hw, h⟩ := h
  obtain ⟨followed, hp⟩ := exists_passes hw
  split at h
  · cases h
  · rename_i name hlast
    split at h
    · cases h
    · rename_i hdots
      split at h
      · cases h
      · rename_i hshort
        rw [Bool.or_eq_true, decide_eq_true_iff, decide_eq_true_iff, not_or] at hdots
        obtain ⟨rfl, rfl⟩ := Prod.mk.inj (Except.ok.inj h)
        exact ⟨followed, d, name, ⟨hchecked, hlast, ⟨hdots.1, hdots.2, Nat.not_lt.mp hshort⟩, hp⟩,
          rfl, rfl⟩

/-- **A path leads where it did**, unless an entry on its way is changed. -/
theorem LeadsTo.put (h : LeadsTo tree path followed d name) (hl : l ∉ followed)
    (hget : tree.get? l ≠ some .directory) (e : Entry) :
    LeadsTo (tree.put l e) path followed d name :=
  { h with passes := h.passes.put hl hget e }

/-- **A file that is put leads no path elsewhere.** -/
theorem LeadsTo.of_put {mode : Nat} {content : List UInt8} (hl : l ≠ [])
    (h : LeadsTo (tree.put l (.file mode content)) path followed d name) :
    LeadsTo tree path followed d name :=
  { h with passes := h.passes.of_put hl }

/-- **A file is read through any path that leads to it.** -/
theorem LeadsTo.read {text : String} (h : LeadsTo tree text.toList followed d name)
    (hslash : Path.endsInSlash text.toList = false) {mode : Nat} {content : List UInt8}
    (hget : tree.get? (d ++ [name]) = some (.file mode content)) :
    tree.read text = .ok content := by
  obtain ⟨spare, hw⟩ := h.passes.walk_append .existing [name] (.inl (by simp))
  rw [← h.names_eq, walk_plain h.plain, hget] at hw
  simp [FileTree.read, resolve, h.checked, hslash, hw, hget]

end LeadsTo

end Sidecar.FileTree
