import Mathlib
import Sidecar.Proofs.FileTree.Overlay
import Sidecar.Proofs.Marker

/-!
# Proofs/Marker/Whole — a write, and writes among other changes to the files

A write succeeds just when its temporary file can be made and filled and the marker's path names
something other than a directory (`write_ok_iff`); then the entry it names is the token and
**nothing else has changed**, and otherwise nothing has.  Among other actions on the files, each of
which puts entries at certain places (`Action.Puts`), a write is one that puts the token at the
marker's: **what stands at a place is what the last action that put anything there has put**
(`Action.leaves_run`).
-/

namespace Sidecar

namespace FileTree

variable {tree tree' : FileTree} {path target : String} {l : Location}

/-- **The empty path names nothing.** -/
theorem not_names_nil : ¬ tree.Names [] l := by
  rintro ⟨_, _, _, hleads, -⟩
  exact absurd hleads.checked (by decide)

/-! ## The steps on files -/

/-- **A file is written where its path leads**, links followed, unless that is a directory. -/
theorem of_writeFile {mode : Nat} {content : List UInt8}
    (h : tree.writeFile path mode content = .ok tree') :
    ∃ l, tree.resolve .possible path.toList = .ok l ∧ l ≠ [] ∧
      tree' = tree.put l (.file mode content) := by
  obtain ⟨l, hl, h⟩ := bind_eq_ok_iff.mp h
  refine ⟨l, hl, ?_⟩
  split at h
  · cases h
  · rename_i hdirectory
    refine ⟨?_, (Except.ok.inj h).symm⟩
    rintro rfl
    exact hdirectory rfl

/-- **A link is made where its path leads, and nothing stood.** -/
theorem of_makeLink (h : tree.makeLink path target = .ok tree') :
    ∃ l, tree.Names path.toList l ∧ tree' = tree.put l (.link target.toList) := by
  obtain ⟨_, -, h⟩ := bind_eq_ok_iff.mp h
  obtain ⟨⟨l, slashed⟩, hl, h⟩ := bind_eq_ok_iff.mp h
  obtain ⟨followed, d, name, hleads, rfl, -⟩ := leadsTo_of_resolveParent hl
  refine ⟨_, hleads.names, ?_⟩
  simp only at h
  split at h
  · exact (Except.ok.inj h).symm
  · cases h

/-- **A directory is made where nothing stood**, or it was there already. -/
theorem of_makeDirectory {origin : Location} {names : List (List Char)}
    (h : tree.makeDirectory origin names = .ok tree') :
    tree' = tree ∨ ∃ m, m ≠ [] ∧ tree.get? m = none ∧ tree' = tree.put m .directory := by
  obtain ⟨m, -, h⟩ := bind_eq_ok_iff.mp h
  split at h
  · rename_i hnone
    refine .inr ⟨m, ?_, hnone, (Except.ok.inj h).symm⟩
    rintro rfl
    cases hnone
  · exact .inl (Except.ok.inj h).symm
  · cases h

/-- **Directories are made where nothing stood**, and all else stays, however far it goes. -/
theorem get?_makeEach (tree : FileTree) (origin : Location) (paths : List (List (List Char)))
    (l : Location) :
    (tree.makeEach origin paths).1.get? l = tree.get? l ∨
      tree.get? l = none ∧ (tree.makeEach origin paths).1.get? l = some .directory := by
  induction paths generalizing tree with
  | nil => exact .inl rfl
  | cons names rest ih =>
    rw [makeEach]
    split
    · rename_i made hmade
      rcases of_makeDirectory hmade with rfl | ⟨m, hm, hnone, rfl⟩
      · exact ih made
      · have hrest := ih (tree.put m .directory)
        rw [get?_put tree hm] at hrest
        by_cases hl : l = m
        · subst l
          rcases hrest with hsame | ⟨hne, -⟩
          · exact .inr ⟨hnone, by simpa using hsame⟩
          · simp at hne
        · simpa [hl] using hrest
    · exact .inl rfl

/-- **All that is made on the way to a directory is directories**, also when not all can be. -/
theorem get?_makeAll (tree : FileTree) (path : String) (l : Location) :
    (tree.makeAll path).1.get? l = tree.get? l ∨
      tree.get? l = none ∧ (tree.makeAll path).1.get? l = some .directory := by
  unfold makeAll
  simp only
  split
  · exact .inl rfl
  · split
    · exact .inl rfl
    · exact get?_makeEach tree _ _ l

end FileTree

namespace Marker

open FileTree (Names)

variable {tree : FileTree} {path : String} {state : DeclaredState} {temp : TempFile}

/-! ## One write -/

/-- **A write succeeds just when nothing goes wrong with its temporary file**, which can be made,
and the marker's path names something that a file can take the place of. -/
theorem write_ok_iff (hname : IsFileName temp.name) : (write tree path state temp).1 = .ok () ↔
    temp.mishap? = none ∧
      (∃ t, tree.Names (temporary tree path temp) t ∧ tree.get? t = none) ∧
      Path.endsInSlash path.toList = false ∧
      ∃ l, tree.Names path.toList l ∧ tree.get? l ≠ some .directory := by
  constructor
  · intro h
    obtain ⟨followed, d, last, hleads, hslash, hget, hmishap, -⟩ := write_ok hname h
    refine ⟨hmishap, ?_, hslash, d ++ [last], hleads.names, hget⟩
    cases hcreate : tree.createNew (temporary tree path temp) privateMode with
    | error fault =>
      obtain ⟨failure, hw⟩ := write_of_not_created tree path state hcreate
      simp [hw] at h
    | ok made =>
      obtain ⟨_, _, _, ht, hl, hnone, -⟩ := FileTree.of_createNew hcreate
      exact ⟨_, ht.names, hl ▸ hnone⟩
  · rintro ⟨hmishap, ⟨_, ⟨_, d, last, ht, rfl⟩, hnone⟩, hslash, _, ⟨_, d', last', hl, rfl⟩, hget⟩
    have hne : d ++ [last] ≠ [] := by simp
    have hcreate : tree.createNew (temporary tree path temp) privateMode
        = .ok (tree.put (d ++ [last]) (.file privateMode []), d ++ [last]) := by
      simp [FileTree.createNew, ht.resolveParent, hnone]
    -- neither path goes through the temporary file, since nothing stood there
    have hbeside {followed : List Location} {d' : Location} {path : List Char} {last' : List Char}
        (hleads : tree.LeadsTo path followed d' last') :
        (tree.put (d ++ [last]) (entry state)).LeadsTo path followed d' last' :=
      hleads.put (fun hmem => by simpa [hnone] using hleads.passes.isLink hmem) (by simp [hnone]) _
    have hplace :
        (tree.put (d ++ [last]) (entry state)).get? (d' ++ [last']) ≠ some .directory := by
      rw [FileTree.get?_put tree hne]
      split
      · simp [entry]
      · exact hget
    rw [write_of_created tree path state hne hcreate hmishap]
    simp [FileTree.renameFile, (hbeside ht).resolveParent, (hbeside hl).resolveParent, hslash,
      FileTree.get?_put_self tree hne, hplace]

/-- **After a write its path still names the marker**, or nothing any more. -/
theorem names_write (hname : IsFileName temp.name) (h : (write tree path state temp).1 = .ok ())
    {l m : Location} (hl : tree.Names path.toList l)
    (hm : (write tree path state temp).2.Names path.toList m) : m = l := by
  obtain ⟨followed, d, last, -, -, -, -, hw⟩ := write_ok hname h
  rw [hw] at hm
  obtain ⟨_, _, _, hleads, rfl⟩ := hm
  exact (hleads.of_put (by simp)).names.unique hl

/-- **A write that succeeds puts the token at the place that its path names**, and leaves every
other place alone. -/
theorem get?_write_ok (hname : IsFileName temp.name) (h : (write tree path state temp).1 = .ok ())
    {l : Location} (hl : tree.Names path.toList l) (m : Location) :
    (write tree path state temp).2.get? m = if m = l then some (entry state) else tree.get? m := by
  obtain ⟨followed, d, last, hleads, -, -, -, hw⟩ := write_ok hname h
  rw [hw, ← hleads.names.unique hl, FileTree.get?_put tree (by simp)]

/-! ## Writes among other actions -/

/-- Something that is done to the files. -/
inductive Action where
  /-- A marker is written, by way of this temporary file. -/
  | write (path : String) (state : DeclaredState) (temp : TempFile)
  | makeDirectories (path : String)
  | writeFile (path : String) (mode : Nat) (content : List UInt8)
  | makeLink (path target : String)
  | remove (path : String)

namespace Action

/-- The name of the temporary file is one. -/
def IsFit : Action → Prop
  | write _ _ temp => IsFileName temp.name
  | _ => True

/-- The tree after a step on files: **one that fails changes nothing.** -/
def after (tree : FileTree) : Except FileFault FileTree → FileTree
  | .ok tree' => tree'
  | .error _ => tree

/-- The tree after an action. -/
def perform (tree : FileTree) : Action → FileTree
  | write path state temp => (Marker.write tree path state temp).2
  | makeDirectories path => (tree.makeAll path).1
  | writeFile path mode content => after tree (tree.writeFile path mode content)
  | makeLink path target => after tree (tree.makeLink path target)
  | remove path => after tree (tree.remove path.toList)

/-- The tree after all the actions, one after the other. -/
def performAll (tree : FileTree) (actions : List Action) : FileTree := actions.foldl perform tree

/-- **What an action puts at a place**, if it succeeds; a removal puts nothing there. -/
inductive Puts (tree : FileTree) : Action → Location → Option Entry → Prop
  | write {path : String} {state : DeclaredState} {temp : TempFile} {l : Location} :
      (Marker.write tree path state temp).1 = .ok () → tree.Names path.toList l →
      Puts tree (.write path state temp) l (some (entry state))
  | makeDirectories {path : String} {l : Location} : tree.get? l = none →
      (tree.makeAll path).1.get? l = some .directory →
      Puts tree (.makeDirectories path) l (some .directory)
  | writeFile {path : String} {mode : Nat} {content : List UInt8} {tree' : FileTree}
      {l : Location} : tree.writeFile path mode content = .ok tree' →
      tree.resolve .possible path.toList = .ok l →
      Puts tree (.writeFile path mode content) l (some (.file mode content))
  | makeLink {path target : String} {tree' : FileTree} {l : Location} :
      tree.makeLink path target = .ok tree' → tree.Names path.toList l →
      Puts tree (.makeLink path target) l (some (.link target.toList))
  | remove {path : String} {tree' : FileTree} {l : Location} :
      tree.remove path.toList = .ok tree' → tree.Names path.toList l →
      Puts tree (.remove path) l none

/-- No action puts anything at the place. -/
inductive Spares (l : Location) : FileTree → List Action → Prop
  | nil {tree : FileTree} : Spares l tree []
  | cons {tree : FileTree} {a : Action} {rest : List Action} : (∀ e, ¬ Puts tree a l e) →
      Spares l (perform tree a) rest → Spares l tree (a :: rest)

/-- **What actions leave at a place**: what was there, or what the last one that put anything there
has put. -/
inductive Leaves (l : Location) (tree : FileTree) : List Action → Option Entry → Prop
  | spared {actions : List Action} : Spares l tree actions → Leaves l tree actions (tree.get? l)
  | last {before after : List Action} {a : Action} {e : Option Entry} :
      Puts (performAll tree before) a l e → Spares l (perform (performAll tree before) a) after →
      Leaves l tree (before ++ a :: after) e

/-- An action has put at a place what stands there, or has put nothing there. -/
def Accounts (tree : FileTree) (a : Action) (l : Location) : Prop :=
  Puts tree a l ((perform tree a).get? l) ∨
    (∀ e, ¬ Puts tree a l e) ∧ (perform tree a).get? l = tree.get? l

/-- One change at one place. -/
theorem accounts_of_put {a : Action} {m : Location} {e : Option Entry} (hm : Puts tree a m e)
    (hputs : ∀ l e', Puts tree a l e' → l = m)
    (hget : ∀ l, (perform tree a).get? l = if l = m then e else tree.get? l) (l : Location) :
    Accounts tree a l := by
  by_cases hl : l = m
  · subst l
    exact .inl (by rwa [hget m, if_pos rfl])
  · exact .inr ⟨fun e' he' => hl (hputs l e' he'), by rw [hget l, if_neg hl]⟩

/-- **A step on files fails, or makes one change.** -/
theorem accounts_of_step {a : Action} {result : Except FileFault FileTree}
    (hperform : perform tree a = after tree result)
    (hputs : ∀ l e, Puts tree a l e → ∃ tree', result = .ok tree')
    (hok : ∀ tree', result = .ok tree' → ∃ m e, Puts tree a m e ∧
      (∀ l e', Puts tree a l e' → l = m) ∧
      ∀ l, tree'.get? l = if l = m then e else tree.get? l) (l : Location) :
    Accounts tree a l := by
  cases result with
  | error fault =>
    refine .inr ⟨fun e he => ?_, by rw [hperform, after]⟩
    obtain ⟨tree', htree'⟩ := hputs l e he
    cases htree'
  | ok tree' =>
    obtain ⟨m, e, hm, hunique, hget⟩ := hok tree' rfl
    rw [after] at hperform
    exact accounts_of_put hm hunique (hperform ▸ hget) l

/-- **A write fails, or puts the token at one place.** -/
theorem accounts_write {path : String} {state : DeclaredState} {temp : TempFile}
    (hname : IsFileName temp.name) (l : Location) : Accounts tree (.write path state temp) l := by
  cases hw : (Marker.write tree path state temp).1 with
  | error failure =>
    refine .inr ⟨fun e he => ?_, by rw [perform, write_error hname hw]⟩
    cases he with
    | write hok _ => simp [hw] at hok
  | ok done =>
    obtain ⟨followed, d, last, hleads, -⟩ := write_ok hname hw
    refine accounts_of_put (.write hw hleads.names) (fun l e he => ?_)
      (get?_write_ok hname hw hleads.names) l
    cases he with
    | write _ hl => exact hl.unique hleads.names

/-- **Directories are put where nothing stood**, at one place or several, or at none. -/
theorem accounts_makeDirectories (path : String) (l : Location) :
    Accounts tree (.makeDirectories path) l := by
  rw [Accounts, perform]
  rcases FileTree.get?_makeAll tree path l with hsame | ⟨hnone, hmade⟩
  · refine .inr ⟨fun e he => ?_, hsame⟩
    cases he with
    | makeDirectories hnone hmade => simp [hsame, hnone] at hmade
  · exact .inl (hmade ▸ .makeDirectories hnone hmade)

/-- **An action changes a place only by putting something there.** -/
theorem accounts {a : Action} (hfit : a.IsFit) (l : Location) : Accounts tree a l := by
  cases a with
  | write path state temp => exact accounts_write hfit l
  | makeDirectories path => exact accounts_makeDirectories path l
  | writeFile path mode content =>
    refine accounts_of_step rfl (fun l e he => ?_) (fun tree' hwrite => ?_) l
    · cases he with
      | writeFile hok _ => exact ⟨_, hok⟩
    · obtain ⟨m, hm, hne, rfl⟩ := FileTree.of_writeFile hwrite
      refine ⟨m, _, .writeFile hwrite hm, fun l e he => ?_, fun l => FileTree.get?_put tree hne _⟩
      cases he with
      | writeFile _ hl => exact Except.ok.inj (hl.symm.trans hm)
  | makeLink path target =>
    refine accounts_of_step rfl (fun l e he => ?_) (fun tree' hlink => ?_) l
    · cases he with
      | makeLink hok _ => exact ⟨_, hok⟩
    · obtain ⟨m, hm, rfl⟩ := FileTree.of_makeLink hlink
      refine ⟨m, _, .makeLink hlink hm, fun l e he => ?_,
        fun l => FileTree.get?_put tree hm.ne_nil _⟩
      cases he with
      | makeLink _ hl => exact hl.unique hm
  | remove path =>
    refine accounts_of_step rfl (fun l e he => ?_) (fun tree' hremove => ?_) l
    · cases he with
      | remove hok _ => exact ⟨_, hok⟩
    · obtain ⟨followed, d, last, hleads, rfl⟩ := FileTree.of_remove hremove
      refine ⟨_, _, .remove hremove hleads.names, fun l e he => ?_,
        fun l => FileTree.get?_erase tree hleads.names.ne_nil⟩
      cases he with
      | remove _ hl => exact hl.unique hleads.names

theorem Leaves.cons {a : Action} {rest : List Action} {l : Location} {e : Option Entry}
    (ha : Accounts tree a l) (h : Leaves l (perform tree a) rest e) :
    Leaves l tree (a :: rest) e := by
  cases h with
  | spared hspares =>
    rcases ha with hputs | ⟨hnone, hsame⟩
    · exact @Leaves.last l tree [] rest a _ hputs hspares
    · rw [hsame]
      exact .spared (.cons hnone hspares)
  | @last before after b e hputs hspares =>
    exact @Leaves.last l tree (a :: before) after b e hputs hspares

/-- **What stands at a place is what the last action put there.** -/
theorem leaves_run (actions : List Action) (hfit : ∀ a ∈ actions, a.IsFit) (l : Location) :
    Leaves l tree actions ((performAll tree actions).get? l) := by
  induction actions generalizing tree with
  | nil => exact .spared .nil
  | cons a rest ih =>
    rw [List.forall_mem_cons] at hfit
    exact (ih hfit.2).cons (accounts hfit.1 l)

end Action

/-- **A marker is written whole or not at all.**  A write succeeds just when nothing goes wrong with
its temporary file, which can be made, and the marker's path, which no slash ends, names something
other than a directory.  Then the entry that the path names is a file of mode 0777 that holds the
token; every other place is as it was, so that no temporary file is left; and if the path still
names an entry, it is this one.  A write that fails leaves the tree alone.  After any actions on the
files, what stands at a place is what the last of them that put anything there has put. -/
theorem whole_or_nothing (tree : FileTree) (path : String) (state : DeclaredState) {temp : TempFile}
    (hname : IsFileName temp.name) :
    ((write tree path state temp).1 = .ok () ↔
      temp.mishap? = none ∧
        (∃ t, tree.Names (temporary tree path temp) t ∧ tree.get? t = none) ∧
        Path.endsInSlash path.toList = false ∧
        ∃ l, tree.Names path.toList l ∧ tree.get? l ≠ some .directory) ∧
    ((write tree path state temp).1 = .ok () → ∃ l, tree.Names path.toList l ∧
      (write tree path state temp).2.get? l
        = some (.file 0o777 (Text.Utf8.encode state.token.toList)) ∧
      (∀ m, m ≠ l → (write tree path state temp).2.get? m = tree.get? m) ∧
      (∀ t, tree.Names (temporary tree path temp) t → t ≠ l →
        (write tree path state temp).2.get? t = none) ∧
      ∀ m, (write tree path state temp).2.Names path.toList m → m = l) ∧
    (∀ failure, (write tree path state temp).1 = .error failure →
      (write tree path state temp).2 = tree) ∧
    ((temp.mishap? ≠ none ∨ path = "" ∨ Path.endsInSlash path.toList = true ∨
        (∀ l, ¬ tree.Names path.toList l) ∨
        ∃ l, tree.Names path.toList l ∧ tree.get? l = some .directory) →
      ∃ failure, write tree path state temp = (.error failure, tree)) ∧
    ∀ actions, (∀ a ∈ actions, Action.IsFit a) → ∀ l,
      Action.Leaves l tree actions ((Action.performAll tree actions).get? l) := by
  refine ⟨write_ok_iff hname, fun h => ?_, fun failure => write_error hname, fun hpath => ?_,
    fun actions hfit l => Action.leaves_run actions hfit l⟩
  · obtain ⟨followed, d, last, hleads, -⟩ := write_ok hname h
    have hget := get?_write_ok hname h hleads.names
    have hother {m : Location} (hm : m ≠ d ++ [last]) :
        (write tree path state temp).2.get? m = tree.get? m := by rw [hget, if_neg hm]
    obtain ⟨-, ⟨t, ht, hnone⟩, -⟩ := (write_ok_iff hname).mp h
    refine ⟨d ++ [last], hleads.names, by rw [hget, if_pos rfl]; rfl, fun m => hother,
      fun t' ht' hne => ?_, fun m => names_write hname h hleads.names⟩
    rw [hother hne, ht'.unique ht, hnone]
  · cases hw : (write tree path state temp).1 with
    | error failure =>
      exact ⟨failure, Prod.ext hw (write_error hname hw)⟩
    | ok done =>
      obtain ⟨hmishap, -, hslash, l, hl, hget⟩ := (write_ok_iff hname).mp hw
      rcases hpath with hmishap' | rfl | hslash' | hnone | ⟨m, hm, hdirectory⟩
      · exact absurd hmishap hmishap'
      · exact absurd hl FileTree.not_names_nil
      · simp [hslash] at hslash'
      · exact absurd hl (hnone l)
      · exact absurd (hm.unique hl ▸ hdirectory) hget

/-! ## A marker that was a link -/

/-- A working directory in which a link stands at the marker's place. -/
def linkedFiles : FileTree :=
  ((FileTree.empty [['w']]).put [['w'], "old".toList] (.file 0o444 [])).put
    [['w'], "state.txt".toList] (.link "old".toList)

/-- **A marker that was a link is a file after a write**, and still a link if the disk takes no more
than three octets of the token. -/
theorem linked_replaced :
    IsFileName ".tmpAbC123" ∧
    (write linkedFiles "state.txt" .clustered ".tmpAbC123").1 = .ok () ∧
    (∃ l, linkedFiles.Names "state.txt".toList l ∧
      (write linkedFiles "state.txt" .clustered ".tmpAbC123").2.get? l
        = some (.file 0o777 (Text.Utf8.encode "CLUSTERED".toList))) ∧
    ∃ failure, write linkedFiles "state.txt" .clustered ⟨".tmpAbC123", some (.filling 3 .busy)⟩
      = (.error failure, linkedFiles) := by
  have hname : IsFileName ".tmpAbC123" := ⟨by decide, by decide⟩
  have hok : (write linkedFiles "state.txt" .clustered ".tmpAbC123").1 = .ok () := by cbv
  obtain ⟨-, hwritten, -⟩ :=
    @whole_or_nothing linkedFiles "state.txt" .clustered ".tmpAbC123" hname
  obtain ⟨l, hl, hget, -⟩ := hwritten hok
  obtain ⟨-, -, -, hfails, -⟩ := @whole_or_nothing linkedFiles "state.txt" .clustered
    ⟨".tmpAbC123", some (.filling 3 .busy)⟩ hname
  exact ⟨hname, hok, ⟨l, hl, hget⟩, hfails (.inl (Option.some_ne_none _))⟩

end Marker

end Sidecar
