import Mathlib
import Sidecar.Proofs.Marker.Step

/-!
# Proofs/Marker/Crew — several writers of one marker

A `Crew` is any number of writers and the tree that they share; a schedule tells which of them takes
the next step, so that every interleaving is a schedule, and **a writer that is abandoned is one
that is scheduled no more**.  `Sound` is what every step keeps: the marker's entry is the first one,
or the whole token of the write that was renamed last; everything else is as it was, but for the
drafts of the writers on their way.
-/

namespace Sidecar.Marker

open FileTree (Names Overlays)

/-- A write to be made: the state, and the temporary file, **with which a step may fail.** -/
structure Job where
  state : DeclaredState
  temp : TempFile

/-- Several writers of one marker, and the tree that they share. -/
structure Crew where
  tree : FileTree
  writers : List Writing
  /-- Which writers have renamed their files onto the marker, **the latest first.** -/
  placed : List Nat

namespace Crew

/-- The crew before any writer has taken a step. -/
def start (tree : FileTree) (path : String) (jobs : List Job) : Crew where
  tree
  writers := jobs.map fun job => Writing.start tree path job.state job.temp
  placed := []

/-- Writer `i` takes its next step. -/
def step (c : Crew) (i : Nat) : Crew :=
  match c.writers[i]? with
  | none => c
  | some w =>
    { tree := (w.step c.tree).2
      writers := c.writers.set i (w.step c.tree).1
      placed := if (w.step c.tree).1.isPlaced && !w.isPlaced then i :: c.placed else c.placed }

/-- The steps of a schedule. -/
def run (c : Crew) (schedule : List Nat) : Crew := schedule.foldl step c

/-- The state that was renamed onto the marker last. -/
def latest? (jobs : List Job) (c : Crew) : Option DeclaredState :=
  (c.placed.head?.bind (jobs[·]?)).map (·.state)

/-! ## Temporary names -/

/-- The names of the temporary files are **one for each write**, and none is the marker's. -/
structure Fit (path : String) (jobs : List Job) : Prop where
  isFileName : ∀ job ∈ jobs, IsFileName job.temp.name
  distinct : (jobs.map (·.temp.name)).Nodup
  other : ∀ job ∈ jobs, (Path.names path.toList).getLast? ≠ some job.temp.name.toList

section Names

variable {tree : FileTree} {path : String} {jobs : List Job} {l : Location}

theorem getLast?_names_append (front : List Char) {name : List Char} (hne : name ≠ [])
    (hslash : '/' ∉ name) : (Path.names (front ++ '/' :: name)).getLast? = some name := by
  have hlast : [name].filter (!·.isEmpty) = [name] := by
    rw [List.filter_cons_of_pos (by simp [hne]), List.filter_nil]
  rw [Path.names, List.splitOn_append_cons_self, List.splitOn_eq_singleton hslash,
    List.filter_append, hlast]
  exact List.getLast?_concat ..

/-- **The last name of a path in a directory is the name that was joined.** -/
theorem getLast?_names_join (directory : List Char) {name : List Char} (hne : name ≠ [])
    (hslash : '/' ∉ name) : (Path.names (Path.join directory name)).getLast? = some name := by
  have hrelative : Path.isAbsolute name = false := by
    rw [Path.isAbsolute, decide_eq_false_iff_not]
    exact fun hhead => hslash (List.mem_of_head? hhead)
  rw [Path.join, if_neg (by simp [hrelative])]
  split
  · rename_i hdirectory
    rcases directory.eq_nil_or_concat with rfl | ⟨front, c, rfl⟩
    · rw [List.nil_append, Path.names, List.splitOn_eq_singleton hslash]
      simp [hne]
    · obtain rfl : c = '/' := by simpa [Path.endsInSlash] using hdirectory
      rw [List.concat_eq_append, List.append_assoc, List.singleton_append]
      exact getLast?_names_append front hne hslash
  · exact getLast?_names_append directory hne hslash

/-- **A temporary file has its own name.** -/
theorem getLast?_of_names_temporary {temp : TempFile} (hname : IsFileName temp.name)
    (h : tree.Names (temporary tree path temp) l) : l.getLast? = some temp.name.toList := by
  rw [h.getLast?]
  exact getLast?_names_join _ hname.ne_nil hname.no_slash

/-- **No temporary file stands in the marker's place.** -/
theorem Fit.not_names_path (hfit : Fit path jobs) {job : Job} (hjob : job ∈ jobs)
    (h : tree.Names (temporary tree path job.temp) l) : ¬ tree.Names path.toList l := by
  intro hmarker
  have hlast := getLast?_of_names_temporary (hfit.isFileName job hjob) h
  rw [hmarker.getLast?] at hlast
  exact hfit.other job hjob hlast

/-- **No two temporary files stand in one place.** -/
theorem Fit.eq_of_names (hfit : Fit path jobs) {i j : Nat} {a b : Job} (ha : jobs[i]? = some a)
    (hb : jobs[j]? = some b) (hla : tree.Names (temporary tree path a.temp) l)
    (hlb : tree.Names (temporary tree path b.temp) l) : i = j := by
  have hlast := getLast?_of_names_temporary (hfit.isFileName a (List.mem_of_getElem? ha)) hla
  rw [getLast?_of_names_temporary (hfit.isFileName b (List.mem_of_getElem? hb)) hlb] at hlast
  have hname : b.temp.name = a.temp.name := String.toList_inj.mp (Option.some.inj hlast)
  have hi : i < (jobs.map (·.temp.name)).length := by
    rw [List.length_map]
    exact (List.getElem?_eq_some_iff.mp ha).1
  refine (List.getElem?_inj hi hfit.distinct).mp ?_
  rw [List.getElem?_map, List.getElem?_map, ha, hb, Option.map_some, Option.map_some, hname]

end Names

/-! ## What every step keeps -/

/-- A writer makes a write that was to be made. -/
structure Makes (tree : FileTree) (path : String) (w : Writing) (job : Job) : Prop where
  path_eq : w.path = path.toList
  temporary_eq : w.temporary = temporary tree path job.temp
  state_eq : w.state = job.state

/-- What holds of a crew at every moment. -/
structure Sound (tree : FileTree) (path : String) (jobs : List Job) (c : Crew) : Prop where
  makes : ∀ (i : Nat) (w : Writing), c.writers[i]? = some w →
    ∃ job, jobs[i]? = some job ∧ Makes tree path w job
  overlays : Overlays (tree.Names path.toList) tree c.tree
  sited : ∀ (i : Nat) (w : Writing), c.writers[i]? = some w → w.IsSited tree
  holds : ∀ (i : Nat) (w : Writing), c.writers[i]? = some w →
    (w.isReturned = true → w.IsApart tree) → w.Holds tree c.tree
  elsewhere : ∀ l, ¬ tree.Names path.toList l → (∀ w ∈ c.writers, ¬ tree.Names w.temporary l) →
    c.tree.get? l = tree.get? l
  marker : ∀ m, tree.Names path.toList m →
    c.tree.get? m = ((c.latest? jobs).map entry).or (tree.get? m)
  mem_placed_iff : ∀ i : Nat, i ∈ c.placed ↔ ∃ w, c.writers[i]? = some w ∧ w.isPlaced = true
  names : c.placed ≠ [] → (∃ m, tree.Names path.toList m) ∧ Path.endsInSlash path.toList = false

section Sound

variable {tree : FileTree} {path : String} {jobs : List Job} {c : Crew}

/-- **A crew is sound before its first step.** -/
theorem sound_start (tree : FileTree) (path : String) (jobs : List Job) :
    Sound tree path jobs (start tree path jobs) := by
  have hwriters : ∀ (i : Nat) (w : Writing), (start tree path jobs).writers[i]? = some w →
      ∃ job, jobs[i]? = some job ∧ w = Writing.start tree path job.state job.temp := by
    intro i w h
    rw [start, List.getElem?_map, Option.map_eq_some_iff] at h
    obtain ⟨job, hjob, rfl⟩ := h
    exact ⟨job, hjob, rfl⟩
  refine ⟨fun i w h => ?_, .refl _ tree, fun i w h => ?_, fun i w h _ => ?_, fun _ _ _ => rfl,
    fun _ _ => rfl, fun i => ⟨nofun, ?_⟩, nofun⟩
  · obtain ⟨job, hjob, rfl⟩ := hwriters i w h
    exact ⟨job, hjob, rfl, rfl, rfl⟩
  · obtain ⟨job, -, rfl⟩ := hwriters i w h
    exact fun hsome => absurd rfl hsome
  · obtain ⟨job, -, rfl⟩ := hwriters i w h
    exact fun _ _ => ⟨none, rfl, rfl⟩
  · rintro ⟨w, h, hplaced⟩
    obtain ⟨job, -, rfl⟩ := hwriters i w h
    cases hplaced

/-- The crew after writer `i` has moved from `w` to `w'`. -/
def moved (c : Crew) (i : Nat) (w w' : Writing) (tree' : FileTree) : Crew where
  tree := tree'
  writers := c.writers.set i w'
  placed := if w'.isPlaced && !w.isPlaced then i :: c.placed else c.placed

section Moved

variable {i : Nat} {w w' : Writing} {tree' : FileTree} {job : Job}

theorem getElem?_moved_self (hw : c.writers[i]? = some w) :
    (c.moved i w w' tree').writers[i]? = some w' :=
  List.getElem?_set_self (List.getElem?_eq_some_iff.mp hw).1

theorem getElem?_moved_of_ne {j : Nat} (hne : j ≠ i) :
    (c.moved i w w' tree').writers[j]? = c.writers[j]? :=
  List.getElem?_set_ne (Ne.symm hne)

/-- After a move each writer is the one that has moved, or as it was. -/
theorem getElem?_moved (hw : c.writers[i]? = some w) {j : Nat} {v : Writing}
    (hv : (c.moved i w w' tree').writers[j]? = some v) :
    (j = i ∧ v = w') ∨ (j ≠ i ∧ c.writers[j]? = some v) := by
  by_cases hne : j = i
  · subst hne
    rw [getElem?_moved_self hw] at hv
    exact .inl ⟨rfl, (Option.some.inj hv).symm⟩
  · rw [getElem?_moved_of_ne hne] at hv
    exact .inr ⟨hne, hv⟩

theorem placed_moved_of_places (h : Writing.Places w w') :
    (c.moved i w w' tree').placed = i :: c.placed := by
  rw [moved, h.1, h.2]
  rfl

theorem placed_moved_of_not (h : ¬ Writing.Places w w') :
    (c.moved i w w' tree').placed = c.placed := by
  refine if_neg fun hplaced => h ?_
  rw [Bool.and_eq_true, Bool.not_eq_true'] at hplaced
  exact ⟨hplaced.2, hplaced.1⟩

theorem Makes.of_moves (h : Makes tree path w job)
    (hmoves : Writing.Moves tree c.tree w w' tree') : Makes tree path w' job := by
  obtain ⟨stage, rfl⟩ := hmoves.exists_stage
  exact ⟨h.path_eq, h.temporary_eq, h.state_eq⟩

theorem Makes.not_names_path (h : Makes tree path w job) (hfit : Fit path jobs)
    (hjob : jobs[i]? = some job) {l : Location} (hl : tree.Names w.temporary l) :
    ¬ tree.Names path.toList l := by
  rw [h.temporary_eq] at hl
  exact hfit.not_names_path (List.mem_of_getElem? hjob) hl

/-- **Whatever one writer does, the places of the others stay as they are.** -/
theorem Sound.get?_of_other (h : Sound tree path jobs c) (hfit : Fit path jobs)
    (hw : c.writers[i]? = some w) (hmoves : Writing.Moves tree c.tree w w' tree') {j : Nat}
    {v : Writing} (hv : c.writers[j]? = some v) (hne : j ≠ i) {l : Location}
    (hl : tree.Names v.temporary l) : tree'.get? l = c.tree.get? l := by
  obtain ⟨a, ha, hmakes⟩ := h.makes i w hw
  obtain ⟨b, hb, hmakes'⟩ := h.makes j v hv
  refine hmoves.beside l (fun hl' => ?_) fun _ => ?_
  · rw [hmakes'.temporary_eq] at hl
    rw [hmakes.temporary_eq] at hl'
    exact hne (hfit.eq_of_names hb ha hl hl')
  · rw [hmakes.path_eq]
    exact hmakes'.not_names_path hfit hb hl

/-- **The marker's entry after a move.** -/
theorem Sound.marker_moved (h : Sound tree path jobs c) (hfit : Fit path jobs)
    (hw : c.writers[i]? = some w) (hmoves : Writing.Moves tree c.tree w w' tree') {m : Location}
    (hm : tree.Names path.toList m) :
    tree'.get? m = (((c.moved i w w' tree').latest? jobs).map entry).or (tree.get? m) := by
  obtain ⟨job, hjob, hmakes⟩ := h.makes i w hw
  by_cases hplaces : Writing.Places w w'
  · obtain ⟨m', hm', hentry⟩ := hmoves.placed hplaces
    rw [hmakes.path_eq] at hm'
    obtain rfl := hm.unique hm'
    rw [latest?, placed_moved_of_places hplaces, hentry, hmakes.state_eq]
    simp [hjob]
  · have hbeside : tree'.get? m = c.tree.get? m :=
      hmoves.beside m (fun hl => hmakes.not_names_path hfit hjob hl hm) fun h => absurd h hplaces
    rw [latest?, placed_moved_of_not hplaces, hbeside]
    exact h.marker m hm

/-- **Elsewhere all stays as it was.** -/
theorem Sound.elsewhere_moved (h : Sound tree path jobs c) (hw : c.writers[i]? = some w)
    (hmoves : Writing.Moves tree c.tree w w' tree') {l : Location}
    (hpath : ¬ tree.Names path.toList l)
    (hbeside : ∀ v ∈ (c.moved i w w' tree').writers, ¬ tree.Names v.temporary l) :
    tree'.get? l = tree.get? l := by
  obtain ⟨job, hjob, hmakes⟩ := h.makes i w hw
  have hown : ¬ tree.Names w.temporary l := by
    have hself := hbeside w' (List.mem_of_getElem? (getElem?_moved_self hw))
    rwa [(hmakes.of_moves hmoves).temporary_eq, ← hmakes.temporary_eq] at hself
  rw [hmoves.beside l hown fun _ => hmakes.path_eq ▸ hpath]
  refine h.elsewhere l hpath fun v hv => ?_
  obtain ⟨j, hj⟩ := List.mem_iff_getElem?.mp hv
  by_cases hne : j = i
  · subst hne
    obtain rfl := Option.some.inj (hw.symm.trans hj)
    exact hown
  · exact hbeside v (List.mem_of_getElem? ((getElem?_moved_of_ne hne).trans hj))

/-- **Those are noted that have renamed their files.** -/
theorem Sound.mem_placed_moved_iff (h : Sound tree path jobs c) (hw : c.writers[i]? = some w)
    (hstays : w.isPlaced = true → w'.isPlaced = true) (j : Nat) :
    j ∈ (c.moved i w w' tree').placed ↔
      ∃ v, (c.moved i w w' tree').writers[j]? = some v ∧ v.isPlaced = true := by
  have hiff := h.mem_placed_iff j
  by_cases hne : j = i
  · subst hne
    rw [getElem?_moved_self hw]
    rw [hw] at hiff
    by_cases hplaces : Writing.Places w w'
    · rw [placed_moved_of_places hplaces]
      exact iff_of_true (List.mem_cons_self ..) ⟨w', rfl, hplaces.2⟩
    · rw [placed_moved_of_not hplaces, hiff]
      refine ⟨fun ⟨v, hv, hplaced⟩ => ?_, fun ⟨v, hv, hplaced⟩ => ⟨w, rfl, ?_⟩⟩
      · obtain rfl := Option.some.inj hv
        exact ⟨w', rfl, hstays hplaced⟩
      · obtain rfl := Option.some.inj hv
        by_contra hnot
        exact hplaces ⟨Bool.eq_false_iff.mpr hnot, hplaced⟩
  · rw [getElem?_moved_of_ne hne, ← hiff]
    by_cases hplaces : Writing.Places w w'
    · rw [placed_moved_of_places hplaces, List.mem_cons, or_iff_right hne]
    · rw [placed_moved_of_not hplaces]

/-- **A move keeps a crew sound.** -/
theorem Sound.moved (h : Sound tree path jobs c) (hfit : Fit path jobs)
    (hw : c.writers[i]? = some w) (hmoves : Writing.Moves tree c.tree w w' tree')
    (hstays : w.isPlaced = true → w'.isPlaced = true) :
    Sound tree path jobs (c.moved i w w' tree') := by
  obtain ⟨job, hjob, hmakes⟩ := h.makes i w hw
  obtain ⟨stage, rfl⟩ := hmoves.exists_stage
  refine ⟨fun j v hv => ?_, hmakes.path_eq ▸ hmoves.overlays, fun j v hv => ?_,
    fun j v hv hapart l hl => ?_, fun l => h.elsewhere_moved hw hmoves,
    fun m => h.marker_moved hfit hw hmoves, h.mem_placed_moved_iff hw hstays, fun hplaced => ?_⟩
  · rcases getElem?_moved hw hv with ⟨rfl, rfl⟩ | ⟨-, hv⟩
    · exact ⟨job, hjob, hmakes.of_moves hmoves⟩
    · exact h.makes j v hv
  · rcases getElem?_moved hw hv with ⟨rfl, rfl⟩ | ⟨-, hv⟩
    · exact hmoves.sited
    · exact h.sited j v hv
  · rcases getElem?_moved hw hv with ⟨rfl, rfl⟩ | ⟨hne, hv⟩
    · exact hmoves.holds hapart l hl
    · obtain ⟨e?, hdraft, hget⟩ := h.holds j v hv hapart l hl
      exact ⟨e?, hdraft, (h.get?_of_other hfit hw hmoves hv hne hl).trans hget⟩
  · by_cases hplaces : Writing.Places w { w with stage }
    · obtain ⟨m, hm, -⟩ := hmoves.placed hplaces
      exact ⟨⟨m, hmakes.path_eq ▸ hm⟩, hmakes.path_eq ▸ hmoves.slash hplaces⟩
    · rw [placed_moved_of_not hplaces] at hplaced
      exact h.names hplaced

end Moved

/-- **Every step keeps a crew sound.** -/
theorem Sound.step (h : Sound tree path jobs c) (hfit : Fit path jobs) (i : Nat) :
    Sound tree path jobs (c.step i) := by
  rw [Crew.step]
  split
  · exact h
  · rename_i w hw
    obtain ⟨job, hjob, hmakes⟩ := h.makes i w hw
    have hslash : Path.endsInSlash w.temporary = false := by
      rw [hmakes.temporary_eq]
      exact endsInSlash_temporaryPath (hfit.isFileName job (List.mem_of_getElem? hjob)) _ _
    have hother : ∀ l, tree.Names w.temporary l → ¬ tree.Names w.path l := by
      rw [hmakes.path_eq]
      exact fun l => hmakes.not_names_path hfit hjob
    have hmoves := Writing.moves_step ⟨hmakes.path_eq ▸ h.overlays, h.sited i w hw, h.holds i w hw,
      hslash, hother⟩
    exact h.moved hfit hw hmoves fun hplaced => Writing.isPlaced_step hplaced c.tree

/-- **Every schedule keeps a crew sound.** -/
theorem Sound.run (h : Sound tree path jobs c) (hfit : Fit path jobs) (schedule : List Nat) :
    Sound tree path jobs (c.run schedule) := by
  induction schedule generalizing c with
  | nil => exact h
  | cons i schedule ih => exact ih (h.step hfit i)

end Sound

/-! ## The marker of a crew -/

section Marker

variable {tree : FileTree} {path : String} {jobs : List Job} {c : Crew}

/-- No link at the marker's place leads to a temporary file. -/
def KeepsApart (tree : FileTree) (path : String) (jobs : List Job) : Prop :=
  ∀ job ∈ jobs, ∀ followed d name,
    tree.LeadsTo (temporary tree path job.temp) followed d name →
      ∀ l ∈ followed, ¬ tree.Names path.toList l

/-- **What a crew leaves besides the marker are drafts of writers on their way.** -/
theorem Sound.get?_beside (h : Sound tree path jobs c) (hapart : KeepsApart tree path jobs)
    {l : Location} (hpath : ¬ tree.Names path.toList l)
    (hdraft : ∀ w ∈ c.writers, w.isReturned = false → ¬ tree.Names w.temporary l) :
    c.tree.get? l = tree.get? l := by
  by_cases hnone : ∀ w ∈ c.writers, ¬ tree.Names w.temporary l
  · exact h.elsewhere l hpath hnone
  · obtain ⟨w, hmem, hl⟩ : ∃ w ∈ c.writers, tree.Names w.temporary l := by simpa using hnone
    obtain ⟨i, hw⟩ := List.mem_iff_getElem?.mp hmem
    obtain ⟨job, hjob, hmakes⟩ := h.makes i w hw
    have hreturned : w.isReturned = true := by
      by_contra hnot
      exact hdraft w hmem (Bool.eq_false_iff.mpr hnot) hl
    obtain ⟨e?, hdraft, hown⟩ := h.holds i w hw (fun _ => by
      rw [Writing.IsApart, hmakes.path_eq, hmakes.temporary_eq]
      exact hapart job (List.mem_of_getElem? hjob)) l hl
    rw [hown, hdraft.eq_none hreturned, Option.none_or]

/-- **The token that was renamed last is read.** -/
theorem Sound.read (h : Sound tree path jobs c) (hapart : IsApart tree path)
    {state : DeclaredState} (hstate : c.latest? jobs = some state) :
    c.tree.read path = .ok (octets state) := by
  have hplaced : c.placed ≠ [] := by
    intro hnil
    rw [latest?, hnil] at hstate
    cases hstate
  obtain ⟨⟨m, followed, d, name, hleads, rfl⟩, hslash⟩ := h.names hplaced
  have hentry := h.marker _ hleads.names
  rw [hstate] at hentry
  refine (h.overlays.leadsTo hleads fun l hl hplace => ?_).read hslash hentry
  obtain rfl := hplace.unique hleads.names
  exact hapart _ _ _ hleads hl

/-- **Readers never see a torn marker.**  However the steps of the writers are interleaved, and
wherever any of them is abandoned, the marker's entry is the first one until a file is renamed onto
it, and the whole token of the latest such write from then on.  If no link at the marker's own place
leads to the temporary files, a writer that has returned leaves nothing behind; and if none leads to
the marker, its token is read. -/
theorem marker_whole (tree : FileTree) (path : String) {jobs : List Job} (hfit : Fit path jobs)
    (schedule : List Nat) :
    let c := (start tree path jobs).run schedule
    (∀ m, tree.Names path.toList m →
      c.tree.get? m = ((c.latest? jobs).map entry).or (tree.get? m)) ∧
    (∀ i : Nat, i ∈ c.placed ↔ ∃ job w, jobs[i]? = some job ∧ c.writers[i]? = some w ∧
      w.isPlaced = true) ∧
    (KeepsApart tree path jobs → ∀ l, ¬ tree.Names path.toList l →
      (∀ w ∈ c.writers, w.isReturned = false → ¬ tree.Names w.temporary l) →
      c.tree.get? l = tree.get? l) ∧
    (IsApart tree path → ∀ state ∈ c.latest? jobs, c.tree.read path = .ok (octets state)) := by
  intro c
  have h : Sound tree path jobs c := (sound_start tree path jobs).run hfit schedule
  refine ⟨h.marker, fun i => ?_, fun hapart l => h.get?_beside hapart,
    fun hapart state hstate => h.read hapart hstate⟩
  rw [h.mem_placed_iff i]
  constructor
  · rintro ⟨w, hw, hplaced⟩
    obtain ⟨job, hjob, -⟩ := h.makes i w hw
    exact ⟨job, w, hjob, hw, hplaced⟩
  · rintro ⟨job, w, -, hw, hplaced⟩
    exact ⟨w, hw, hplaced⟩

end Marker

/-! ## Two writers -/

section Pair

/-- Two writes, to be made side by side. -/
def pair : List Job := [⟨.needsBootstrap, ".tmpA"⟩, ⟨.clustered, ".tmpB"⟩]

/-- A working directory with nothing in it. -/
def bareTree : FileTree := ⟨[([['w']], .directory)], [['w']]⟩

/-- The writers take turns. -/
def inTurn : List Nat := [0, 1, 0, 1, 0, 1, 0, 1, 0, 1]

/-- The names of two temporary files are fit for a marker of another name. -/
theorem fit_pair {path : String}
    (hother : ∀ job ∈ pair, (Path.names path.toList).getLast? ≠ some job.temp.name.toList) :
    Fit path pair where
  isFileName := by
    rw [pair, List.forall_mem_cons, List.forall_mem_singleton]
    exact ⟨⟨by decide, by decide⟩, ⟨by decide, by decide⟩⟩
  distinct := by decide
  other := hother

theorem linkless_bareTree (l : Location) (target : List Char) :
    bareTree.get? l ≠ some (.link target) := by
  rw [FileTree.get?, bareTree]
  split
  · simp
  · rw [List.lookup_cons, List.lookup_nil]
    split <;> simp

/-- Two writers that take turns. -/
def turned : Crew := (start bareTree "state.txt" pair).run inTurn

/-- Two writers take turns: **the later rename is read**, and no temporary file stays. -/
theorem pair_in_turn :
    Fit "state.txt" pair ∧ KeepsApart bareTree "state.txt" pair ∧ IsApart bareTree "state.txt" ∧
      turned.tree.read "state.txt" = .ok (octets .clustered) ∧
      turned.tree.get? [['w'], ".tmpA".toList] = none := by
  have hfit : Fit "state.txt" pair := fit_pair (by decide)
  have hkeeps : KeepsApart bareTree "state.txt" pair := by
    intro job _ followed d name hleads l hl
    obtain ⟨target, htarget⟩ := hleads.passes.isLink hl
    exact absurd htarget (linkless_bareTree l target)
  have hapart : IsApart bareTree "state.txt" := by
    intro followed d name hleads hl
    obtain ⟨target, htarget⟩ := hleads.passes.isLink hl
    exact absurd htarget (linkless_bareTree _ target)
  have hlatest : turned.latest? pair = some .clustered := by cbv
  have hreturned : turned.writers.all (·.isReturned) = true := by cbv
  have hnone : bareTree.get? [['w'], ".tmpA".toList] = none := by cbv
  obtain ⟨-, -, hbeside, hread⟩ := marker_whole bareTree "state.txt" hfit inTurn
  have hleft := hbeside hkeeps [['w'], ".tmpA".toList]
    (fun hnames => absurd hnames.getLast? (by decide)) fun w hw hnot => by
      rw [List.all_eq_true.mp hreturned w hw] at hnot
      cases hnot
  exact ⟨hfit, hkeeps, hapart, hread hapart _ (Option.mem_def.mpr hlatest), hleft.trans hnone⟩

/-- A tree in which `a` is a link to the directory `b`, so that the marker's path `a/../a` is looked
up through the marker. -/
def crossedTree : FileTree :=
  ⟨[([['w']], .directory), ([['w'], ['b']], .directory), ([['w'], ['a']], .link ['b'])], [['w']]⟩

/-- The second writer makes its file, and then the first one overtakes it. -/
def overtaken : List Nat := [0, 1, 0, 0, 0, 0, 1, 1, 1, 1, 1]

/-- The two writers after these steps. -/
def overtakenCrew : Crew := (start crossedTree "a/../a" pair).run overtaken

/-- **Without the provisos a writer that has returned may leave its file behind**, and the marker is
not read: the rename has taken the link away through which both were found. -/
theorem crossed_pair :
    Fit "a/../a" pair ∧ overtakenCrew.writers.all (·.isReturned) = true ∧
      crossedTree.get? [['w'], ".tmpB".toList] = none ∧
      overtakenCrew.tree.get? [['w'], ".tmpB".toList] = some (entry .clustered) ∧
      overtakenCrew.tree.read "a/../a" = .error .notADirectory := by
  refine ⟨fit_pair (by decide), ?_, ?_, ?_, ?_⟩
  · cbv
  · cbv
  · cbv
  · cbv

end Pair

end Crew

end Sidecar.Marker
