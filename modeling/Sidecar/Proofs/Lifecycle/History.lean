import Mathlib
import Sidecar.Proofs.Lifecycle.Operation
import Sidecar.Script

/-!
# Proofs/Lifecycle/History — the marker over whole runs of operations

A `Turn` is an operation, new settings, or something that happens outside.  Whatever turns a
deployment takes, **the marker is in place at every start call and stays until the next one is
written** (`marker_over_history`).
-/

namespace Sidecar

variable {σ : Type}

/-- A temporary file, **with a name that one may get.** -/
abbrev NamedFile := { temp : Marker.TempFile // Marker.IsFileName temp.name }

/-- An operation that is carried out, with all that it depends on. -/
structure Performed (σ : Type) where
  orchestrator : Orchestrator σ
  operation : Operation
  horizon : Nat
  temp : NamedFile
  before : Scene σ

namespace Performed

/-- What the operation leaves. -/
def after (t : Performed σ) : Scene σ :=
  (t.orchestrator.perform t.horizon t.temp t.before t.operation).1

/-- The calls that the operation has made. -/
def calls (t : Performed σ) : List Event := t.after.events.drop t.before.events.length

/-- The writing of a marker as the operation would do it. -/
def write (t : Performed σ) (state : DeclaredState) : Except FileFailure Unit × FileTree :=
  Marker.write t.before.files t.orchestrator.statePath state t.temp

/-- Whether the operation gets no further than its marker. -/
def Refused (t : Performed σ) : Prop :=
  t.orchestrator.Refuses t.operation ∨
    ∃ state, t.operation.declared? = some state ∧ (t.write state).1 ≠ .ok ()

/-- The state whose marker the operation has written. -/
def written? (t : Performed σ) : Option DeclaredState :=
  if t.orchestrator.Refuses t.operation then none
  else t.operation.declared?.filter fun state => (t.write state).1.isOk

/-! ## One operation -/

section Cases

variable (t : Performed σ)

/-- The operation has one of its effects. -/
theorem effect : t.orchestrator.Effect t.temp t.before t.operation t.after :=
  Orchestrator.effect_perform _ _ _ _ _

variable {t}

theorem calls_of_makes {files : FileTree} {kinds : List Call.Kind}
    (h : t.before.Makes t.after files kinds) :
    t.calls.map (·.kind) = kinds ∧ ∀ call ∈ t.calls, call.files = files := by
  obtain ⟨-, calls, hevents, hkinds, hfiles⟩ := h
  rw [Performed.calls, hevents, List.drop_left]
  exact ⟨hkinds, hfiles⟩

variable (t)

/-- **An operation starts the service over a marker that it has written**, or it starts nothing and
changes nothing. -/
theorem written_cases :
    (t.written? = none ∧ t.after.files = t.before.files ∧
      ∀ call ∈ t.calls, call.kind ≠ .start ∧ call.files = t.before.files) ∨
    ∃ state, t.written? = some state ∧ t.operation.declared? = some state ∧
      (t.write state).1 = .ok () ∧ t.after.files = (t.write state).2 ∧
      ∀ call ∈ t.calls, call.files = (t.write state).2 := by
  have h := t.effect
  generalize hafter : t.after = s' at h
  cases h with
  | asked hdeclared hkind hmakes =>
    refine .inl ⟨by simp [written?, hdeclared], hmakes.files_eq, fun call hcall => ?_⟩
    obtain ⟨hkinds, hfiles⟩ := calls_of_makes (hafter ▸ hmakes)
    have hmem := List.mem_map_of_mem hcall (f := Event.kind)
    rw [hkinds, List.mem_singleton] at hmem
    exact ⟨hmem ▸ hkind, hfiles call hcall⟩
  | refused hrefuses => exact .inl ⟨if_pos hrefuses, rfl, by simp [calls, hafter]⟩
  | @failed state failure hdeclared hrefuses hfailed =>
    refine .inl ⟨?_, Marker.write_error t.temp.2 hfailed, by simp [calls, hafter]⟩
    simp [written?, hrefuses, hdeclared, write, hfailed, Except.isOk, Except.toBool]
  | @started state queries s' hdeclared hrefuses hwritten hmakes =>
    refine .inr ⟨state, ?_, hdeclared, hwritten, hmakes.files_eq,
      (calls_of_makes (hafter ▸ hmakes)).2⟩
    simp [written?, hrefuses, hdeclared, write, hwritten, Except.isOk, Except.toBool]

/-- **Nothing follows a marker that is not written.** -/
theorem after_of_refused (h : t.Refused) : t.calls = [] ∧ t.after.files = t.before.files := by
  have heffect := t.effect
  generalize hafter : t.after = s' at heffect
  cases heffect with
  | asked hdeclared =>
    rcases h with h | ⟨state, h, -⟩
    · simp [(Operation.declared?_eq_needsBootstrap_iff _).mpr h.1] at hdeclared
    · simp [h] at hdeclared
  | refused => exact ⟨by simp [calls, hafter], rfl⟩
  | failed _ _ hfailed =>
    exact ⟨by simp [calls, hafter], Marker.write_error t.temp.2 hfailed⟩
  | started hdeclared hrefuses hwritten =>
    rcases h with h | ⟨state, h, hne⟩
    · exact absurd h hrefuses
    · obtain rfl := Option.some.inj (hdeclared.symm.trans h)
      exact absurd hwritten hne

/-- **No arbitrator is told to bootstrap.** -/
theorem written?_ne_needsBootstrap (h : isArbitrator t.orchestrator.service) :
    t.written? ≠ some .needsBootstrap := by
  unfold written?
  split
  · simp
  · rename_i hrefuses
    intro hwritten
    have hdeclared := (Option.filter_eq_some_iff.mp hwritten).1
    exact hrefuses ⟨(Operation.declared?_eq_needsBootstrap_iff _).mp hdeclared, h⟩

/-- The file trees that the calls of the operation find, and the one that it leaves. -/
def trees : List FileTree := t.calls.map (·.files) ++ [t.after.files]

/-- **No operation brings a token into the tree that it has not written.** -/
theorem get?_trees {state : DeclaredState} (h : t.written? ≠ some state) {files : FileTree}
    (hfiles : files ∈ t.trees) {l : Location} {mode : Nat}
    (hget : files.get? l = some (.file mode (Marker.octets state))) :
    t.before.files.get? l = some (.file mode (Marker.octets state)) := by
  rw [trees, List.mem_append, List.mem_map, List.mem_singleton] at hfiles
  rcases t.written_cases with ⟨-, hafter, hcalls⟩ | ⟨other, hother, -, -, hafter, hcalls⟩
  · have heq : files = t.before.files := by
      rcases hfiles with ⟨call, hcall, rfl⟩ | rfl
      · exact (hcalls call hcall).2
      · exact hafter
    rwa [← heq]
  · have heq : files = (t.write other).2 := by
      rcases hfiles with ⟨call, hcall, rfl⟩ | rfl
      · exact hcalls call hcall
      · exact hafter
    rw [heq] at hget
    rcases Marker.get?_write t.temp.2 l with hnew | hold
    · have hsame := Option.some.inj (hnew.symm.trans hget)
      obtain rfl := Marker.octets_injective (Entry.file.inj hsame).2
      exact absurd hother h
    · exact hold.symm.trans hget

end Cases

end Performed

/-- What may happen to a deployment next. -/
inductive Turn (σ : Type) where
  | perform (operation : Operation) (horizon : Nat) (temp : NamedFile)
  | configure (settings : WaitSettings)
  /-- Time passes, the caller signals the token or takes another, and the world goes on. -/
  | elsewhere (now : Nat) (token : Token) (world : σ)

/-- An orchestrator and what it finds. -/
structure Deployment (σ : Type) where
  orchestrator : Orchestrator σ
  scene : Scene σ

namespace Deployment

/-- The operation that a turn carries out. -/
def performed? (n : Deployment σ) : Turn σ → Option (Performed σ)
  | .perform operation horizon temp => some ⟨n.orchestrator, operation, horizon, temp, n.scene⟩
  | _ => none

/-- The deployment after a turn. -/
def step (n : Deployment σ) : Turn σ → Deployment σ
  | .perform operation horizon temp =>
    { n with scene := (n.orchestrator.perform horizon temp n.scene operation).1 }
  | .configure settings => { n with orchestrator := { n.orchestrator with settings } }
  | .elsewhere now token world => { n with scene := { n.scene with now, token, world } }

/-- The deployment after all the turns. -/
def run (n : Deployment σ) : List (Turn σ) → Deployment σ
  | [] => n
  | turn :: rest => (n.step turn).run rest

/-- The operations that the turns carry out, in order. -/
def history (n : Deployment σ) : List (Turn σ) → List (Performed σ)
  | [] => []
  | turn :: rest => (n.performed? turn).toList ++ (n.step turn).history rest

/-! ## All the operations of a run -/

/-- **What every turn keeps holds before every operation**, and at the end. -/
theorem keeps_of_step {I : Deployment σ → Prop} (hstep : ∀ n turn, I n → I (n.step turn))
    {n : Deployment σ} (h : I n) (turns : List (Turn σ)) :
    (∀ t ∈ n.history turns, I ⟨t.orchestrator, t.before⟩) ∧ I (n.run turns) := by
  induction turns generalizing n with
  | nil => exact ⟨by simp [history], h⟩
  | cons turn rest ih =>
    obtain ⟨hhistory, hrun⟩ := ih (hstep n turn h)
    refine ⟨fun t ht => ?_, hrun⟩
    rcases List.mem_append.mp ht with ht | ht
    · cases turn with
      | perform operation horizon temp =>
        obtain rfl := List.mem_singleton.mp ht
        exact h
      | _ => cases ht
    · exact hhistory t ht

/-- The service and the marker's path are for good. -/
def SameSite (n m : Deployment σ) : Prop :=
  m.orchestrator.service = n.orchestrator.service ∧
    m.orchestrator.statePath = n.orchestrator.statePath

theorem sameSite_step (n m : Deployment σ) (turn : Turn σ) (h : n.SameSite m) :
    n.SameSite (m.step turn) := by
  cases turn <;> exact h

/-- The marker's path leads through no link at its own place. -/
def IsApart (n : Deployment σ) : Prop := Marker.IsApart n.scene.files n.orchestrator.statePath

/-- **A marker that is apart stays apart.** -/
theorem isApart_step (n : Deployment σ) (turn : Turn σ) (h : n.IsApart) :
    (n.step turn).IsApart := by
  cases turn with
  | perform operation horizon temp =>
    let t : Performed σ := ⟨n.orchestrator, operation, horizon, temp, n.scene⟩
    change Marker.IsApart t.after.files n.orchestrator.statePath
    rcases t.written_cases with ⟨-, hafter, -⟩ | ⟨_, -, -, -, hafter, -⟩ <;> rw [hafter]
    · exact h
    · exact Marker.isApart_write temp.2 h
  | configure settings => exact h
  | elsewhere now token world => exact h

/-! ## The marker -/

/-- The last state whose marker was written. -/
def latest? (ts : List (Performed σ)) : Option DeclaredState :=
  (ts.filterMap Performed.written?).getLast?

theorem latest?_append (ts ts' : List (Performed σ)) :
    latest? (ts ++ ts') = (latest? ts').or (latest? ts) := by
  rw [latest?, List.filterMap_append, List.getLast?_append]
  rfl

theorem latest?_singleton (t : Performed σ) : latest? [t] = t.written? := by
  rw [latest?, List.filterMap_cons, List.filterMap_nil]
  cases t.written? <;> rfl

/-- **After an operation the marker is what it has written**, or what it was before. -/
theorem read_after (t : Performed σ)
    (h : Marker.IsApart t.before.files t.orchestrator.statePath) :
    t.after.files.read t.orchestrator.statePath =
      match t.written? with
      | some state => .ok (Marker.octets state)
      | none => t.before.files.read t.orchestrator.statePath := by
  rcases t.written_cases with ⟨hnone, hafter, -⟩ | ⟨state, hsome, -, hwritten, hafter, -⟩
  · rw [hnone, hafter]
  · rw [hsome, hafter]
    exact Marker.read_write t.temp.2 h hwritten

/-- **The marker is the one that was written last**, or what it was at first. -/
theorem read_run (n : Deployment σ) (h : n.IsApart) (turns : List (Turn σ)) :
    (n.run turns).scene.files.read n.orchestrator.statePath =
      match latest? (n.history turns) with
      | some state => .ok (Marker.octets state)
      | none => n.scene.files.read n.orchestrator.statePath := by
  induction turns generalizing n with
  | nil => rfl
  | cons turn rest ih =>
    have hpath : (n.step turn).orchestrator.statePath = n.orchestrator.statePath := by
      cases turn <;> rfl
    have hrest := ih (n.step turn) (n.isApart_step turn h)
    rw [hpath] at hrest
    rw [history, run, latest?_append, hrest]
    cases latest? ((n.step turn).history rest) with
    | some state => rfl
    | none =>
      cases turn with
      | perform operation horizon temp =>
        rw [Option.none_or, performed?, Option.toList_some, latest?_singleton]
        exact read_after ⟨n.orchestrator, operation, horizon, temp, n.scene⟩ h
      | configure settings => rfl
      | elsewhere now token world => rfl

/-- **A start call finds the marker that its own operation has written.** -/
theorem entry_at_start (t : Performed σ) {call : Event} (hcall : call ∈ t.calls)
    (hkind : call.kind = .start) : ∃ state, t.operation.declared? = some state ∧
      (∃ followed d last,
        t.before.files.LeadsTo t.orchestrator.statePath.toList followed d last ∧
          call.files.get? (d ++ [last]) = some (Marker.entry state)) ∧
      (Marker.IsApart t.before.files t.orchestrator.statePath →
        call.files.read t.orchestrator.statePath = .ok (Marker.octets state)) := by
  rcases t.written_cases with ⟨-, -, hcalls⟩ | ⟨state, -, hdeclared, hwritten, -, hcalls⟩
  · exact absurd hkind (hcalls call hcall).1
  · refine ⟨state, hdeclared, ?_, fun hapart => ?_⟩ <;> rw [hcalls call hcall]
    · obtain ⟨followed, d, last, hleads, -, -, -, hw⟩ := Marker.write_ok t.temp.2 hwritten
      refine ⟨followed, d, last, hleads, ?_⟩
      rw [Performed.write, hw]
      exact FileTree.get?_put_self _ (by simp) _
    · exact Marker.read_write t.temp.2 hapart hwritten

/-- **A marker is written before its start call, and stays until the next one is.**  Whatever turns
a deployment takes, every start call finds the token that its own operation declares; an operation
that is refused makes no call and changes no file; the marker that is left is the last that was
written; and an arbitrator is never told to bootstrap. -/
theorem marker_over_history (n : Deployment σ) (turns : List (Turn σ)) :
    (∀ t ∈ n.history turns, ∀ call ∈ t.calls, call.kind = .start →
      ∃ state, t.operation.declared? = some state ∧
        (∃ followed d last,
          t.before.files.LeadsTo n.orchestrator.statePath.toList followed d last ∧
            call.files.get? (d ++ [last]) = some (Marker.entry state)) ∧
        (n.IsApart → call.files.read n.orchestrator.statePath = .ok (Marker.octets state))) ∧
    (∀ t ∈ n.history turns, t.Refused → t.calls = [] ∧ t.after.files = t.before.files) ∧
    (n.IsApart → (n.run turns).scene.files.read n.orchestrator.statePath =
      match latest? (n.history turns) with
      | some state => .ok (Marker.octets state)
      | none => n.scene.files.read n.orchestrator.statePath) ∧
    (isArbitrator n.orchestrator.service → ∀ t ∈ n.history turns,
      t.written? ≠ some .needsBootstrap ∧ ∀ files ∈ t.trees, ∀ l mode,
        files.get? l = some (.file mode (Marker.octets .needsBootstrap)) →
        t.before.files.get? l = some (.file mode (Marker.octets .needsBootstrap))) := by
  have hsite := (keeps_of_step (n.sameSite_step) (⟨rfl, rfl⟩ : n.SameSite n) turns).1
  refine ⟨fun t ht call hcall hkind => ?_, fun t _ h => t.after_of_refused h, fun h =>
    n.read_run h turns, fun harbitrator t ht => ?_⟩
  · obtain ⟨state, hdeclared, hentry, hread⟩ := entry_at_start t hcall hkind
    have hpath : t.orchestrator.statePath = n.orchestrator.statePath := (hsite t ht).2
    rw [hpath] at hentry hread
    refine ⟨state, hdeclared, hentry, fun hapart => hread ?_⟩
    have := (keeps_of_step isApart_step hapart turns).1 t ht
    rwa [IsApart, hpath] at this
  · have hservice : t.orchestrator.service = n.orchestrator.service := (hsite t ht).1
    have hne := t.written?_ne_needsBootstrap (hservice ▸ harbitrator)
    exact ⟨hne, fun files hfiles l mode hget => t.get?_trees hne hfiles hget⟩

/-- A deployment whose node is ready at once, over the given files. -/
def readyDeployment (statePath : String) (files : FileTree) : Deployment Script where
  orchestrator := ⟨"mysql", statePath, .default, Script.supervisor, Script.probe "127.0.0.1:8114"⟩
  scene := ⟨0, .fresh, files, { Script.default with probes := ⟨[], .now .ready⟩ }, []⟩

/-- A bootstrap that is watched for two hours. -/
def bootstrapOnce : Turn Script := .perform .bootstrap 7200000 ⟨".tmpAbC123", by decide, by decide⟩

/-- A marker with a bare name is apart: **no directory is looked up for it.** -/
theorem isApart_of_bare {path : String} (h : (Path.names path.toList).dropLast = [])
    (files : FileTree) : Marker.IsApart files path := by
  intro followed d last hleads
  have hpasses := hleads.passes
  rw [h] at hpasses
  cases hpasses
  simp

/-- A marker with a bare name is read after a bootstrap. -/
theorem bare_marker_written :
    (readyDeployment "state.txt" (.empty [])).IsApart ∧
      ((readyDeployment "state.txt" (.empty [])).run [bootstrapOnce]).scene.files.read "state.txt" =
        .ok (Marker.octets .needsBootstrap) := by
  have hapart : (readyDeployment "state.txt" (.empty [])).IsApart := isApart_of_bare (by decide) _
  have hlatest : latest? ((readyDeployment "state.txt" (.empty [])).history [bootstrapOnce])
      = some .needsBootstrap := by cbv
  have hread :=
    (marker_over_history (readyDeployment "state.txt" (.empty [])) [bootstrapOnce]).2.2.1 hapart
  rw [hlatest] at hread
  exact ⟨hapart, hread⟩

/-! ## A marker's path through the marker

The directory of `a/../a` is looked up through `a`.  Where `a` is a link, the write replaces it by a
file, which no look-up passes: the marker is in place, but its path leads nowhere. -/

/-- A deployment whose marker's path leads through a link at the marker's own place. -/
def crossedDeployment : Deployment Script := readyDeployment "a/../a"
  ⟨[([['w']], .directory), ([['w'], ['b']], .directory), ([['w'], ['a']], .link ['b'])], [['w']]⟩

/-- What the calls find where a marker's path leads through the marker. -/
theorem crossedDeployment_calls : ((crossedDeployment.history [bootstrapOnce]).flatMap fun t =>
    t.calls.map fun call => (call.kind, call.files.read "a/../a")) =
      [(.start, .error .notADirectory), (.status, .error .notADirectory),
        (.probe, .error .notADirectory)] := by
  cbv

/-- **Without the proviso the marker is not always read.** -/
theorem not_read_at_every_start : ¬ ∀ (n : Deployment Script) (turns : List (Turn Script)),
    ∀ t ∈ n.history turns, ∀ call ∈ t.calls, call.kind = .start →
      ∃ state, t.operation.declared? = some state ∧
        call.files.read n.orchestrator.statePath = .ok (Marker.octets state) := by
  intro h
  have hmem : (Call.Kind.start, (.error .notADirectory : Except FileFault (List UInt8))) ∈
      (crossedDeployment.history [bootstrapOnce]).flatMap fun t =>
        t.calls.map fun call => (call.kind, call.files.read "a/../a") := by
    rw [crossedDeployment_calls]
    simp
  obtain ⟨t, ht, hmem⟩ := List.mem_flatMap.mp hmem
  obtain ⟨call, hcall, heq⟩ := List.mem_map.mp hmem
  obtain ⟨hkind, hread⟩ := Prod.mk.inj heq
  obtain ⟨state, -, hstate⟩ := h crossedDeployment [bootstrapOnce] t ht call hcall hkind
  exact absurd (hread.symm.trans hstate) (by simp)

end Deployment

end Sidecar
