import Sidecar.Lifecycle
import Sidecar.Proofs.Marker

/-!
# Proofs/Lifecycle/Operation — the calls that an operation makes, and the files it makes them over

`effect_perform` tells all that an operation can do to a scene: **one call, no call, or a written
marker, then the start call, then the calls of a wait.**
-/

namespace Sidecar

open Wait

variable {σ : Type}

/-- What can be asked of an orchestrator. -/
inductive Operation where
  | bootstrap
  | join
  | singleNode
  | stop
  | status
  | run (intent : Intent)
deriving DecidableEq, Repr

namespace Operation

/-- The intent that an operation carries out; **asking for the status is none.** -/
def intent? : Operation → Option Intent
  | bootstrap => some .bootstrap
  | join => some .join
  | singleNode => some .singleNode
  | stop => some .stop
  | status => none
  | run intent => some intent

/-- The state that an operation declares. -/
def declared? (op : Operation) : Option DeclaredState := op.intent?.bind Intent.declared

/-- **Only a bootstrap declares a bootstrap.** -/
theorem declared?_eq_needsBootstrap_iff (op : Operation) :
    op.declared? = some .needsBootstrap ↔ op.intent? = some .bootstrap := by
  rw [declared?]
  cases op.intent? with
  | none => simp
  | some intent => cases intent <;> simp [Intent.declared]

end Operation

namespace Orchestrator

/-- Carries an operation out, watched up to a horizon. -/
def perform (o : Orchestrator σ) (horizon : Nat) (temp : Marker.TempFile) (s : Scene σ) :
    Operation → Scene σ × Result
  | .bootstrap => o.bootstrap horizon temp s
  | .join => o.join horizon temp s
  | .singleNode => o.singleNode horizon temp s
  | .stop => o.stop horizon s
  | .status => o.status horizon s
  | .run intent => o.run horizon temp intent s

/-- Whether an operation is a bootstrap of an arbitrator. -/
def Refuses (o : Orchestrator σ) (op : Operation) : Prop :=
  op.intent? = some .bootstrap ∧ isArbitrator o.service

instance (o : Orchestrator σ) (op : Operation) : Decidable (o.Refuses op) :=
  inferInstanceAs (Decidable (_ ∧ _))

end Orchestrator

/-! ## One call -/

namespace Call

variable {α : Type} (c : Call α) (start horizon : Nat)

/-- What is seen, up to the horizon, of a call that begins at `start`. -/
def ending : Ending α :=
  match c.finish start with
  | some f => if f ≤ horizon then .returned c.answer else .unwatched
  | none => .unwatched

/-- How long a call that begins at `start` is watched. -/
def watchedUntil : Nat := (c.finish start).elim horizon (min · horizon)

variable {c start horizon}

/-- **A call that is seen to return does so at its own time.** -/
theorem watchedUntil_of_returned {a : α} (h : c.ending start horizon = .returned a) :
    c.finish start = some (c.watchedUntil start horizon) ∧
      c.watchedUntil start horizon ≤ horizon := by
  unfold ending at h
  split at h
  · rename_i f hf
    have hle : f ≤ horizon := by
      by_contra hlt
      simp [hlt] at h
    simp [watchedUntil, hf, hle]
  · cases h

/-- **A call needs no ticker.** -/
theorem ending_ne_noInterval : c.ending start horizon ≠ .noInterval := by
  unfold ending
  split
  · split <;> simp
  · simp

end Call

/-- The result that an operation draws from what it has awaited last. -/
def Ending.result {α ε : Type} (message : α → String) (failure : ε → OperationError) :
    Ending (Except ε α) → Orchestrator.Result
  | .returned (.ok a) => .returned (.ok (message a))
  | .returned (.error source) => .returned (.error (failure source))
  | .unwatched => .unwatched
  | .noInterval => .noInterval

/-! ## Calls -/

/-- From the first scene to the second these calls were made, **all over the same files**, which are
there at the end. -/
structure Scene.Makes (s s' : Scene σ) (files : FileTree) (kinds : List Call.Kind) : Prop where
  files_eq : s'.files = files
  exists_calls : ∃ calls : List Event, s'.events = s.events ++ calls ∧
    calls.map (·.kind) = kinds ∧ ∀ call ∈ calls, call.files = files

theorem Scene.Makes.trans {s₁ s₂ s₃ : Scene σ} {files : FileTree} {kinds kinds' : List Call.Kind}
    (h : s₁.Makes s₂ files kinds) (h' : s₂.Makes s₃ files kinds') :
    s₁.Makes s₃ files (kinds ++ kinds') := by
  obtain ⟨-, calls, hevents, hkinds, hfiles⟩ := h
  obtain ⟨heq, calls', hevents', hkinds', hfiles'⟩ := h'
  refine ⟨heq, calls ++ calls', ?_, ?_, ?_⟩
  · rw [hevents', hevents, List.append_assoc]
  · rw [List.map_append, hkinds, hkinds']
  · simpa [or_imp, forall_and] using ⟨hfiles, hfiles'⟩

namespace Orchestrator

variable (o : Orchestrator σ) (horizon : Nat) (temp : Marker.TempFile) (s : Scene σ)

/-- **What a call leaves behind, and what is seen of it.** -/
theorem call_eq {α : Type} (kind : Call.Kind) (run : σ → Call α × σ) :
    call horizon kind run s =
      ({ s with
          now := (run s.world).1.watchedUntil s.now horizon
          token := s.token.afterCall (run s.world).1
          world := (run s.world).2
          events := s.events ++ [⟨s.now, kind, s.files⟩] },
        (run s.world).1.ending s.now horizon) := by
  simp only [call, Call.ending, Call.watchedUntil]
  cases hf : (run s.world).1.finish s.now with
  | none => rfl
  | some f => by_cases hle : f ≤ horizon <;> simp [hle, Nat.le_of_not_le]

/-- **A call is one event**, whatever comes of it. -/
theorem makes_call {α : Type} (kind : Call.Kind) (run : σ → Call α × σ) :
    s.Makes (call horizon kind run s).1 s.files [kind] := by
  rw [call_eq]
  exact ⟨rfl, [⟨s.now, kind, s.files⟩], rfl, rfl, by simp⟩

/-- **A wait asks and does nothing else.** -/
theorem makes_awaitReady : s.Makes (o.awaitReady horizon s).1 s.files
    (((Wait.run o.supervisor o.probe o.service o.settings horizon s.now s.token s.world).calls.map
      Prod.snd).map Call.Kind.ofQuery) := by
  refine ⟨rfl, _, rfl, ?_, ?_⟩
  · simp [Function.comp_def]
  · intro call hcall
    obtain ⟨_, -, rfl⟩ := List.mem_map.mp hcall
    rfl

/-! ## Operations -/

/-- **`run` carries an intent out just as the operation of that name does.** -/
theorem perform_eq (op : Operation) : o.perform horizon temp s op =
    match op.intent? with
    | some intent => o.run horizon temp intent s
    | none => o.status horizon s := by
  cases op with
  | run intent => rfl
  | _ => rfl

theorem stop_eq : o.stop horizon s =
    ((call horizon .stop (o.supervisor.stop o.service) s).1,
      (call horizon .stop (o.supervisor.stop o.service) s).2.result
        (fun _ => Intent.stop.successMessage) .supervisor) := by
  unfold stop
  rcases call horizon .stop (o.supervisor.stop o.service) s with
    ⟨s', (source | ⟨⟩) | _ | _⟩ <;> rfl

theorem status_eq : o.status horizon s =
    ((call horizon .status (o.supervisor.status o.service) s).1,
      (call horizon .status (o.supervisor.status o.service) s).2.result
        ProcessState.text .supervisor) := by
  unfold status
  rcases call horizon .status (o.supervisor.status o.service) s with
    ⟨s', (source | state) | _ | _⟩ <;> rfl

/-- **A stop makes one call, and changes no file.** -/
theorem makes_stop : s.Makes (o.stop horizon s).1 s.files [.stop] := by
  rw [stop_eq]
  exact makes_call horizon s .stop _

/-- **A query of the state makes one call, and changes no file.** -/
theorem makes_status : s.Makes (o.status horizon s).1 s.files [.status] := by
  rw [status_eq]
  exact makes_call horizon s .status _

section Start

variable (intent : Intent) (state : DeclaredState)

/-- **A marker that cannot be written is all that happens.** -/
theorem startDeclared_of_error {failure : FileFailure}
    (h : (Marker.write s.files o.statePath state temp).1 = .error failure) :
    o.startDeclared horizon temp intent state s =
      ({ s with files := (Marker.write s.files o.statePath state temp).2 },
        .returned (.error (.persistence o.statePath failure))) := by
  simp [startDeclared, h]

/-- **With its marker written an operation starts the service**, and waits for it if that works. -/
theorem startDeclared_of_ok (h : (Marker.write s.files o.statePath state temp).1 = .ok ()) :
    o.startDeclared horizon temp intent state s =
      let s' := call horizon .start (o.supervisor.start o.service)
        { s with files := (Marker.write s.files o.statePath state temp).2 }
      if s'.2 = .returned (.ok ()) then
        ((o.awaitReady horizon s'.1).1,
          (o.awaitReady horizon s'.1).2.result (fun _ => intent.successMessage) .wait)
      else (s'.1, s'.2.result (fun _ => intent.successMessage) .supervisor) := by
  unfold startDeclared
  generalize Marker.write s.files o.statePath state temp = w at h ⊢
  obtain ⟨written, files⟩ := w
  obtain rfl : written = .ok () := h
  rcases hcall : call horizon .start (o.supervisor.start o.service) { s with files } with
    ⟨s', (source | ⟨⟩) | _ | _⟩ <;> simp only [hcall]
  case returned.ok => rcases o.awaitReady horizon s' with ⟨s', (source | report) | _ | _⟩ <;> rfl
  all_goals rfl

/-- **A marker that has been written is there for all the calls.** -/
theorem makes_startDeclared (h : (Marker.write s.files o.statePath state temp).1 = .ok ()) :
    ∃ queries : List Query, s.Makes (o.startDeclared horizon temp intent state s).1
      (Marker.write s.files o.statePath state temp).2
      (.start :: queries.map Call.Kind.ofQuery) := by
  rw [startDeclared_of_ok _ _ _ _ _ _ h]
  have hstart := makes_call horizon
    { s with files := (Marker.write s.files o.statePath state temp).2 } .start
    (o.supervisor.start o.service)
  dsimp only
  split
  · have hboth := hstart.trans (hstart.files_eq ▸ o.makes_awaitReady horizon _)
    exact ⟨_, hboth.files_eq, hboth.exists_calls⟩
  · exact ⟨[], hstart.files_eq, hstart.exists_calls⟩

end Start

/-- What an operation may do to a scene. -/
inductive Effect (op : Operation) : Scene σ → Prop
  /-- It asks the supervisor for something else than a start. -/
  | asked {kind : Call.Kind} {s' : Scene σ} : op.declared? = none → kind ≠ .start →
      s.Makes s' s.files [kind] → Effect op s'
  | refused : o.Refuses op → Effect op s
  /-- Its marker cannot be written. -/
  | failed {state : DeclaredState} {failure : FileFailure} : op.declared? = some state →
      ¬ o.Refuses op → (Marker.write s.files o.statePath state temp).1 = .error failure →
      Effect op { s with files := (Marker.write s.files o.statePath state temp).2 }
  /-- It writes its marker and starts the service. -/
  | started {state : DeclaredState} {queries : List Query} {s' : Scene σ} :
      op.declared? = some state → ¬ o.Refuses op →
      (Marker.write s.files o.statePath state temp).1 = .ok () →
      s.Makes s' (Marker.write s.files o.statePath state temp).2
        (.start :: queries.map Call.Kind.ofQuery) → Effect op s'

/-- **A start declares its state first**, and makes no call if it cannot. -/
theorem effect_startDeclared {op : Operation} {intent : Intent} {state : DeclaredState}
    (hop : op.declared? = some state) (hrefuses : ¬ o.Refuses op) :
    Effect o temp s op (o.startDeclared horizon temp intent state s).1 := by
  cases h : (Marker.write s.files o.statePath state temp).1 with
  | error failure =>
    rw [startDeclared_of_error _ _ _ _ _ _ h]
    exact .failed hop hrefuses h
  | ok done =>
    obtain ⟨queries, hmakes⟩ := o.makes_startDeclared horizon temp s intent state h
    exact .started hop hrefuses h hmakes

/-- **Every operation does one of these things.** -/
theorem effect_perform (op : Operation) :
    Effect o temp s op (o.perform horizon temp s op).1 := by
  rw [perform_eq]
  split
  · rename_i intent hop
    have hdeclared : op.declared? = intent.declared := by simp [Operation.declared?, hop]
    cases intent with
    | bootstrap =>
      simp only [run, bootstrap]
      split
      · exact .refused ⟨hop, ‹_›⟩
      · exact effect_startDeclared _ _ _ _ hdeclared (fun h => by simp_all [Refuses])
    | join | singleNode =>
      exact effect_startDeclared _ _ _ _ hdeclared (fun h => by simp_all [Refuses])
    | stop => exact .asked hdeclared (by simp) (o.makes_stop horizon s)
  · rename_i hop
    exact .asked (by simp [Operation.declared?, hop]) (by simp) (o.makes_status horizon s)

end Orchestrator

end Sidecar
