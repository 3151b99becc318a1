import Sidecar.Marker
import Sidecar.Wait

/-!
# Lifecycle — the operations on the node

An operation that starts the node declares the state it is to boot into, tells the supervisor to
start the service, and waits until the node is ready.  **The marker is in place before the start
command goes out.**  Stopping and asking for the status are one call each.
-/

namespace Sidecar

/-- Why an operation failed. -/
inductive OperationError where
  | invalidIntent (service : String) (intent : Intent)
  | persistence (path : String) (source : FileFailure)
  | supervisor (source : SupervisorError)
  | wait (source : WaitError)
deriving DecidableEq, Repr

namespace OperationError

/-- What is told of an operation that fails. -/
def message : OperationError → String
  | invalidIntent service intent =>
    s!"{intent.name} is not allowed for service {service}: bootstrapping arbitrator not allowed"
  | persistence path source => s!"failed to initialize state file {path}: {source.message}"
  | supervisor source => source.message
  | wait source => source.message

/-- The causes behind the message, from the nearest to the deepest. -/
def causes : OperationError → List String
  | invalidIntent _ _ => []
  | persistence _ source => [source.message]
  | supervisor source => source.causes
  | wait source => source.causes

end OperationError

/-- A call to the supervisor or the probe. -/
inductive Call.Kind where
  | start
  | stop
  | status
  | probe
deriving DecidableEq, Repr

/-- A query of a wait, as a call. -/
def Call.Kind.ofQuery : Wait.Query → Call.Kind
  | .status => .status
  | .probe => .probe

/-- A call that an operation has made: when, which, and with what file tree in place. -/
structure Event where
  time : Nat
  kind : Call.Kind
  files : FileTree

/-- What an operation finds and what it leaves behind. -/
structure Scene (σ : Type) where
  now : Nat
  token : Token
  files : FileTree
  world : σ
  /-- The calls made so far, in order. -/
  events : List Event

/-- The node's service, and what drives it. -/
structure Orchestrator (σ : Type) where
  service : String
  statePath : String
  settings : WaitSettings
  supervisor : Supervisor σ
  probe : Probe σ

namespace Orchestrator

variable {σ : Type}

/-- How an operation ends: with a message, or with an error. -/
abbrev Result := Ending (Except OperationError String)

/-- Makes a call that nothing cuts short but the horizon. -/
def call {α : Type} (horizon : Nat) (kind : Call.Kind) (run : σ → Call α × σ) (s : Scene σ) :
    Scene σ × Ending α :=
  let (c, world) := run s.world
  let event : Event := ⟨s.now, kind, s.files⟩
  let s := { s with world, token := s.token.afterCall c, events := s.events ++ [event] }
  match c.finish s.now with
  | some now =>
    if now ≤ horizon then ({ s with now }, .returned c.answer)
    else ({ s with now := horizon }, .unwatched)
  | none => ({ s with now := horizon }, .unwatched)

/-- Waits until the service is ready. -/
def awaitReady (o : Orchestrator σ) (horizon : Nat) (s : Scene σ) :
    Scene σ × Ending (Except WaitError WaitReport) :=
  let w := Wait.run o.supervisor o.probe o.service o.settings horizon s.now s.token s.world
  let events := w.calls.map fun (time, query) => Event.mk time (Call.Kind.ofQuery query) s.files
  ({ s with now := w.now, token := w.token, world := w.world, events := s.events ++ events },
    w.ending)

/-- Declares a state, starts the service and waits for it. -/
def startDeclared (o : Orchestrator σ) (horizon : Nat) (temp : Marker.TempFile) (intent : Intent)
    (state : DeclaredState) (s : Scene σ) : Scene σ × Result :=
  let (written, files) := Marker.write s.files o.statePath state temp
  let s := { s with files }
  match written with
  | .error source => (s, .returned (.error (.persistence o.statePath source)))
  | .ok () =>
    match call horizon .start (o.supervisor.start o.service) s with
    | (s, .returned (.ok ())) =>
      match o.awaitReady horizon s with
      | (s, .returned (.ok _)) => (s, .returned (.ok intent.successMessage))
      | (s, .returned (.error source)) => (s, .returned (.error (.wait source)))
      | (s, .unwatched) => (s, .unwatched)
      | (s, .noInterval) => (s, .noInterval)
    | (s, .returned (.error source)) => (s, .returned (.error (.supervisor source)))
    | (s, .unwatched) => (s, .unwatched)
    | (s, .noInterval) => (s, .noInterval)

/-- Seeds a new cluster from this node.  **An arbitrator is refused before anything happens.** -/
def bootstrap (o : Orchestrator σ) (horizon : Nat) (temp : Marker.TempFile) (s : Scene σ) :
    Scene σ × Result :=
  if isArbitrator o.service then
    (s, .returned (.error (.invalidIntent o.service .bootstrap)))
  else o.startDeclared horizon temp .bootstrap .needsBootstrap s

/-- Starts the node as a member of the cluster. -/
def join (o : Orchestrator σ) (horizon : Nat) (temp : Marker.TempFile) (s : Scene σ) :
    Scene σ × Result :=
  o.startDeclared horizon temp .join .clustered s

/-- Starts the node on its own. -/
def singleNode (o : Orchestrator σ) (horizon : Nat) (temp : Marker.TempFile) (s : Scene σ) :
    Scene σ × Result :=
  o.startDeclared horizon temp .singleNode .singleNode s

/-- Stops the service, **and declares nothing.** -/
def stop (o : Orchestrator σ) (horizon : Nat) (s : Scene σ) : Scene σ × Result :=
  match call horizon .stop (o.supervisor.stop o.service) s with
  | (s, .returned (.ok ())) => (s, .returned (.ok Intent.stop.successMessage))
  | (s, .returned (.error source)) => (s, .returned (.error (.supervisor source)))
  | (s, .unwatched) => (s, .unwatched)
  | (s, .noInterval) => (s, .noInterval)

/-- Tells the service's state in the supervisor's words. -/
def status (o : Orchestrator σ) (horizon : Nat) (s : Scene σ) : Scene σ × Result :=
  match call horizon .status (o.supervisor.status o.service) s with
  | (s, .returned (.ok state)) => (s, .returned (.ok state.text))
  | (s, .returned (.error source)) => (s, .returned (.error (.supervisor source)))
  | (s, .unwatched) => (s, .unwatched)
  | (s, .noInterval) => (s, .noInterval)

/-- Carries an intent out, watched up to `horizon`. -/
def run (o : Orchestrator σ) (horizon : Nat) (temp : Marker.TempFile) (intent : Intent)
    (s : Scene σ) : Scene σ × Result :=
  match intent with
  | .bootstrap => o.bootstrap horizon temp s
  | .join => o.join horizon temp s
  | .singleNode => o.singleNode horizon temp s
  | .stop => o.stop horizon s

end Orchestrator

end Sidecar
