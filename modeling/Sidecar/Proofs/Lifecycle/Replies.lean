import Sidecar.Proofs.Lifecycle.Operation
import Sidecar.Proofs.Wait.Mirror

/-!
# Proofs/Lifecycle/Replies — what operations come to, told by the replies alone

An operation tells the replies to its calls apart by their kinds.  `Replies.Dictates` reads what it
comes to off the kinds, with no supervisor and no probe, and `Follows` says that an orchestrator's
supervisor and probe give just these replies, in order.  **Any replies can be followed**
(`Replies.follows_orchestrator`).
-/

namespace Sidecar

variable {σ : Type}

/-! ## Kinds -/

/-- What an operation can see of a supervisor's error. -/
inductive SupervisorError.Kind where
  | request
  | rejected (status : Nat)
  | unknownService
  | unavailable
deriving DecidableEq

/-- The kind of a supervisor's failure, **without its words.** -/
def SupervisorError.kind : SupervisorError → Kind
  | request .. => .request
  | rejected _ _ status => .rejected status
  | unknownService _ => .unknownService
  | unavailable _ => .unavailable

/-- What a check finds, **without its words.** -/
inductive ProbeOutcome.Kind where
  | ready
  | rejected (status : Nat)
  | unreachable
deriving DecidableEq

/-- The kind of what a check finds. -/
def ProbeOutcome.kind : ProbeOutcome → Kind
  | ready => .ready
  | rejected status _ => .rejected status
  | unreachable _ => .unreachable

/-- Why a wait fails, without its words. -/
inductive WaitError.Kind where
  | statusQueryFailed (source : SupervisorError.Kind)
  | processNotRunning (state : ProcessState)
  | readinessRejected (status : Nat)
  | cancelled
  | timeout
deriving DecidableEq

/-- The kind of a wait's failure. -/
def WaitError.kind : WaitError → Kind
  | statusQueryFailed _ source => .statusQueryFailed source.kind
  | processNotRunning _ state => .processNotRunning state
  | readinessRejected _ status _ => .readinessRejected status
  | cancelled .. => .cancelled
  | timeout .. => .timeout

/-- Why an operation fails, without its words. -/
inductive OperationError.Kind where
  | invalidIntent (intent : Intent)
  | persistence (source : FileFailure)
  | supervisor (source : SupervisorError.Kind)
  | wait (source : WaitError.Kind)

/-- The kind of an operation's failure. -/
def OperationError.kind : OperationError → Kind
  | invalidIntent _ intent => .invalidIntent intent
  | persistence _ source => .persistence source
  | supervisor source => .supervisor source.kind
  | wait source => .wait source.kind

/-! ## Replies -/

/-- How many replies have been taken of each script. -/
structure Taken where
  actions : Nat
  statuses : Nat
  readies : Nat
deriving DecidableEq

namespace Taken

/-- One action more has been answered. -/
def acted (t : Taken) : Taken := { t with actions := t.actions + 1 }

/-- One question for the state more has been answered. -/
def asked (t : Taken) : Taken := { t with statuses := t.statuses + 1 }

/-- One check more has been answered. -/
def probed (t : Taken) : Taken := { t with readies := t.readies + 1 }

/-- What has been taken after `n` checks that asked for both. -/
def checked (t : Taken) (n : Nat) : Taken :=
  { t with statuses := t.statuses + n, readies := t.readies + n }

end Taken

/-- The replies to calls, in order.  **Starting and stopping take from one script.** -/
structure Replies where
  actions : Nat → Except SupervisorError.Kind Unit
  statuses : Nat → Except SupervisorError.Kind ProcessState
  readies : Nat → ProbeOutcome.Kind

/-- What has been taken of the replies, and the files that are there. -/
structure Standing where
  taken : Taken
  files : FileTree

/-- The intent of an operation that starts `service`, with the state that it declares. -/
def Operation.start? (op : Operation) (service : String) : Option (Intent × DeclaredState) :=
  match op.intent? with
  | some .bootstrap => if isArbitrator service then none else some (.bootstrap, .needsBootstrap)
  | some .join => some (.join, .clustered)
  | some .singleNode => some (.singleNode, .singleNode)
  | _ => none

namespace Replies

variable (r : Replies)

/-- The verdict of a check that finds so much taken, if the replies to it decide. -/
def verdict? (t : Taken) : Option (Except WaitError.Kind Unit) :=
  match r.statuses t.statuses with
  | .error source => some (.error (.statusQueryFailed source))
  | .ok .running =>
    match r.readies t.readies with
    | .ready => some (.ok ())
    | .rejected status => some (.error (.readinessRejected status))
    | .unreachable => none
  | .ok state => some (.error (.processNotRunning state))

/-- What has been taken after a check: **a service that is not running is not probed.** -/
def afterCheck (t : Taken) : Taken :=
  if r.statuses t.statuses = .ok .running then t.asked.probed else t.asked

/-- **What an operation comes to**: its result, as far as it can be seen, and where it leaves the
replies and the files. -/
inductive Dictates (service statePath : String) (temp : Marker.TempFile) (op : Operation)
    (st : Standing) :
    Except OperationError.Kind String → Standing → Prop
  | refused : op.intent? = some .bootstrap → isArbitrator service →
    Dictates service statePath temp op st (.error (.invalidIntent .bootstrap)) st
  | unwritten {intent : Intent} {state : DeclaredState} {failure : FileFailure} :
    op.start? service = some (intent, state) →
    (Marker.write st.files statePath state temp).1 = .error failure →
    Dictates service statePath temp op st (.error (.persistence failure))
      ⟨st.taken, (Marker.write st.files statePath state temp).2⟩
  | unstarted {intent : Intent} {state : DeclaredState} {source : SupervisorError.Kind} :
    op.start? service = some (intent, state) →
    (Marker.write st.files statePath state temp).1 = .ok () →
    r.actions st.taken.actions = .error source →
    Dictates service statePath temp op st (.error (.supervisor source))
      ⟨st.taken.acted, (Marker.write st.files statePath state temp).2⟩
  /-- Check `k` is the first that decides. -/
  | waited {intent : Intent} {state : DeclaredState} {k : Nat}
      {verdict : Except WaitError.Kind Unit} :
    op.start? service = some (intent, state) →
    (Marker.write st.files statePath state temp).1 = .ok () →
    r.actions st.taken.actions = .ok () →
    (∀ i < k, r.verdict? (st.taken.acted.checked i) = none) →
    r.verdict? (st.taken.acted.checked k) = some verdict →
    Dictates service statePath temp op st
      ((verdict.mapError .wait).map fun _ => intent.successMessage)
      ⟨r.afterCheck (st.taken.acted.checked k), (Marker.write st.files statePath state temp).2⟩
  | stopped : op.intent? = some .stop →
    Dictates service statePath temp op st
      (((r.actions st.taken.actions).mapError .supervisor).map fun _ => Intent.stop.successMessage)
      ⟨st.taken.acted, st.files⟩
  | queried : op.intent? = none →
    Dictates service statePath temp op st
      (((r.statuses st.taken.statuses).mapError .supervisor).map ProcessState.text)
      ⟨st.taken.asked, st.files⟩

end Replies

/-! ## Orchestrators that follow replies -/

/-- A call that is answered, with a reply of a kind, and leaves such a world. -/
structure Gives {α κ : Type} (kind : α → κ) (reply : κ) (After : σ → Prop) (c : Call α × σ) :
    Prop where
  isPlain : c.1.IsPlain
  kind_eq : kind c.1.answer = reply
  after : After c.2

namespace Orchestrator

/-- **The orchestrator's supervisor and probe give the replies in order**, and nothing but their
answers ends a wait.  `At` tells what has been taken in a world. -/
structure Follows (o : Orchestrator σ) (r : Replies) (At : Taken → σ → Prop) : Prop where
  tick_pos : 0 < o.settings.tick
  maxWait : o.settings.maxWait = none
  start : ∀ {t world}, At t world → Gives (·.mapError SupervisorError.kind)
    (r.actions t.actions) (At t.acted) (o.supervisor.start o.service world)
  stop : ∀ {t world}, At t world → Gives (·.mapError SupervisorError.kind)
    (r.actions t.actions) (At t.acted) (o.supervisor.stop o.service world)
  status : ∀ {t world}, At t world → Gives (·.mapError SupervisorError.kind)
    (r.statuses t.statuses) (At t.asked) (o.supervisor.status o.service world)
  probe : ∀ {t world}, At t world → Gives ProbeOutcome.kind
    (r.readies t.readies) (At t.probed) (o.probe.check world)

end Orchestrator

/-! ## An orchestrator for any replies -/

/-- An error of a kind. -/
def SupervisorError.Kind.error (action : Action) (service : String) : Kind → SupervisorError
  | request => .request action service (.notBuilt .emptyHost)
  | rejected status => .rejected action service status
  | unknownService => .unknownService service
  | unavailable => .unavailable "no supervisor"

theorem SupervisorError.Kind.kind_error (action : Action) (service : String) (k : Kind) :
    (k.error action service).kind = k := by
  cases k <;> rfl

/-- An outcome of a kind. -/
def ProbeOutcome.Kind.outcome : Kind → ProbeOutcome
  | ready => .ready
  | rejected status => .rejected status (Http.statusText status)
  | unreachable => .unreachable "no node"

theorem ProbeOutcome.Kind.kind_outcome (k : Kind) : k.outcome.kind = k := by
  cases k <;> rfl

namespace Replies

/-- An orchestrator whose supervisor and probe give the replies at once. -/
def orchestrator (r : Replies) (service statePath address : String) (tick : Nat) :
    Orchestrator Taken where
  service
  statePath
  settings := ⟨tick, none⟩
  supervisor :=
    { start := fun service t =>
        (.now ((r.actions t.actions).mapError (·.error .start service)), t.acted)
      stop := fun service t =>
        (.now ((r.actions t.actions).mapError (·.error .stop service)), t.acted)
      status := fun service t =>
        (.now ((r.statuses t.statuses).mapError (·.error .query service)), t.asked) }
  probe := ⟨address, fun t => (.now (r.readies t.readies).outcome, t.probed)⟩

theorem mapError_kind_error {α : Type} (action : Action) (service : String)
    (reply : Except SupervisorError.Kind α) :
    (reply.mapError (·.error action service)).mapError SupervisorError.kind = reply := by
  cases reply with
  | error k => exact congrArg Except.error (k.kind_error action service)
  | ok a => rfl

/-- **Any replies can be followed.** -/
theorem follows_orchestrator (r : Replies) (service statePath address : String) {tick : Nat}
    (htick : 0 < tick) : (r.orchestrator service statePath address tick).Follows r Eq where
  tick_pos := htick
  maxWait := rfl
  start := by
    rintro t _ rfl
    exact ⟨⟨0, rfl⟩, mapError_kind_error .start service _, rfl⟩
  stop := by
    rintro t _ rfl
    exact ⟨⟨0, rfl⟩, mapError_kind_error .stop service _, rfl⟩
  status := by
    rintro t _ rfl
    exact ⟨⟨0, rfl⟩, mapError_kind_error .query service _, rfl⟩
  probe := by
    rintro t _ rfl
    exact ⟨⟨0, rfl⟩, (r.readies t.readies).kind_outcome, rfl⟩

end Replies

end Sidecar
