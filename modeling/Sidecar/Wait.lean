import Sidecar.Duration
import Sidecar.Readiness
import Sidecar.Supervisor
import Sidecar.Text.Quoted
import Sidecar.Wait.Guard

/-!
# Wait — waiting until the node is ready

A wait checks the node on every tick: it asks the supervisor for the service's state, and, if that
is running, the readiness probe.  It ends with the first state that is not running, the first answer
of the probe, or a cut by its guard.
-/

namespace Sidecar

/-- How often a wait checks, and how long it lasts. -/
structure WaitSettings where
  /-- Milliseconds between two checks. -/
  tick : Nat
  /-- Milliseconds that the wait may last. -/
  maxWait : Option Nat
deriving DecidableEq, Repr

/-- A check every second, for as long as it takes. -/
def WaitSettings.default : WaitSettings := ⟨1000, none⟩

/-- A wait that ended with a ready node. -/
structure WaitReport where
  ticks : Nat
  elapsed : Nat
deriving DecidableEq, Repr

/-- Why a wait ended without a ready node. -/
inductive WaitError where
  | statusQueryFailed (service : String) (source : SupervisorError)
  | processNotRunning (service : String) (state : ProcessState)
  | readinessRejected (address : String) (status : Nat) (reason : String)
  | cancelled (service : String) (ticks : Nat)
  | timeout (service : String) (waited ticks : Nat)
deriving DecidableEq, Repr

namespace WaitError

/-- What is told of a wait that fails. -/
def message : WaitError → String
  | statusQueryFailed service source =>
    s!"error fetching status for service {Text.quoted service}: {source.message}"
  | processNotRunning service state =>
    s!"job failed during startup: service {service} is {state.text}"
  | readinessRejected address _ reason => s!"unexpected response from node at {address}: {reason}"
  | cancelled service ticks => s!"wait for service {service} was cancelled after {ticks} checks"
  | timeout service waited ticks =>
    s!"service {service} was not ready within {(Duration.ofMillis waited).text} ({ticks} checks)"

/-- What lies behind the failure of a wait. -/
def causes : WaitError → List String
  | statusQueryFailed _ source => source.message :: source.causes
  | _ => []

end WaitError

/-- How something that may go on for ever has ended, as far as it has been watched. -/
inductive Ending (α : Type) where
  | returned (a : α)
  /-- It was still going on at the horizon. -/
  | unwatched
  /-- It needed a ticker with an interval of zero. -/
  | noInterval
deriving DecidableEq, Repr

namespace Wait

/-- The two calls of a check. -/
inductive Query where
  | status
  | probe
deriving DecidableEq, Repr

/-- What a wait asks, for which service, and under which guard. -/
structure Plan (σ : Type) where
  service : String
  supervisor : Supervisor σ
  probe : Probe σ
  guard : Guard
  started : Nat

/-- A wait on its way. -/
structure State (σ : Type) where
  now : Nat
  token : Token
  ticker : Ticker
  /-- How many ticks have completed. -/
  ticks : Nat
  /-- The calls that have begun, **the latest first.** -/
  calls : List (Nat × Query)
  world : σ

namespace State

variable {σ : Type}

/-- Awaits the next tick. -/
def awaitTick (s : State σ) (g : Guard) : State σ × Option Cut :=
  match g.refuse? s.token s.now with
  | some cut => (s, some cut)
  | none =>
    match g.settle s.token s.now (some (s.ticker.completion s.now)) with
    | (now, some cut) => ({ s with now }, some cut)
    | (now, none) => ({ s with now, ticker := s.ticker.advance now, ticks := s.ticks + 1 }, none)

/-- Makes a call and awaits its answer. -/
def ask {α : Type} (s : State σ) (g : Guard) (query : Query) (call : σ → Call α × σ) :
    State σ × Except Cut α :=
  match g.refuse? s.token s.now with
  | some cut => (s, .error cut)
  | none =>
    let (c, world) := call s.world
    let token := s.token.afterCall c
    let calls := (s.now, query) :: s.calls
    match g.settle token s.now (c.finish s.now) with
    | (now, some cut) => ({ s with now, token, calls, world }, .error cut)
    | (now, none) => ({ s with now, token, calls, world }, .ok c.answer)

end State

variable {σ : Type}

/-- How a wait ends that is cut. -/
def cutEnding (plan : Plan σ) (s : State σ) : Cut → Ending (Except WaitError WaitReport)
  | .cancelled => .returned (.error (.cancelled plan.service s.ticks))
  | .timedOut => .returned (.error (.timeout plan.service (s.now - plan.started) s.ticks))
  | .unwatched => .unwatched

/-- How a wait ends with the answer of the probe; **it goes on while the node is unreachable.** -/
def probeEnding? (plan : Plan σ) (s : State σ) :
    ProbeOutcome → Option (Ending (Except WaitError WaitReport))
  | .ready => some (.returned (.ok ⟨s.ticks, s.now - plan.started⟩))
  | .rejected status reason =>
    some (.returned (.error (.readinessRejected plan.probe.address status reason)))
  | .unreachable _ => none

/-- One check: the tick, the status and the probe.  The ending is `none` if the wait goes on. -/
def check (plan : Plan σ) (s : State σ) :
    State σ × Option (Ending (Except WaitError WaitReport)) :=
  match s.awaitTick plan.guard with
  | (s, some cut) => (s, some (cutEnding plan s cut))
  | (s, none) =>
    match s.ask plan.guard .status (plan.supervisor.status plan.service) with
    | (s, .error cut) => (s, some (cutEnding plan s cut))
    | (s, .ok (.error source)) =>
      (s, some (.returned (.error (.statusQueryFailed plan.service source))))
    | (s, .ok (.ok state)) =>
      if state.isRunning then
        match s.ask plan.guard .probe plan.probe.check with
        | (s, .error cut) => (s, some (cutEnding plan s cut))
        | (s, .ok outcome) => (s, probeEnding? plan s outcome)
      else (s, some (.returned (.error (.processNotRunning plan.service state))))

/-- Checks, `rounds` times at most, until the wait ends. -/
def checks (plan : Plan σ) : Nat → State σ → State σ × Ending (Except WaitError WaitReport)
  | 0, s => (s, .unwatched)
  | rounds + 1, s =>
    match check plan s with
    | (s, some ending) => (s, ending)
    | (s, none) => checks plan rounds s

/-- Where a wait has come to. -/
structure Outcome (σ : Type) where
  ending : Ending (Except WaitError WaitReport)
  now : Nat
  token : Token
  /-- The calls in the order in which they began. -/
  calls : List (Nat × Query)
  world : σ

/-- Waits for a service, watched up to `horizon`.  **Every tick is due at least a millisecond after
the one before**, so that no more rounds than milliseconds can be watched. -/
def run (supervisor : Supervisor σ) (probe : Probe σ) (service : String) (settings : WaitSettings)
    (horizon now : Nat) (token : Token) (world : σ) : Outcome σ :=
  match Ticker.start? now settings.tick with
  | none => ⟨.noInterval, now, token, [], world⟩
  | some ticker =>
    let guard : Guard := ⟨settings.maxWait.map (now + ·), horizon⟩
    let plan : Plan σ := ⟨service, supervisor, probe, guard, now⟩
    let (s, ending) := checks plan (horizon - now + 1) ⟨now, token, ticker, 0, [], world⟩
    ⟨ending, s.now, s.token, s.calls.reverse, s.world⟩

end Wait

end Sidecar
