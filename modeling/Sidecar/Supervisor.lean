import Sidecar.Call
import Sidecar.Http.Failure

/-!
# Supervisor — the process supervisor that the sidecar drives

A supervisor starts, stops and reports on a named service.  Whatever words it has for a service's
condition become a `ProcessState` before anything else sees them.
-/

namespace Sidecar

/-- The run state of a supervised service. -/
inductive ProcessState where
  | running
  | stopped
  | pending
  | failing
  | unknown (raw : String)
deriving DecidableEq, Repr

namespace ProcessState

/-- A process state in words; **one that is not known speaks for itself.** -/
def text : ProcessState → String
  | running => "running"
  | stopped => "stopped"
  | pending => "pending"
  | failing => "failing"
  | unknown raw => raw

/-- Reads the four known words **exactly, with no regard for case or white space.** -/
def ofText (raw : String) : ProcessState :=
  if raw = "running" then running
  else if raw = "stopped" then stopped
  else if raw = "pending" then pending
  else if raw = "failing" then failing
  else unknown raw

/-- Whether the process runs. -/
def isRunning (s : ProcessState) : Bool := s == running

end ProcessState

/-- What a supervisor is asked to do. -/
inductive Action where
  | start
  | stop
  | query
deriving DecidableEq, Repr

/-- The action in a sentence about a service. -/
def Action.verb : Action → String
  | start => "start"
  | stop => "stop"
  | query => "query status of"

/-- Why a supervisor has not done what it was asked. -/
inductive SupervisorError where
  /-- The request brought no response. -/
  | request (action : Action) (service : String) (failure : Http.Failure)
  | rejected (action : Action) (service : String) (status : Nat)
  | unknownService (service : String)
  | unavailable (reason : String)
deriving DecidableEq, Repr

namespace SupervisorError

/-- What is told of a supervisor's failure. -/
def message : SupervisorError → String
  | request action service failure =>
    s!"failed to {action.verb} service {service}: {failure.message}"
  | rejected action service status =>
    s!"supervisor rejected {action.verb} for service {service}: HTTP {status}"
  | unknownService service => s!"supervisor does not know service {service}"
  | unavailable reason => s!"supervisor unavailable: {reason}"

/-- The causes behind the message, from the nearest to the deepest. -/
def causes : SupervisorError → List String
  | request _ _ failure => failure.message :: failure.causes
  | _ => []

end SupervisorError

/-- A supervisor whose memory is a `σ`. -/
structure Supervisor (σ : Type) where
  start : String → σ → Call (Except SupervisorError Unit) × σ
  stop : String → σ → Call (Except SupervisorError Unit) × σ
  status : String → σ → Call (Except SupervisorError ProcessState) × σ

end Sidecar
