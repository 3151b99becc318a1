import Sidecar.CommandLine
import Sidecar.Config.File

/-!
# CommandLine/Run — carrying a command line out

Arguments that ask for help get it; those that ask for an operation get its message, or the message
of what went wrong with the chain of its causes.
-/

namespace Sidecar.CommandLine

/-- What a run of the program leaves with its caller. -/
structure Exit where
  status : Nat
  output : String
  complaint : String
deriving DecidableEq, Repr

namespace Exit

/-- **A misused program ends with status 2**, and so does one that is given nothing. -/
def ofRefusal : Refusal → Exit
  | .help topic => ⟨0, topic.text, ""⟩
  | .version => ⟨0, s!"{program} {CommandLine.version}\n", ""⟩
  | .idle => ⟨2, "", (Topic.level none).text⟩
  | .misused e => ⟨2, "", s!"error: {e.message}\n\nFor more information, try '--help'.\n"⟩

/-- A failure, told by its message and the causes behind it. -/
def ofFailure (message : String) (causes : List String) : Exit :=
  ⟨1, "", "Error: " ++ ": ".intercalate (message :: causes) ++ "\n"⟩

/-- **An operation that succeeds prints its message**, and one that fails its failure. -/
def ofResult : Except OperationError String → Exit
  | .ok message => ⟨0, message ++ "\n", ""⟩
  | .error e => ofFailure e.message e.causes

end Exit

/-- The settings of a wait; **a limit on the command line takes the configured one's place.** -/
def Invocation.settings (i : Invocation) (configured : WaitSettings) : WaitSettings :=
  match i.maxWait with
  | some d => { configured with maxWait := some d.millis }
  | none => configured

/-- Carries a command out. -/
def Command.perform {σ : Type} (c : Command) (o : Orchestrator σ) (horizon : Nat)
    (temp : Marker.TempFile) (s : Scene σ) : Scene σ × Orchestrator.Result :=
  match c with
  | .run intent => o.run horizon temp intent s
  | .status => o.status horizon s

variable [Url.Idna] [Http.Resolver]

/-- Loads the configuration and carries the command out. -/
def Invocation.perform {σ : Type} (i : Invocation) (network : Http.Network σ) (horizon : Nat)
    (temp : Marker.TempFile) (s : Scene σ) : Scene σ × Ending Exit :=
  match Config.load s.files i.file with
  | .error e => (s, .returned (.ofFailure e.message e.causes))
  | .ok config =>
    let o := Orchestrator.ofConfig network config
    let o := { o with settings := i.settings o.settings }
    match i.command.perform o horizon temp s with
    | (s, .returned result) => (s, .returned (.ofResult result))
    | (s, .unwatched) => (s, .unwatched)
    | (s, .noInterval) => (s, .noInterval)

/-- Runs the program with its arguments. -/
def run {σ : Type} (args : List String) (network : Http.Network σ) (horizon : Nat)
    (temp : Marker.TempFile) (s : Scene σ) : Scene σ × Ending Exit :=
  match read args with
  | .error refusal => (s, .returned (.ofRefusal refusal))
  | .ok invocation => invocation.perform network horizon temp s

end Sidecar.CommandLine
