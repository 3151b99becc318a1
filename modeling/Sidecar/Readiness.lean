import Sidecar.Http.Client

/-!
# Readiness — asking the node whether it is ready

The node answers readiness checks over HTTP.  **Only status 200 means ready**; any other status is a
definitive no, and no response at all means that the node is not there yet.
-/

namespace Sidecar

/-- What a check finds of a node. -/
inductive ProbeOutcome where
  | ready
  | rejected (status : Nat) (reason : String)
  | unreachable (reason : String)
deriving DecidableEq, Repr

/-- A readiness probe whose memory is a `σ`. -/
structure Probe (σ : Type) where
  address : String
  check : σ → Call ProbeOutcome × σ

namespace Probe

/-- The outcome that an exchange stands for. -/
def outcome : Except Http.Failure Http.Response → ProbeOutcome
  | .error failure => .unreachable failure.message
  | .ok r => if r.status = 200 then .ready else .rejected r.status (Http.statusText r.status)

/-- The text that a probe of `address` reads as its URL. -/
def urlText (address : String) : String := "http://" ++ address ++ "/"

/-- Probes the root page of `address`, for `timeout` milliseconds at most. -/
def http [Url.Idna] [Http.Resolver] {σ : Type} (network : Http.Network σ) (address : String)
    (timeout : Nat) : Probe σ where
  address
  check s :=
    match Url.parse (urlText address) with
    | .error fault => (.now (outcome (.error (.notBuilt fault))), s)
    | .ok url =>
      let (call, s) := Http.send network timeout (.get url) s
      (call.map outcome, s)

end Probe

end Sidecar
