import Sidecar.Http.Client
import Sidecar.Supervisor.Report

/-!
# Supervisor/Monit — driving a monit daemon over HTTP

Starting and stopping are form posts to the service's own page.  The status comes from the report at
`/_status`, which has a block for every service.
-/

namespace Sidecar.Monit

/-- Where the daemon listens and who asks. -/
structure Account where
  host : String
  port : Nat
  username : String
  password : String
deriving DecidableEq, Repr

/-- How long the daemon may take to answer, in milliseconds. -/
def timeout : Nat := 10000

/-- The daemon's address, **by plain HTTP.** -/
def baseUrl (a : Account) : String := s!"http://{a.host}:{a.port}"

variable [Url.Idna] [Http.Resolver]

/-- Sends the request that `build` makes of an address, as `a`'s user. -/
def send {σ : Type} (network : Http.Network σ) (a : Account) (page : String)
    (build : Url → Http.Request) (s : σ) : Call (Except Http.Failure Http.Response) × σ :=
  match Url.parse s!"{baseUrl a}/{page}" with
  | .error fault => (.now (.error (.notBuilt fault)), s)
  | .ok url => Http.send network timeout ((build url).withCredentials a.username a.password) s

/-- Whether the daemon took an action on. -/
def acknowledged (action : Action) (service : String) :
    Except Http.Failure Http.Response → Except SupervisorError Unit
  | .error failure => .error (.request action service failure)
  | .ok r => if Http.isSuccess r.status then .ok () else .error (.rejected action service r.status)

/-- The state that the daemon reports for a service. -/
def reported (service : String) :
    Except Http.Failure Http.Response → Except SupervisorError ProcessState
  | .error failure => .error (.request .query service failure)
  | .ok r =>
    if Http.isSuccess r.status then
      match Report.state? r.text service with
      | some state => .ok state
      | none => .error (.unknownService service)
    else .error (.rejected .query service r.status)

/-- Starts or stops a service: **posts the action as a form to its page.** -/
def act {σ : Type} (network : Http.Network σ) (a : Account) (action : Action) (service : String)
    (s : σ) : Call (Except SupervisorError Unit) × σ :=
  let (call, s) := send network a service (.postForm · "action" action.verb) s
  (call.map (acknowledged action service), s)

/-- The daemon as a supervisor. -/
def supervisor {σ : Type} (network : Http.Network σ) (a : Account) : Supervisor σ where
  start := act network a .start
  stop := act network a .stop
  status service s :=
    let (call, s) := send network a "_status" .get s
    (call.map (reported service), s)

end Sidecar.Monit
