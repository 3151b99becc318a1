import Sidecar.Duration
import Sidecar.Lifecycle
import Sidecar.Supervisor.Monit
import Sidecar.Text.Search

/-!
# Config — what a sidecar is told about its node

A configuration names the service and the places of its marker, its readiness endpoint and its
supervisor.  `flaw?` finds what makes one unusable, and `Orchestrator.ofConfig` builds the
orchestrator for one.
-/

namespace Sidecar

/-- How the wait for a started node goes. -/
structure Config.Readiness where
  tickInterval : Duration
  /-- How long one probe may take. -/
  probeTimeout : Duration
  /-- How long the whole wait may take; without it, as long as the node takes. -/
  maxWait : Option Duration
deriving DecidableEq, Repr

/-- A check every second that may take a second, for as long as it takes. -/
def Config.Readiness.default : Config.Readiness := ⟨.ofSeconds 1, .ofSeconds 1, none⟩

/-- What a configuration file tells: **every field has its value**, given or by default. -/
structure Config where
  service : String
  statePath : String
  /-- Host and port of the node's readiness endpoint. -/
  address : String
  readiness : Config.Readiness
  monit : Monit.Account
deriving DecidableEq, Repr

namespace Config

/-! ## Flaws -/

/-- What makes a configuration unusable. -/
inductive Flaw where
  | blankService
  | blankAddress
  /-- The address is a URL. -/
  | schemeInAddress (address : String)
  | zeroTickInterval
  | zeroProbeTimeout
  | zeroMaxWait
deriving DecidableEq, Repr

/-- What is told of a configuration that is flawed. -/
def Flaw.message : Flaw → String
  | blankService => "service_name must not be empty"
  | blankAddress => "galera_init_address must not be empty"
  | schemeInAddress address => s!"galera_init_address must be host:port, got '{address}'"
  | zeroTickInterval => "readiness.tick_interval must be greater than zero"
  | zeroProbeTimeout => "readiness.probe_timeout must be greater than zero"
  | zeroMaxWait => "readiness.max_wait must be greater than zero when set"

/-- The first flaw of a configuration. -/
def flaw? (c : Config) : Option Flaw :=
  if Text.isBlankText c.service then some .blankService
  else if Text.isBlankText c.address then some .blankAddress
  else if Text.holds "://".toList c.address.toList then some (.schemeInAddress c.address)
  else if c.readiness.tickInterval.isZero then some .zeroTickInterval
  else if c.readiness.probeTimeout.isZero then some .zeroProbeTimeout
  else if c.readiness.maxWait.any (·.isZero) then some .zeroMaxWait
  else none

/-! ## Use -/

/-- How a configuration has the service waited for. -/
def waitSettings (c : Config) : WaitSettings where
  tick := c.readiness.tickInterval.millis
  maxWait := c.readiness.maxWait.map (·.millis)

end Config

/-- The orchestrator that a configuration describes, with monit as its supervisor. -/
def Orchestrator.ofConfig [Url.Idna] [Http.Resolver] {σ : Type} (network : Http.Network σ)
    (c : Config) : Orchestrator σ where
  service := c.service
  statePath := c.statePath
  settings := c.waitSettings
  supervisor := Monit.supervisor network c.monit
  probe := Probe.http network c.address c.readiness.probeTimeout.millis

end Sidecar
