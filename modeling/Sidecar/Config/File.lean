import Sidecar.Config
import Sidecar.Yaml.Record

/-!
# Config/File — configurations written in YAML

The file is one record, with the records `readiness` and `monit` in it.  Durations are texts, and
**every field of `readiness`, like that record itself, may be left out.**
-/

namespace Sidecar.Config

open Yaml (Document Node RecordError Complaint)

/-! ## Fields -/

/-- The duration that a text means, or the complaint that it means none. -/
def duration (text : String) : Except RecordError Duration :=
  (Duration.parse text).mapError fun e => .complaint (.refused e.message)

/-- A field that a record must have. -/
def require {α : Type} (name : String) : Option α → Except Complaint α
  | some a => .ok a
  | none => .error (.missingField name)

/-! ## Readiness -/

/-- The fields of the readiness settings. -/
def Readiness.fields : List String := ["tick_interval", "probe_timeout", "max_wait"]

/-- Puts the value of one field. -/
def Readiness.assign (d : Document) (name : String) (node : Node) (r : Readiness) :
    Except RecordError Readiness := do
  if name = "tick_interval" then
    return { r with tickInterval := ← duration (← d.text "a string" node) }
  else if name = "probe_timeout" then
    return { r with probeTimeout := ← duration (← d.text "a string" node) }
  else
    match ← d.text? node with
    | some text => return { r with maxWait := some (← duration text) }
    | none => return { r with maxWait := none }

/-- The readiness settings that a node tells, **the missing ones by default.** -/
def Readiness.read (d : Document) : Node → Except RecordError Readiness :=
  d.record "struct ReadinessConfig" Readiness.fields (Readiness.assign d) .default .ok

/-! ## The account at monit -/

namespace Account

/-- The fields of a daemon's account, as far as they have been read. -/
structure Draft where
  host : String
  port : Nat
  username : Option String
  password : Option String

/-- A daemon on this machine, at its usual port. -/
def Draft.default : Draft := ⟨"127.0.0.1", 2822, none, none⟩

/-- The fields of a daemon's account. -/
def fields : List String := ["host", "port", "username", "password"]

/-- Puts the value of one field. -/
def assign (d : Document) (name : String) (node : Node) (a : Draft) : Except RecordError Draft := do
  if name = "host" then return { a with host := ← d.text "a string" node }
  else if name = "port" then return { a with port := ← d.word16 node }
  else if name = "username" then return { a with username := some (← d.text "a string" node) }
  else return { a with password := some (← d.text "a string" node) }

/-- The account, **if its user and password are there.** -/
def finish (a : Draft) : Except Complaint Monit.Account := do
  let username ← require "username" a.username
  let password ← require "password" a.password
  return { host := a.host, port := a.port, username, password }

/-- The account that a node tells. -/
def read (d : Document) : Node → Except RecordError Monit.Account :=
  d.record "struct MonitConfig" fields (assign d) .default finish

end Account

/-! ## The whole file -/

/-- The fields of a configuration, as far as they have been read. -/
structure Draft where
  service : Option String
  statePath : Option String
  address : Option String
  readiness : Option Readiness
  monit : Option Monit.Account

/-- No field has been read. -/
def Draft.empty : Draft := ⟨none, none, none, none, none⟩

/-- The fields of a configuration. -/
def fields : List String :=
  ["service_name", "state_file_path", "galera_init_address", "readiness", "monit"]

/-- Puts the value of one field. -/
def assign (d : Document) (name : String) (node : Node) (c : Draft) : Except RecordError Draft := do
  if name = "service_name" then return { c with service := some (← d.text "a string" node) }
  else if name = "state_file_path" then
    return { c with statePath := some (← d.text "path string" node) }
  else if name = "galera_init_address" then
    return { c with address := some (← d.text "a string" node) }
  else if name = "readiness" then return { c with readiness := some (← Readiness.read d node) }
  else return { c with monit := some (← Account.read d node) }

/-- The configuration, **if no field is missing that has no default.** -/
def finish (c : Draft) : Except Complaint Config := do
  let service ← require "service_name" c.service
  let statePath ← require "state_file_path" c.statePath
  let address ← require "galera_init_address" c.address
  let monit ← require "monit" c.monit
  return { service, statePath, address, readiness := c.readiness.getD .default, monit }

/-- The configuration that a node tells. -/
def read (d : Document) : Node → Except RecordError Config :=
  d.record "struct SidecarConfig" fields (assign d) .empty finish

/-! ## Loading -/

/-- Why there is no configuration. -/
inductive LoadError where
  | flawed (flaw : Flaw)
  | malformed (path : String) (e : RecordError)
  | missing (path : String)
  | unreadable (path : String) (fault : FileFault)
deriving DecidableEq, Repr

namespace LoadError

/-- What is told of a file that is not loaded. -/
def message : LoadError → String
  | flawed flaw => s!"Configuration error: {flaw.message}"
  | malformed path e => s!"Failed to parse config file '{path}':\n  {e.fullMessage}"
  | missing path => s!"Config file not found: {path}"
  | unreadable path fault => s!"Failed to read config file '{path}': {fault.message}"

/-- The causes behind the message. -/
def causes : LoadError → List String
  | malformed _ e => [e.trailMessage]
  | unreadable _ fault => [fault.message]
  | _ => []

end LoadError

/-- Reads the text of a configuration file; `path` is for messages alone. -/
def parse (text path : String) : Except LoadError Config := do
  let c ← (Document.readOnly text read).mapError (.malformed path)
  match c.flaw? with
  | some flaw => throw (.flawed flaw)
  | none => return c

/-- The error for a file that cannot be read. -/
def LoadError.ofFault (path : String) (fault : FileFault) : LoadError :=
  if fault = .notFound then .missing path else .unreadable path fault

/-- Reads a configuration file. -/
def load (tree : FileTree) (path : String) : Except LoadError Config := do
  let text ← (tree.readText path).mapError (.ofFault path)
  parse text path

end Sidecar.Config
