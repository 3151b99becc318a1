import Sidecar.Readiness
import Sidecar.Supervisor

/-!
# Script — a supervisor and a probe that follow a script

Each kind of call draws from a queue of prepared calls, and from a fallback once the queue is empty.
-/

namespace Sidecar

/-- Prepared calls, and the one for when they are used up. -/
structure Queue (α : Type) where
  prepared : List (Call α)
  fallback : Call α

namespace Queue

variable {α : Type}

/-- The next call, and the queue without it. -/
def next (q : Queue α) : Call α × Queue α :=
  match q.prepared with
  | [] => (q.fallback, q)
  | c :: rest => (c, { q with prepared := rest })

/-- The queue with more calls prepared. -/
def append (q : Queue α) (calls : List (Call α)) : Queue α :=
  { q with prepared := q.prepared ++ calls }

end Queue

/-- What a scripted supervisor and a scripted probe are going to answer. -/
structure Script where
  start : Except SupervisorError Unit
  stop : Except SupervisorError Unit
  statuses : Queue (Except SupervisorError ProcessState)
  probes : Queue ProbeOutcome

namespace Script

/-- Everything works and the node is never reached. -/
def default : Script where
  start := .ok ()
  stop := .ok ()
  statuses := ⟨[], .now (.ok .running)⟩
  probes := ⟨[], .now (.unreachable "connection refused")⟩

/-- The supervisor that answers from a script. -/
def supervisor : Supervisor Script where
  start _ s := (.now s.start, s)
  stop _ s := (.now s.stop, s)
  status _ s :=
    let (call, statuses) := s.statuses.next
    (call, { s with statuses })

/-- The check that answers from a script. -/
def probe (address : String) : Probe Script where
  address
  check s :=
    let (call, probes) := s.probes.next
    (call, { s with probes })

end Script

end Sidecar
