import Sidecar.Http.Client

/-!
# Http/Record — a network that plays recorded answers

A run over a record gets the recorded answers in order, and silence when they are used up.  **The
first request that met this silence is the one to send next**: with its answer added to the record,
the same run goes on further.
-/

namespace Sidecar.Http

/-- A request that the record has no answer for, and how long its caller would have waited. -/
structure Missed where
  request : Request
  timeout : Nat
deriving DecidableEq, Repr

/-- Answers that are still to be played, and the requests beyond them, the latest first. -/
structure Record where
  answers : List Answer
  missed : List Missed
deriving DecidableEq, Repr

namespace Record

/-- A record before it is played. -/
def ofAnswers (answers : List Answer) : Record := ⟨answers, []⟩

/-- The network that hands the recorded answers out; **what comes later is noted as missed.** -/
def network : Network Record where
  exchange timeout request r :=
    match r.answers with
    | answer :: rest => (answer, { r with answers := rest })
    | [] => (.silence, { r with missed := ⟨request, timeout⟩ :: r.missed })

/-- The first request without an answer. -/
def next? (r : Record) : Option Missed := r.missed.getLast?

end Record

end Sidecar.Http
