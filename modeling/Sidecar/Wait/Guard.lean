import Sidecar.Call

/-!
# Wait/Guard — what may end an awaited thing before its time

Whatever a wait awaits, it awaits under a guard: a deadline, a token that the caller may signal, and
a horizon beyond which nobody looks.  **At one instant a signal already given comes first, then the
deadline, then the awaited thing itself, then the horizon, and last a signal that is timed for that
instant.**

The ticker is the other clockwork of a wait: it says when the next check is due.
-/

namespace Sidecar

/-! ## Tokens -/

/-- A caller's means to abandon a wait. -/
structure Token where
  signalled : Bool
  /-- The time of a signal that is still to come. -/
  signalAt : Option Nat
deriving DecidableEq, Repr

namespace Token

/-- A token that nobody has signalled. -/
def fresh : Token := ⟨false, none⟩

/-- Whether a wait that reaches an instant finds the token signalled. -/
def isSignalled (t : Token) (now : Nat) : Bool := t.signalled || t.signalAt.any (· < now)

/-- The token signalled, **from now on.** -/
def signal (t : Token) : Token := { t with signalled := true }

/-- The token once a call has begun. -/
def afterCall {α : Type} (t : Token) (c : Call α) : Token := if c.signals then t.signal else t

end Token

/-! ## Guards -/

/-- Why an awaited thing was not awaited to its end. -/
inductive Cut where
  | cancelled
  | timedOut
  /-- It was still going on at the horizon. -/
  | unwatched
deriving DecidableEq, Repr

/-- What a wait is cut by: its deadline, and the horizon it is watched up to. -/
structure Guard where
  deadline : Option Nat
  horizon : Nat
deriving DecidableEq, Repr

namespace Guard

/-- What keeps a thing from being awaited at all. -/
def refuse? (g : Guard) (token : Token) (now : Nat) : Option Cut :=
  if token.isSignalled now then some .cancelled
  else if g.deadline.any (· ≤ now) then some .timedOut
  else none

/-- When and how a thing that is under way ends: by itself at `finish`, or by a cut. -/
def settle (g : Guard) (token : Token) (now : Nat) (finish : Option Nat) : Nat × Option Cut :=
  if finish = some now then (now, none)
  else if token.isSignalled now then (now, some .cancelled)
  else
    let ended : Nat × Option Cut := match finish with
      | some f => if f ≤ g.horizon then (f, none) else (g.horizon, some .unwatched)
      | none => (g.horizon, some .unwatched)
    let ended := match g.deadline with
      | some d => if d ≤ ended.1 then (d, some .timedOut) else ended
      | none => ended
    match token.signalAt with
    | some c => if c < ended.1 then (c, some .cancelled) else ended
    | none => ended

end Guard

/-! ## The ticker -/

/-- When the checks of a wait are due. -/
structure Ticker where
  interval : Nat
  due : Nat
  interval_pos : 0 < interval
deriving DecidableEq, Repr

namespace Ticker

/-- How much later than due a tick may complete without moving those that follow. -/
def tolerance : Nat := 5

/-- **A ticker has no interval of zero**; its first tick is due one interval after the start. -/
def start? (now interval : Nat) : Option Ticker :=
  if h : 0 < interval then some ⟨interval, now + interval, h⟩ else none

/-- When a tick that is awaited from `now` on completes. -/
def completion (t : Ticker) (now : Nat) : Nat := max now t.due

/-- The ticker after a tick that completed at `now`: **one that was late starts anew there.** -/
def advance (t : Ticker) (now : Nat) : Ticker :=
  { t with due := (if t.due + tolerance < now then now else t.due) + t.interval }

/-- **A ticker moves on with every tick.** -/
theorem due_lt_due_advance (t : Ticker) (now : Nat) : t.due < (t.advance now).due := by
  have := t.interval_pos
  simp only [advance]
  split <;> omega

end Ticker

end Sidecar
