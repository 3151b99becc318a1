/-!
# Call — how long an awaited call takes, and what it answers

A call may answer at once, after some time, or never, and it may signal the caller's token as it
begins.  Times are milliseconds of one clock that never goes back.
-/

namespace Sidecar

/-- What comes of a call. -/
structure Call (α : Type) where
  answer : α
  /-- The time until the answer; `none` if it never comes. -/
  delay : Option Nat
  /-- Whether the call signals the token as it begins. -/
  signals : Bool
deriving Repr

namespace Call

/-- A call that answers at once. -/
def now {α : Type} (answer : α) : Call α := ⟨answer, some 0, false⟩

/-- A call that answers after a delay, and signals nothing. -/
def after {α : Type} (delay : Nat) (answer : α) : Call α := ⟨answer, some delay, false⟩

/-- The same call with another answer. -/
def map {α β : Type} (f : α → β) (c : Call α) : Call β := ⟨f c.answer, c.delay, c.signals⟩

/-- When a call that begins at `start` has answered. -/
def finish {α : Type} (c : Call α) (start : Nat) : Option Nat := c.delay.map (start + ·)

@[simp] theorem answer_now {α : Type} (a : α) : (now a).answer = a := rfl

@[simp] theorem finish_now {α : Type} (a : α) (t : Nat) : (now a).finish t = some t := rfl

@[simp] theorem answer_map {α β : Type} (f : α → β) (c : Call α) :
    (c.map f).answer = f c.answer := rfl

@[simp] theorem finish_map {α β : Type} (f : α → β) (c : Call α) (t : Nat) :
    (c.map f).finish t = c.finish t := rfl

end Call

end Sidecar
