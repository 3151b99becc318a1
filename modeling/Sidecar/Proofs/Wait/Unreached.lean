import Mathlib
import Sidecar.Proofs.Wait.Scenario

/-!
# Proofs/Wait/Unreached — a node that cannot be reached

An unreachable node never ends a wait: it is checked again at the next tick.  **With nothing else to
end it, the wait goes on for ever** (`goesOn_of_unreachable`).
-/

namespace Sidecar

open Wait

variable {σ : Type}

namespace Wait

/-- A service that stays running, whatever is asked of its supervisor. -/
def StaysRunning (supervisor : Supervisor σ) (service : String) : Prop :=
  ∀ world, (supervisor.status service world).1.answer = .ok .running ∧
    (supervisor.status service world).1.signals = false

/-- A node that no probe reaches. -/
def StaysUnreachable (probe : Probe σ) : Prop :=
  ∀ world, ∃ reason, (probe.check world).1 = .now (.unreachable reason)

/-- **Without a deadline or a signal, nothing but the horizon cuts.** -/
theorem eq_unwatched_of_settle {g : Guard} (hlimit : g.deadline = none) {now time : Nat}
    {finish : Option Nat} {cut : Cut} (h : g.settle .fresh now finish = (time, some cut)) :
    cut = .unwatched := by
  cases finish <;> grind [Guard.settle, Token.fresh, Token.isSignalled]

section Step

variable {plan : Plan σ} {s : State σ} {phase : Phase}
  (hrunning : StaysRunning plan.supervisor plan.service) (hprobe : StaysUnreachable plan.probe)

include hrunning hprobe

/-- **A node that is not reached decides nothing.** -/
theorem ending?_of_unreached (s' : State σ) : ending? plan s s' phase = none := by
  cases phase with
  | tick => rfl
  | status =>
    rw [ending?, (hrunning s.world).1]
    rfl
  | probe =>
    obtain ⟨reason, hreason⟩ := hprobe s.world
    rw [ending?, hreason]
    rfl

/-- **No call signals the token.** -/
theorem begun_token_of_unreached (htoken : s.token = .fresh) :
    (begun plan s phase).token = .fresh := by
  cases phase with
  | tick => exact htoken
  | status => simp [begun, State.called, Token.afterCall, (hrunning s.world).2, htoken]
  | probe =>
    obtain ⟨reason, hreason⟩ := hprobe s.world
    simp [begun, State.called, Token.afterCall, hreason, htoken, Call.now]

/-- **Only the horizon ends what is awaited.** -/
theorem unwatched_of_unreached (hlimit : plan.guard.deadline = none) (htoken : s.token = .fresh)
    {s' : State σ} {verdict : Verdict} (hs : step plan phase s = (s', some verdict)) :
    verdict = .unwatched := by
  rcases step_cases plan phase s with ⟨cut, hrefuse, -⟩ | ⟨-, now, ⟨cut, hsettle, hs'⟩ | ⟨-, hs'⟩⟩
  · rw [htoken] at hrefuse
    simp [Guard.refuse?, hlimit, Token.isSignalled, Token.fresh] at hrefuse
  · rw [begun_token_of_unreached hrunning hprobe htoken] at hsettle
    obtain rfl := eq_unwatched_of_settle hlimit hsettle
    rw [hs'] at hs
    cases hs
    rfl
  · rw [hs', ending?_of_unreached hrunning hprobe] at hs
    cases hs

end Step

end Wait

namespace Scenario

/-- **An unreachable node is checked for ever**, while its service runs and nothing limits the wait
or signals its token. -/
theorem goesOn_of_unreachable (w : Scenario σ) (ht : 0 < w.settings.tick)
    (hlimit : w.settings.maxWait = none) (htoken : w.token = .fresh)
    (hrunning : StaysRunning w.supervisor w.service) (hprobe : StaysUnreachable w.probe) :
    w.GoesOn := by
  intro horizon hle
  obtain ⟨s, verdict, hends, ho⟩ := w.ends_watch ht hle
  have hdeadline : (w.plan horizon).guard.deadline = none := by simp [plan, hlimit]
  -- the token stays fresh up to the last step, for only a call could signal it
  obtain ⟨last, s₁, hkept, hstep⟩ := hends.exists_last (fun _ s => s.token = .fresh)
    (fun {phase s s'} hfresh hs => by
      obtain ⟨-, -, hs', -⟩ := completed_of_step hs
      rw [hs', completed_token]
      exact begun_token_of_unreached hrunning hprobe hfresh) htoken
  rw [ho]
  exact unwatched_of_unreached hrunning hprobe hdeadline hkept hstep

end Scenario

end Sidecar
