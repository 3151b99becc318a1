import Sidecar.Proofs.Wait.Step

/-!
# Proofs/Wait/Cut — a wait with one interruption more

Two waits that differ by an `Interruption` go step by step together until the interruption's
instant.  **Either the free wait ends early, and the bound one ends just so; or the bound wait is
cut at the instant, having made the calls that the free one has made by then** (`ends_bound`).

How many ticks a cut wait reports is a matter of its own: `Ends.ticks_eq` counts them in its calls.
-/

namespace Sidecar

namespace Wait

variable {σ : Type}

/-! ## Ticks and calls -/

/-- How many of the calls are of one kind. -/
def callCount (query : Query) (calls : List (Nat × Query)) : Nat := calls.countP (·.2 = query)

@[simp] theorem callCount_reverse (query : Query) (calls : List (Nat × Query)) :
    callCount query calls.reverse = callCount query calls :=
  List.countP_reverse

theorem callCount_eq_count (query : Query) (calls : List (Nat × Query)) :
    callCount query calls = (calls.map Prod.snd).count query := by
  rw [List.count, List.countP_map]
  rfl

/-- Ticks and status calls are in step: **a tick is ahead of its status call only while nothing can
come between the two.** -/
structure InStep (plan : Plan σ) (phase : Phase) (s : State σ) : Prop where
  ticks : s.ticks = callCount .status s.calls + if phase = .status then 1 else 0
  admitted : phase = .status → plan.guard.refuse? s.token s.now = none

/-- **A status query is counted as it is asked.** -/
theorem InStep.begun {plan : Plan σ} {phase : Phase} {s : State σ} (h : InStep plan phase s) :
    s.ticks = callCount .status (begun plan s phase).calls := by
  rw [h.ticks, begun_calls]
  cases phase <;> simp [Phase.query?, callCount]

/-- **Ticks and status calls stay in step.** -/
theorem InStep.step {plan : Plan σ} {phase : Phase} {s s' : State σ} (h : InStep plan phase s)
    (hs : step plan phase s = (s', none)) : InStep plan phase.next s' := by
  obtain ⟨hr, hset, hs', -⟩ := completed_of_step hs
  have hticks := h.begun
  rw [← completed_calls plan s s'.now phase, ← hs'] at hticks
  cases phase with
  | tick =>
    have ht : s'.ticks = s.ticks + 1 := by rw [hs']; rfl
    have htok : s'.token = s.token := by rw [hs']; rfl
    exact ⟨by simp [Phase.next, ht, hticks], fun _ => htok ▸ Guard.refuse?_of_settle hr hset⟩
  | status | probe =>
    have ht : s'.ticks = s.ticks := by rw [hs']; rfl
    exact ⟨by simp [Phase.next, ht, hticks], by simp [Phase.next]⟩

/-- **A wait that has ended has completed one tick for each status call.** -/
theorem Ends.ticks_eq {plan : Plan σ} {phase : Phase} {s s' : State σ} {verdict : Verdict}
    (he : Ends plan phase s s' verdict) (h : InStep plan phase s) :
    s'.ticks = callCount .status s'.calls := by
  induction he with
  | later hs _ ih => exact ih (h.step hs)
  | @now phase s s' verdict hs =>
    rcases step_cases plan phase s with ⟨cut, hr, hs'⟩ | ⟨-, now, ⟨cut, -, hs'⟩ | ⟨-, hs'⟩⟩ <;>
      obtain ⟨rfl, hv⟩ := Prod.mk.inj (hs'.symm.trans hs)
    · have hne : phase ≠ .status := fun hp => by simp [h.admitted hp] at hr
      simpa [hne] using h.ticks
    · simpa using h.begun
    · cases phase with
      | tick => cases hv
      | status | probe => simpa [completed] using h.begun

end Wait

/-! ## The bound wait beside the free one -/

namespace Interruption

open Wait

variable {σ : Type} (i : Interruption)

/-- The plan under the bound guard. -/
def plan (p : Plan σ) : Plan σ := { p with guard := i.bound }

/-- The state with its token marked. -/
def state (s : State σ) : State σ := { s with token := i.mark s.token }

/-- An interruption does not change what a step begins with. -/
theorem state_begun (p : Plan σ) (s : State σ) (phase : Phase) :
    begun (i.plan p) (i.state s) phase = i.state (begun p s phase) := by
  cases phase with
  | tick => rfl
  | status | probe => simp only [begun, State.called, state, plan, i.mark_afterCall]

theorem state_completed (p : Plan σ) (s : State σ) (now : Nat) (phase : Phase) :
    completed (i.plan p) (i.state s) now phase = i.state (completed p s now phase) := by
  cases phase with
  | tick => rfl
  | status | probe => rw [completed, state_begun]; rfl

theorem completion_state (p : Plan σ) (s : State σ) (phase : Phase) :
    completion (i.plan p) (i.state s) phase = completion p s phase := by
  cases phase <;> rfl

theorem ending?_state (p : Plan σ) (s s' : State σ) (phase : Phase) :
    ending? (i.plan p) (i.state s) (i.state s') phase = ending? p s s' phase := by
  cases phase <;> rfl

theorem cutEnding_plan (p : Plan σ) (s : State σ) (cut : Cut) :
    cutEnding (i.plan p) s cut = cutEnding p s cut := by
  cases cut <;> rfl

theorem cutEnding_state (p : Plan σ) (s : State σ) (cut : Cut) :
    cutEnding p (i.state s) cut = cutEnding p s cut := by
  cases cut <;> rfl

theorem fits_begun {p : Plan σ} {s : State σ} {phase : Phase} (h : i.Fits s.token) :
    i.Fits (begun p s phase).token := by
  cases phase with
  | tick => exact h
  | status | probe => exact i.fits_afterCall _ h

/-- **One step under both guards**: the same, and early; or cut at the instant, and else late. -/
theorem step_bound {p : Plan σ} (hg : p.guard = i.free) (phase : Phase) {s : State σ}
    (hfit : i.Fits s.token) (he : i.Early s.now) :
    step (i.plan p) phase (i.state s) = (i.state (step p phase s).1, (step p phase s).2) ∧
        i.Early (step p phase s).1.now ∨
      ∃ c : State σ, step (i.plan p) phase (i.state s) = (c, some (cutEnding p c i.cut)) ∧
        c.now = i.instant ∧ c.calls = (begun p s phase).calls ∧
        (step p phase s).1.calls = (begun p s phase).calls ∧ i.Late (step p phase s).1.now := by
  have hrefuse : (i.plan p).guard.refuse? (i.state s).token (i.state s).now
      = p.guard.refuse? s.token s.now := by rw [hg]; exact i.refuse hfit he
  rcases step_cases p phase s with ⟨cut, hr, hs⟩ | ⟨hr, now, hcase⟩
  · left
    rw [step_of_refused (hrefuse.trans hr), hs, i.cutEnding_plan, i.cutEnding_state]
    exact ⟨rfl, he⟩
  have hr' := hrefuse.trans hr
  have hset' : (i.plan p).guard.settle (begun (i.plan p) (i.state s) phase).token (i.state s).now
      (completion (i.plan p) (i.state s) phase)
        = i.bound.settle (i.mark (begun p s phase).token) s.now (completion p s phase) := by
    rw [i.state_begun, i.completion_state]
    rfl
  rw [hg] at hcase
  rcases i.settle (completion p s phase) (i.fits_begun (p := p) hfit) he with
    ⟨hsame, hearly⟩ | ⟨hcut, hlate⟩
  · left
    rw [hsame] at hset'
    rcases hcase with ⟨cut, hset, hs⟩ | ⟨hset, hs⟩ <;> rw [hset] at hset' hearly <;> rw [hs]
    · rw [step_of_cut hr' hset', i.cutEnding_plan, i.state_begun]
      exact ⟨rfl, hearly⟩
    · rw [step_of_completed hr' hset', i.state_completed, i.ending?_state]
      exact ⟨rfl, by simpa using hearly⟩
  · right
    refine ⟨_, step_of_cut hr' (hset'.trans hcut), rfl, by rw [i.state_begun]; rfl, ?_⟩
    rcases hcase with ⟨cut, hset, hs⟩ | ⟨hset, hs⟩ <;> rw [hset] at hlate <;> rw [hs]
    · exact ⟨rfl, hlate⟩
    · exact ⟨completed_calls .., by simpa using hlate⟩

/-- **A run under both guards.**  Either the free wait ends early and the bound one ends just so, or
the bound one is cut at the instant: its calls are early ones, and those that the free wait makes
beyond them are late. -/
theorem ends_bound {p : Plan σ} (hg : p.guard = i.free) {phase : Phase} {s s' : State σ}
    {verdict : Verdict} (h : Ends p phase s s' verdict) (hfit : i.Fits s.token)
    (he : i.Early s.now) (hcalls : ∀ call ∈ s.calls, i.Early call.1) :
    Ends (i.plan p) phase (i.state s) (i.state s') verdict ∧ i.Early s'.now ∨
      ∃ c : State σ, Ends (i.plan p) phase (i.state s) c (cutEnding p c i.cut) ∧
        c.now = i.instant ∧ i.Late s'.now ∧ (∀ call ∈ c.calls, i.Early call.1) ∧
        ∃ more, s'.calls = more ++ c.calls ∧ ∀ call ∈ more, i.Late call.1 := by
  have hbegun : ∀ {phase : Phase} {s : State σ}, i.Early s.now →
      (∀ call ∈ s.calls, i.Early call.1) → ∀ call ∈ (begun p s phase).calls, i.Early call.1 := by
    intro phase s he hcalls call hc
    rw [begun_calls] at hc
    cases phase <;> simp [Phase.query?] at hc <;> grind
  induction h with
  | @now phase s s' verdict hs =>
    have hstep := i.step_bound hg phase hfit he
    rw [hs] at hstep
    rcases hstep with ⟨hb, hearly⟩ | ⟨c, hb, hnow, hc, hfree, hlate⟩
    · exact .inl ⟨.now hb, hearly⟩
    · exact .inr ⟨c, .now hb, hnow, hlate, hc ▸ hbegun he hcalls, [], hfree.trans hc.symm, by simp⟩
  | @later phase s s₁ s' verdict hs hrest ih =>
    obtain ⟨-, -, hcompleted, -⟩ := completed_of_step hs
    have htoken : s₁.token = (begun p s phase).token := by rw [hcompleted, completed_token]
    have hs₁ : s₁.calls = (begun p s phase).calls := by rw [hcompleted, completed_calls]
    have hstep := i.step_bound hg phase hfit he
    rw [hs] at hstep
    rcases hstep with ⟨hb, hearly⟩ | ⟨c, hb, hnow, hc, -, hlate⟩
    · rcases ih (htoken ▸ i.fits_begun hfit) hearly (hs₁ ▸ hbegun he hcalls) with
        ⟨hends, hearly'⟩ | ⟨c, hends, hc⟩
      · exact .inl ⟨.later hb hends, hearly'⟩
      · exact .inr ⟨c, .later hb hends, hc⟩
    · have hhorizon : s₁.now ≤ p.guard.horizon := by
        have := (later_step phase (hg ▸ i.le_horizon he : s.now ≤ p.guard.horizon)).2
        rwa [hs] at this
      obtain ⟨hnow', more, hmore, hle⟩ := (hrest.later_state hhorizon).1
      refine .inr ⟨c, .now hb, hnow, i.late_of_le hlate hnow', hc ▸ hbegun he hcalls, more, ?_, ?_⟩
      · rw [hmore, hs₁, hc]
      · exact fun call hcall => i.late_of_le hlate (hle call hcall)

end Interruption

end Sidecar
