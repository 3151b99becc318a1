import Sidecar.Proofs.Wait.Guard

/-!
# Proofs/Wait/Step — a wait, one awaited thing at a time

A check awaits a tick, a status and a probe, each under the same guard.  `step` is one of the three,
`check_eq_steps` puts a check together from them, and `step_cases` says all that a step can do.
`Ends` says where a wait comes to when it takes as many steps as it needs; **given rounds enough,
that is what `checks` computes** (`ends_checks`).
-/

namespace Sidecar.Wait

variable {σ : Type}

/-- How a wait may end. -/
abbrev Verdict := Ending (Except WaitError WaitReport)

/-- What a wait may await. -/
inductive Phase where
  | tick
  | status
  | probe
deriving DecidableEq

/-- What is awaited next if the wait goes on. -/
def Phase.next : Phase → Phase
  | tick => status
  | status => probe
  | probe => tick

/-! ## One step -/

/-- A call that has just begun. -/
def State.called {α : Type} (s : State σ) (query : Query) (call : Call α × σ) : State σ :=
  { s with
    token := s.token.afterCall call.1
    calls := (s.now, query) :: s.calls
    world := call.2 }

/-- The state once the awaited thing is under way. -/
def begun (plan : Plan σ) (s : State σ) : Phase → State σ
  | .tick => s
  | .status => s.called .status (plan.supervisor.status plan.service s.world)
  | .probe => s.called .probe (plan.probe.check s.world)

/-- When the awaited thing completes by itself. -/
def completion (plan : Plan σ) (s : State σ) : Phase → Option Nat
  | .tick => some (s.ticker.completion s.now)
  | .status => (plan.supervisor.status plan.service s.world).1.finish s.now
  | .probe => (plan.probe.check s.world).1.finish s.now

/-- The state once the awaited thing has completed. -/
def completed (plan : Plan σ) (s : State σ) (now : Nat) : Phase → State σ
  | .tick => { s with now, ticker := s.ticker.advance now, ticks := s.ticks + 1 }
  | .status => { begun plan s .status with now }
  | .probe => { begun plan s .probe with now }

/-- How the supervisor's answer ends the wait, if it does. -/
def statusEnding? (plan : Plan σ) : Except SupervisorError ProcessState → Option Verdict
  | .error source => some (.returned (.error (.statusQueryFailed plan.service source)))
  | .ok state =>
    if state.isRunning then none
    else some (.returned (.error (.processNotRunning plan.service state)))

/-- How the awaited thing, completed in state `s'`, ends the wait, if it does. -/
def ending? (plan : Plan σ) (s s' : State σ) : Phase → Option Verdict
  | .tick => none
  | .status => statusEnding? plan (plan.supervisor.status plan.service s.world).1.answer
  | .probe => probeEnding? plan s' (plan.probe.check s.world).1.answer

/-- Awaits one thing.  The verdict is `none` if the wait goes on. -/
def step (plan : Plan σ) (phase : Phase) (s : State σ) : State σ × Option Verdict :=
  match plan.guard.refuse? s.token s.now with
  | some cut => (s, some (cutEnding plan s cut))
  | none =>
    let b := begun plan s phase
    match plan.guard.settle b.token s.now (completion plan s phase) with
    | (now, some cut) => ({ b with now }, some (cutEnding plan { b with now } cut))
    | (now, none) =>
      let s' := completed plan s now phase
      (s', ending? plan s s' phase)

theorem step_tick (plan : Plan σ) (s : State σ) :
    step plan .tick s =
      match s.awaitTick plan.guard with
      | (s, some cut) => (s, some (cutEnding plan s cut))
      | (s, none) => (s, none) := by
  simp only [step, State.awaitTick, begun, completion, completed, ending?]
  rcases plan.guard.refuse? s.token s.now with _ | cut
  · rcases plan.guard.settle s.token s.now _ with ⟨now, _ | cut⟩ <;> rfl
  · rfl

theorem step_status (plan : Plan σ) (s : State σ) :
    step plan .status s =
      match s.ask plan.guard .status (plan.supervisor.status plan.service) with
      | (s, .error cut) => (s, some (cutEnding plan s cut))
      | (s, .ok answer) => (s, statusEnding? plan answer) := by
  simp only [step, State.ask, begun, completion, completed, ending?, State.called]
  rcases plan.guard.refuse? s.token s.now with _ | cut
  · rcases plan.guard.settle _ s.now _ with ⟨now, _ | cut⟩ <;> rfl
  · rfl

theorem step_probe (plan : Plan σ) (s : State σ) :
    step plan .probe s =
      match s.ask plan.guard .probe plan.probe.check with
      | (s, .error cut) => (s, some (cutEnding plan s cut))
      | (s, .ok outcome) => (s, probeEnding? plan s outcome) := by
  simp only [step, State.ask, begun, completion, completed, ending?, State.called]
  rcases plan.guard.refuse? s.token s.now with _ | cut
  · rcases plan.guard.settle _ s.now _ with ⟨now, _ | cut⟩ <;> rfl
  · rfl

/-- **A check is three steps, as far as they lead.** -/
theorem check_eq_steps (plan : Plan σ) (s : State σ) :
    check plan s =
      match step plan .tick s with
      | (s, some verdict) => (s, some verdict)
      | (s, none) =>
        match step plan .status s with
        | (s, some verdict) => (s, some verdict)
        | (s, none) => step plan .probe s := by
  rw [check, step_tick]
  rcases s.awaitTick plan.guard with ⟨s₁, cut | _⟩
  case some => rfl
  simp only [step_status]
  rcases s₁.ask plan.guard .status _ with ⟨s₂, cut | (source | state)⟩
  case error => rfl
  case ok.error => rfl
  cases hrun : state.isRunning with
  | false => simp [statusEnding?, hrun]
  | true =>
    simp only [statusEnding?, hrun, if_true]
    exact (step_probe plan s₂).symm

/-! ## All that a step can do -/

/-- **A step that is refused asks nothing.** -/
theorem step_of_refused {plan : Plan σ} {phase : Phase} {s : State σ} {cut : Cut}
    (h : plan.guard.refuse? s.token s.now = some cut) :
    step plan phase s = (s, some (cutEnding plan s cut)) := by
  simp only [step, h]

/-- **A step that is cut ends the wait**, its query asked. -/
theorem step_of_cut {plan : Plan σ} {phase : Phase} {s : State σ} {now : Nat} {cut : Cut}
    (hr : plan.guard.refuse? s.token s.now = none)
    (h : plan.guard.settle (begun plan s phase).token s.now (completion plan s phase)
      = (now, some cut)) :
    step plan phase s = ({ begun plan s phase with now },
      some (cutEnding plan { begun plan s phase with now } cut)) := by
  simp only [step, hr, h]

/-- **A step that is completed ends the wait if its answer decides.** -/
theorem step_of_completed {plan : Plan σ} {phase : Phase} {s : State σ} {now : Nat}
    (hr : plan.guard.refuse? s.token s.now = none)
    (h : plan.guard.settle (begun plan s phase).token s.now (completion plan s phase)
      = (now, none)) :
    step plan phase s = (completed plan s now phase,
      ending? plan s (completed plan s now phase) phase) := by
  simp only [step, hr, h]

/-- **A step is refused, cut, or completes.** -/
theorem step_cases (plan : Plan σ) (phase : Phase) (s : State σ) :
    (∃ cut, plan.guard.refuse? s.token s.now = some cut ∧
      step plan phase s = (s, some (cutEnding plan s cut))) ∨
    plan.guard.refuse? s.token s.now = none ∧ ∃ now,
      ((∃ cut, plan.guard.settle (begun plan s phase).token s.now (completion plan s phase)
          = (now, some cut) ∧
        step plan phase s = ({ begun plan s phase with now },
          some (cutEnding plan { begun plan s phase with now } cut))) ∨
      plan.guard.settle (begun plan s phase).token s.now (completion plan s phase)
          = (now, none) ∧
        step plan phase s = (completed plan s now phase,
          ending? plan s (completed plan s now phase) phase)) := by
  cases hr : plan.guard.refuse? s.token s.now with
  | some cut => exact .inl ⟨cut, rfl, step_of_refused hr⟩
  | none =>
    rcases h : plan.guard.settle (begun plan s phase).token s.now (completion plan s phase) with
      ⟨now, _ | cut⟩
    · exact .inr ⟨rfl, now, .inr ⟨rfl, step_of_completed hr h⟩⟩
    · exact .inr ⟨rfl, now, .inl ⟨cut, rfl, step_of_cut hr h⟩⟩

/-! ## What is awaited, and what it leaves alone -/

/-- The call that a phase makes. -/
def Phase.query? : Phase → Option Query
  | tick => none
  | status => some .status
  | probe => some .probe

/-- **Nothing completes before it has begun.** -/
theorem le_completion {plan : Plan σ} {s : State σ} {phase : Phase} {time : Nat}
    (h : completion plan s phase = some time) : s.now ≤ time := by
  cases phase with
  | tick =>
    obtain rfl := Option.some.inj h
    exact Nat.le_max_left _ _
  | status | probe =>
    obtain ⟨delay, -, rfl⟩ := Option.map_eq_some_iff.mp h
    exact Nat.le_add_right _ _

/-- A step notes the query that it asks. -/
theorem begun_calls (plan : Plan σ) (s : State σ) (phase : Phase) :
    (begun plan s phase).calls = (phase.query?.map (s.now, ·)).toList ++ s.calls := by
  cases phase <;> rfl

@[simp] theorem begun_ticks (plan : Plan σ) (s : State σ) (phase : Phase) :
    (begun plan s phase).ticks = s.ticks := by
  cases phase <;> rfl

@[simp] theorem begun_signalAt (plan : Plan σ) (s : State σ) (phase : Phase) :
    (begun plan s phase).token.signalAt = s.token.signalAt := by
  cases phase with
  | tick => rfl
  | status | probe => exact Token.signalAt_afterCall _ _

@[simp] theorem completed_now (plan : Plan σ) (s : State σ) (now : Nat) (phase : Phase) :
    (completed plan s now phase).now = now := by
  cases phase <;> rfl

@[simp] theorem completed_calls (plan : Plan σ) (s : State σ) (now : Nat) (phase : Phase) :
    (completed plan s now phase).calls = (begun plan s phase).calls := by
  cases phase <;> rfl

@[simp] theorem completed_token (plan : Plan σ) (s : State σ) (now : Nat) (phase : Phase) :
    (completed plan s now phase).token = (begun plan s phase).token := by
  cases phase <;> rfl

/-! ## Time goes on, and calls are only added -/

/-- A state that a wait may come to from `s`. -/
structure State.Later (s s' : State σ) : Prop where
  now_le : s.now ≤ s'.now
  /-- **No call is forgotten**, and none is noted for a time before `s`. -/
  calls : ∃ more, s'.calls = more ++ s.calls ∧ ∀ call ∈ more, s.now ≤ call.1

theorem State.Later.refl (s : State σ) : s.Later s := ⟨Nat.le_refl _, [], rfl, by simp⟩

theorem State.Later.trans {s₁ s₂ s₃ : State σ} (h : s₁.Later s₂) (h' : s₂.Later s₃) :
    s₁.Later s₃ := by
  obtain ⟨more, hm, hle⟩ := h.calls
  obtain ⟨more', hm', hle'⟩ := h'.calls
  refine ⟨Nat.le_trans h.now_le h'.now_le, more' ++ more, by rw [hm', hm, List.append_assoc], ?_⟩
  intro call hc
  rcases List.mem_append.mp hc with hc | hc
  · exact Nat.le_trans h.now_le (hle' call hc)
  · exact hle call hc

theorem later_of_begun {plan : Plan σ} {s s' : State σ} {phase : Phase} (hn : s.now ≤ s'.now)
    (hc : s'.calls = (begun plan s phase).calls) : s.Later s' :=
  ⟨hn, _, hc.trans (begun_calls plan s phase), by cases phase <;> simp [Phase.query?]⟩

/-- **A step goes on in time, and not beyond the horizon.** -/
theorem later_step {plan : Plan σ} {s : State σ} (phase : Phase) (h : s.now ≤ plan.guard.horizon) :
    s.Later (step plan phase s).1 ∧ (step plan phase s).1.now ≤ plan.guard.horizon := by
  rcases step_cases plan phase s with ⟨cut, -, hs⟩ | ⟨hr, now, hcase⟩
  · rw [hs]
    exact ⟨.refl s, h⟩
  have hle : s.now ≤ (plan.guard.settle (begun plan s phase).token s.now
      (completion plan s phase)).1 :=
    Guard.le_settle h (fun _ => le_completion) hr (begun_signalAt plan s phase)
  have hlt := plan.guard.settle_le_horizon (begun plan s phase).token (completion plan s phase) h
  rcases hcase with ⟨cut, hset, hs⟩ | ⟨hset, hs⟩ <;> rw [hset] at hle hlt <;> rw [hs]
  · exact ⟨later_of_begun hle rfl, hlt⟩
  · exact ⟨later_of_begun (by simpa using hle) (completed_calls ..), by simpa using hlt⟩

/-- **A step is over by the time that the awaited thing completes.** -/
theorem step_le_completion {plan : Plan σ} {phase : Phase} {s : State σ} {f : Nat}
    (hr : plan.guard.refuse? s.token s.now = none) (hf : completion plan s phase = some f) :
    (step plan phase s).1.now ≤ f := by
  have hle := plan.guard.settle_le_finish (begun plan s phase).token (le_completion hf)
  rw [← hf] at hle
  rcases step_cases plan phase s with ⟨cut, hr', -⟩ | ⟨-, now, ⟨cut, hset, hs⟩ | ⟨hset, hs⟩⟩
  · simp [hr] at hr'
  · rw [hset] at hle
    rwa [hs]
  · rw [hset] at hle
    rwa [hs, completed_now]

/-- **A wait goes on only from what has completed.** -/
theorem completed_of_step {plan : Plan σ} {phase : Phase} {s s' : State σ}
    (h : step plan phase s = (s', none)) :
    plan.guard.refuse? s.token s.now = none ∧
      plan.guard.settle (begun plan s phase).token s.now (completion plan s phase)
        = (s'.now, none) ∧
      s' = completed plan s s'.now phase ∧ ending? plan s s' phase = none := by
  rcases step_cases plan phase s with ⟨cut, -, hs⟩ | ⟨hr, now, ⟨cut, -, hs⟩ | ⟨hset, hs⟩⟩ <;>
    obtain ⟨rfl, he⟩ := Prod.mk.inj (hs.symm.trans h)
  · cases he
  · cases he
  · exact ⟨hr, by simpa using hset, by simp, he⟩

/-! ## Steps to the end -/

/-- From a phase and a state, steps lead to a verdict and the state it is given in. -/
inductive Ends (plan : Plan σ) : Phase → State σ → State σ → Verdict → Prop where
  | now {phase : Phase} {s s' : State σ} {verdict : Verdict} :
      step plan phase s = (s', some verdict) → Ends plan phase s s' verdict
  | later {phase : Phase} {s s₁ s' : State σ} {verdict : Verdict} :
      step plan phase s = (s₁, none) → Ends plan phase.next s₁ s' verdict →
      Ends plan phase s s' verdict

/-- **A wait comes to one end.** -/
theorem Ends.unique {plan : Plan σ} {phase : Phase} {s s₁ s₂ : State σ} {v₁ v₂ : Verdict}
    (h₁ : Ends plan phase s s₁ v₁) (h₂ : Ends plan phase s s₂ v₂) : s₁ = s₂ ∧ v₁ = v₂ := by
  induction h₁ with
  | now hs =>
    cases h₂ with
    | now hs' => simpa [hs] using hs'
    | later hs' => simp [hs] at hs'
  | later hs _ ih =>
    cases h₂ with
    | now hs' => simp [hs] at hs'
    | later hs' h =>
      obtain rfl : _ = _ := congrArg Prod.fst (hs.symm.trans hs')
      exact ih h

/-- **What every step keeps still holds where the last step is taken.** -/
theorem Ends.exists_last {plan : Plan σ} (Kept : Phase → State σ → Prop)
    (hstep : ∀ {phase s s'}, Kept phase s → step plan phase s = (s', none) → Kept phase.next s')
    {phase : Phase} {s s' : State σ} {verdict : Verdict} (he : Ends plan phase s s' verdict)
    (h : Kept phase s) : ∃ last s₁, Kept last s₁ ∧ step plan last s₁ = (s', some verdict) := by
  induction he with
  | now hs => exact ⟨_, _, h, hs⟩
  | later hs _ ih => exact ih (hstep h hs)

/-- **A wait ends no earlier than it stands**, and not beyond its horizon. -/
theorem Ends.later_state {plan : Plan σ} {phase : Phase} {s s' : State σ} {verdict : Verdict}
    (he : Ends plan phase s s' verdict) (h : s.now ≤ plan.guard.horizon) :
    s.Later s' ∧ s'.now ≤ plan.guard.horizon := by
  induction he with
  | @now phase s s' _ hs => simpa [hs] using later_step phase h
  | @later phase s s₁ s' _ hs _ ih =>
    have hstep := later_step phase h
    rw [hs] at hstep
    exact ⟨hstep.1.trans (ih hstep.2).1, (ih hstep.2).2⟩

/-- What ends a wait of itself is a result. -/
theorem ending?_returned {plan : Plan σ} {s s' : State σ} {phase : Phase} {verdict : Verdict}
    (h : ending? plan s s' phase = some verdict) : ∃ result, verdict = .returned result := by
  cases phase with
  | tick => cases h
  | status =>
    rcases ha : (plan.supervisor.status plan.service s.world).1.answer with source | state <;>
      simp only [ending?, ha, statusEnding?] at h
    · exact ⟨_, (Option.some.inj h).symm⟩
    · split at h
      · cases h
      · exact ⟨_, (Option.some.inj h).symm⟩
  | probe =>
    rcases ha : (plan.probe.check s.world).1.answer <;> simp only [ending?, ha, probeEnding?] at h
    · exact ⟨_, (Option.some.inj h).symm⟩
    · exact ⟨_, (Option.some.inj h).symm⟩
    · cases h

/-- **A wait returns, or is still going on at the horizon.** -/
theorem Ends.returned_or_unwatched {plan : Plan σ} {phase : Phase} {s s' : State σ}
    {verdict : Verdict} (he : Ends plan phase s s' verdict) :
    (∃ result, verdict = .returned result) ∨
      verdict = .unwatched ∧ s'.now = plan.guard.horizon := by
  induction he with
  | later _ _ ih => exact ih
  | @now phase s s' verdict hs =>
    rcases step_cases plan phase s with ⟨cut, hr, hs'⟩ | ⟨-, now, ⟨cut, hset, hs'⟩ | ⟨-, hs'⟩⟩ <;>
      obtain ⟨rfl, he⟩ := Prod.mk.inj (hs'.symm.trans hs)
    · obtain rfl := Option.some.inj he
      cases cut with
      | cancelled | timedOut => exact .inl ⟨_, rfl⟩
      | unwatched => exact absurd hr (plan.guard.refuse?_ne_unwatched _ _)
    · obtain rfl := Option.some.inj he
      cases cut with
      | cancelled | timedOut => exact .inl ⟨_, rfl⟩
      | unwatched => exact .inr ⟨rfl, Guard.settle_eq_unwatched hset⟩
    · exact .inl (ending?_returned he)

/-! ## Rounds enough -/

/-- **A check that does not end the wait leaves the next one a later tick.** -/
theorem check_goes_on {plan : Plan σ} {s s' : State σ} (h : s.now ≤ plan.guard.horizon)
    (hc : check plan s = (s', none)) :
    s.ticker.due ≤ plan.guard.horizon ∧ s.ticker.due < s'.ticker.due ∧
      s'.now ≤ plan.guard.horizon ∧
      ∀ {s₂ verdict}, Ends plan .tick s' s₂ verdict → Ends plan .tick s s₂ verdict := by
  rw [check_eq_steps] at hc
  rcases h₁ : step plan .tick s with ⟨s₁, _ | v₁⟩ <;> simp only [h₁] at hc
  case some => cases hc
  rcases h₂ : step plan .status s₁ with ⟨s₂, _ | v₂⟩ <;> simp only [h₂] at hc
  case some => cases hc
  have hle₁ : s₁.now ≤ plan.guard.horizon := by simpa [h₁] using (later_step .tick h).2
  have hle₂ : s₂.now ≤ plan.guard.horizon := by simpa [h₂] using (later_step .status hle₁).2
  have hle' : s'.now ≤ plan.guard.horizon := by simpa [hc] using (later_step .probe hle₂).2
  obtain ⟨-, hset, htick, -⟩ := completed_of_step h₁
  obtain ⟨-, -, hstatus, -⟩ := completed_of_step h₂
  obtain ⟨-, -, hprobe, -⟩ := completed_of_step hc
  have hdue : max s.now s.ticker.due = s₁.now := Option.some.inj (Guard.settle_eq_none hset)
  have hticker : s'.ticker = s.ticker.advance s₁.now := by
    rw [hprobe, hstatus, htick]
    rfl
  refine ⟨by omega, ?_, hle', fun he => .later h₁ (.later h₂ (.later hc he))⟩
  rw [hticker]
  exact s.ticker.due_lt_due_advance _

theorem ends_of_check {plan : Plan σ} {s s' : State σ} {verdict : Verdict}
    (hc : check plan s = (s', some verdict)) : Ends plan .tick s s' verdict := by
  rw [check_eq_steps] at hc
  rcases h₁ : step plan .tick s with ⟨s₁, _ | v₁⟩ <;> simp only [h₁] at hc
  · rcases h₂ : step plan .status s₁ with ⟨s₂, _ | v₂⟩ <;> simp only [h₂] at hc
    · exact .later h₁ (.later h₂ (.now hc))
    · exact .later h₁ (.now (h₂.trans hc))
  · exact .now (h₁.trans hc)

/-- **Rounds enough take a wait to its end.** -/
theorem ends_checks {plan : Plan σ} (n : Nat) {s : State σ} (h : s.now ≤ plan.guard.horizon)
    (hn : plan.guard.horizon < s.ticker.due + n) :
    Ends plan .tick s (checks plan (n + 1) s).1 (checks plan (n + 1) s).2 := by
  induction n generalizing s with
  | zero =>
    rcases hc : check plan s with ⟨s', _ | verdict⟩
    · have := (check_goes_on h hc).1
      omega
    · simpa only [checks, hc] using ends_of_check hc
  | succ n ih =>
    rcases hc : check plan s with ⟨s', _ | verdict⟩
    · obtain ⟨-, hdue, hnow, hends⟩ := check_goes_on h hc
      rw [checks, hc]
      exact hends (ih hnow (by omega))
    · rw [checks, hc]
      exact ends_of_check hc

end Sidecar.Wait
