import Sidecar.Proofs.Wait.Discipline
import Sidecar.Proofs.Wait.Verdict

/-!
# Proofs/Wait/Mirror — a wait sees its world in its calls alone

Two waits on different worlds go the same way as long as they make the same calls (`Ends.mirror`).
So **a wait that nothing disturbs is the wait on its answers** (`IsUndisturbed.watch_mirror`), and
ends as they decide: with the first check that does (`IsUndisturbed.exists_endsWith`), or never
(`IsUndisturbed.goesOn`).
-/

namespace Sidecar

open Wait

variable {σ τ : Type}

/-- The call is answered and signals nothing. -/
def Call.IsPlain {α : Type} (c : Call α) : Prop := ∃ delay, c = .after delay c.answer

theorem Call.IsPlain.after_eq {α : Type} {c : Call α} (h : c.IsPlain) :
    .after (c.delay.getD 0) c.answer = c := by
  obtain ⟨delay, hc⟩ := h
  rw [hc]
  rfl

namespace Wait

/-! ## Waits that make the same calls -/

/-- Two states that differ in their worlds alone. -/
structure State.Alike (s : State σ) (t : State τ) : Prop where
  now_eq : t.now = s.now
  token_eq : t.token = s.token
  ticker_eq : t.ticker = s.ticker
  ticks_eq : t.ticks = s.ticks
  calls_eq : t.calls = s.calls

/-- Two plans that differ in their worlds alone. -/
structure Plan.Alike (plan : Plan σ) (plan' : Plan τ) : Prop where
  service_eq : plan'.service = plan.service
  address_eq : plan'.probe.address = plan.probe.address
  guard_eq : plan'.guard = plan.guard
  started_eq : plan'.started = plan.started

/-- In these worlds the plans make the same call. -/
def Plan.SameCall (plan : Plan σ) (plan' : Plan τ) : Phase → σ → τ → Prop
  | .tick, _, _ => True
  | .status, world, world' => (plan'.supervisor.status plan'.service world').1
      = (plan.supervisor.status plan.service world).1
  | .probe, world, world' => (plan'.probe.check world').1 = (plan.probe.check world).1

/-- The world after a phase that begins in `world`. -/
def Plan.worldAfter (plan : Plan σ) : Phase → σ → σ
  | .tick, world => world
  | .status, world => (plan.supervisor.status plan.service world).2
  | .probe, world => (plan.probe.check world).2

theorem begun_world (plan : Plan σ) (s : State σ) (phase : Phase) :
    (begun plan s phase).world = plan.worldAfter phase s.world := by
  cases phase <;> rfl

section Alike

variable {plan : Plan σ} {plan' : Plan τ} {s s₁ : State σ} {t t₁ : State τ} {phase : Phase}

theorem State.Alike.begun (h : s.Alike t)
    (hcall : plan.SameCall plan' phase s.world t.world) :
    (begun plan s phase).Alike (begun plan' t phase) := by
  cases phase with
  | tick => exact h
  | status | probe =>
    have hcall : _ = _ := hcall
    refine ⟨h.now_eq, ?_, h.ticker_eq, h.ticks_eq, ?_⟩
    · simp only [Wait.begun, State.called, hcall, h.token_eq]
    · simp only [Wait.begun, State.called, h.now_eq, h.calls_eq]

theorem State.Alike.completion_eq (h : s.Alike t)
    (hcall : plan.SameCall plan' phase s.world t.world) :
    completion plan' t phase = completion plan s phase := by
  cases phase with
  | tick => simp only [completion, h.now_eq, h.ticker_eq]
  | status | probe =>
    have hcall : _ = _ := hcall
    simp only [completion, hcall, h.now_eq]

theorem State.Alike.at (h : s.Alike t) (now : Nat) :
    State.Alike { s with now } { t with now } :=
  { h with now_eq := rfl }

/-- **What has been alike stays alike** when a step is completed. -/
theorem State.Alike.completed (h : s.Alike t)
    (hcall : plan.SameCall plan' phase s.world t.world) (now : Nat) :
    (completed plan s now phase).Alike (completed plan' t now phase) := by
  cases phase with
  | tick =>
    refine ⟨rfl, h.token_eq, ?_, ?_, h.calls_eq⟩
    · simp only [Wait.completed, h.ticker_eq]
    · simp only [Wait.completed, h.ticks_eq]
  | status | probe => exact (h.begun hcall).at now

theorem State.Alike.cutEnding_eq (hplan : plan.Alike plan') (h : s.Alike t) (cut : Cut) :
    cutEnding plan' t cut = cutEnding plan s cut := by
  cases cut <;>
    simp only [cutEnding, hplan.service_eq, hplan.started_eq, h.now_eq, h.ticks_eq]

theorem State.Alike.ending?_eq (hplan : plan.Alike plan')
    (hcall : plan.SameCall plan' phase s.world t.world) (h₁ : s₁.Alike t₁) :
    ending? plan' t t₁ phase = ending? plan s s₁ phase := by
  cases phase with
  | tick => rfl
  | status =>
    have hcall : _ = _ := hcall
    rw [ending?, ending?, hcall]
    cases (plan.supervisor.status plan.service s.world).1.answer <;>
      simp only [statusEnding?, hplan.service_eq]
  | probe =>
    have hcall : _ = _ := hcall
    rw [ending?, ending?, hcall]
    cases (plan.probe.check s.world).1.answer <;>
      simp only [probeEnding?, hplan.address_eq, hplan.started_eq, h₁.now_eq, h₁.ticks_eq]

/-- **A step sees its world in its call alone.** -/
theorem step_alike (hplan : plan.Alike plan') (h : s.Alike t)
    (hcall : plan.SameCall plan' phase s.world t.world) :
    (step plan' phase t).2 = (step plan phase s).2 ∧
      (step plan phase s).1.Alike (step plan' phase t).1 := by
  have hbegun := h.begun hcall
  have hrefuse : plan'.guard.refuse? t.token t.now = plan.guard.refuse? s.token s.now := by
    rw [hplan.guard_eq, h.token_eq, h.now_eq]
  have hsettle : plan'.guard.settle (begun plan' t phase).token t.now (completion plan' t phase)
      = plan.guard.settle (begun plan s phase).token s.now (completion plan s phase) := by
    rw [hplan.guard_eq, hbegun.token_eq, h.now_eq, h.completion_eq hcall]
  rcases step_cases plan phase s with ⟨cut, hr, hs⟩ | ⟨hr, now, ⟨cut, hset, hs⟩ | ⟨hset, hs⟩⟩
  · rw [hs, step_of_refused (hrefuse.trans hr)]
    exact ⟨congrArg some (h.cutEnding_eq hplan cut), h⟩
  · rw [hs, step_of_cut (hrefuse.trans hr) (hsettle.trans hset)]
    exact ⟨congrArg some ((hbegun.at now).cutEnding_eq hplan cut), hbegun.at now⟩
  · rw [hs, step_of_completed (hrefuse.trans hr) (hsettle.trans hset)]
    have hcompleted := h.completed hcall now
    exact ⟨State.Alike.ending?_eq hplan hcall hcompleted, hcompleted⟩

/-- **Waits that make the same calls come to the same end.**  `Same` holds of their worlds before
each phase. -/
theorem Ends.mirror (hplan : plan.Alike plan') {Same : Phase → σ → τ → Prop}
    (hcall : ∀ {phase world world'}, Same phase world world' →
      plan.SameCall plan' phase world world' ∧
        Same phase.next (plan.worldAfter phase world) (plan'.worldAfter phase world'))
    {verdict : Verdict} (he : Ends plan phase s s₁ verdict) (h : s.Alike t)
    (hsame : Same phase s.world t.world) :
    ∃ t₁, Ends plan' phase t t₁ verdict ∧ s₁.Alike t₁ := by
  induction he generalizing t with
  | @now phase s s₁ verdict hs =>
    obtain ⟨hverdict, halike⟩ := step_alike hplan h (hcall hsame).1
    rw [hs] at hverdict halike
    exact ⟨_, .now (Prod.ext rfl hverdict), halike⟩
  | @later phase s s₂ s₁ verdict hs _ ih =>
    obtain ⟨hverdict, halike⟩ := step_alike hplan h (hcall hsame).1
    rw [hs] at hverdict halike
    have ht : step plan' phase t = ((step plan' phase t).1, none) := Prod.ext rfl hverdict
    have hworld : s₂.world = plan.worldAfter phase s.world := by
      rw [(completed_of_step hs).2.2.1, completed_world, begun_world]
    have hworld' : (step plan' phase t).1.world = plan'.worldAfter phase t.world := by
      rw [(completed_of_step ht).2.2.1, completed_world, begun_world]
    obtain ⟨t₁, hends, h₁⟩ := ih halike (hworld ▸ hworld' ▸ (hcall hsame).2)
    exact ⟨t₁, .later ht hends, h₁⟩

end Alike

end Wait

/-! ## The answers that a wait gets -/

/-- **Scripted answers leave the token alone.** -/
theorem Answers.token_of_ends {a : Answers} {d : Delays} {service address : String}
    {started horizon : Nat} {phase : Phase} {s s' : State (Nat × Nat)} {verdict : Verdict}
    (he : Ends (a.plan d service address started horizon) phase s s' verdict) :
    s'.token = s.token := by
  have hstep : ∀ {phase s s' verdict?},
      step (a.plan d service address started horizon) phase s = (s', verdict?) →
      s'.token = s.token := by
    intro phase s s' verdict? hs
    rcases step_cases (a.plan d service address started horizon) phase s with
      ⟨cut, -, hs'⟩ | ⟨-, now, ⟨cut, -, hs'⟩ | ⟨-, hs'⟩⟩ <;>
      obtain ⟨rfl, -⟩ := Prod.mk.inj (hs'.symm.trans hs)
    · rfl
    · exact begun_token
    · rw [completed_token]
      exact begun_token
  induction he with
  | now hs => exact hstep hs
  | later hs _ ih => exact ih.trans (hstep hs)

namespace Scenario

variable (w : Scenario σ)

/-- The world that check `n` finds, **if it comes to that check.** -/
def worldAt : Nat → σ
  | 0 => w.world
  | n + 1 => (w.probe.check (w.supervisor.status w.service (worldAt n)).2).2

/-- The status call of check `n`. -/
def statusAt (n : Nat) : Call (Except SupervisorError ProcessState) × σ :=
  w.supervisor.status w.service (w.worldAt n)

/-- The probe of check `n`. -/
def probeAt (n : Nat) : Call ProbeOutcome × σ := w.probe.check (w.statusAt n).2

/-- The world that check `k` leaves, **if it is the last.** -/
def worldAfter (k : Nat) : σ :=
  if (w.statusAt k).1.answer = .ok .running then (w.probeAt k).2 else (w.statusAt k).2

/-- What the world answers, query by query. -/
def answers : Answers := ⟨fun n => (w.statusAt n).1.answer, fun n => (w.probeAt n).1.answer⟩

/-- How long the world takes, query by query. -/
def delays : Delays :=
  ⟨fun n => (w.statusAt n).1.delay.getD 0, fun n => (w.probeAt n).1.delay.getD 0⟩

/-- The wait on the answers that `w` gets. -/
def mirror : Scenario (Nat × Nat) :=
  w.answers.wait w.delays w.service w.probe.address w.settings.tick w.started

/-- Nothing but an answer ends the wait. -/
structure IsUndisturbed : Prop where
  tick_pos : 0 < w.settings.tick
  maxWait : w.settings.maxWait = none
  token : w.token = .fresh
  statuses : ∀ n, (w.statusAt n).1.IsPlain
  probes : ∀ n, (w.probeAt n).1.IsPlain

/-- The worlds of `w` and of its mirror before a phase. -/
def Mirrors (phase : Phase) (world : σ) (counts : Nat × Nat) : Prop :=
  ∃ n, world = (if phase = .probe then (w.statusAt n).2 else w.worldAt n) ∧
    counts = if phase = .probe then (n + 1, n) else (n, n)

variable {w}

theorem after_undecidedCalls (horizon n : Nat) :
    (w.plan horizon).after w.world (Answers.undecidedCalls n) = w.worldAt n := by
  induction n with
  | zero => rfl
  | succ n ih =>
    rw [Answers.undecidedCalls, Plan.after_append, ih]
    rfl

/-- **The calls up to a check that decides leave its world.** -/
theorem after_lastCalls (horizon k : Nat) :
    (w.plan horizon).after w.world (Answers.undecidedCalls k ++ w.answers.lastCalls k)
      = w.worldAfter k := by
  rw [Plan.after_append, after_undecidedCalls, worldAfter]
  split
  · rename_i hrunning
    rw [Answers.lastCalls_of_running hrunning]
    rfl
  · rename_i hnot
    rw [Answers.lastCalls_of_not_running hnot]
    rfl

/-- **A wait leaves the world as its calls have left it.** -/
theorem world_watch (ht : 0 < w.settings.tick) {horizon : Nat} (hle : w.started ≤ horizon) :
    (w.watch horizon).world
      = (w.plan horizon).after w.world ((w.watch horizon).calls.map Prod.snd) := by
  obtain ⟨-, -, -, s, verdict, xs, -, -, hrecorded, -, hwatch⟩ := w.exists_recorded ht hle
  rw [hwatch]
  exact hrecorded.after.symm

/-- **A step in the world is a step in the mirror.** -/
theorem Mirrors.step (h : w.IsUndisturbed) (horizon : Nat) {phase : Phase} {world : σ}
    {counts : Nat × Nat} (hm : w.Mirrors phase world counts) :
    (w.plan horizon).SameCall (w.mirror.plan horizon) phase world counts ∧
      w.Mirrors phase.next ((w.plan horizon).worldAfter phase world)
        ((w.mirror.plan horizon).worldAfter phase counts) := by
  obtain ⟨n, rfl, rfl⟩ := hm
  cases phase with
  | tick => exact ⟨trivial, n, rfl, rfl⟩
  | status => exact ⟨(h.statuses n).after_eq, n, rfl, rfl⟩
  | probe => exact ⟨(h.probes n).after_eq, n + 1, rfl, rfl⟩

namespace IsUndisturbed

variable (h : w.IsUndisturbed)
include h

theorem plan_alike (horizon : Nat) : (w.plan horizon).Alike (w.mirror.plan horizon) :=
  ⟨rfl, rfl, by simp [plan, mirror, Answers.wait, h.maxWait], rfl⟩

theorem initial_alike : (w.initial h.tick_pos).Alike (w.mirror.initial h.tick_pos) :=
  ⟨rfl, h.token.symm, rfl, rfl, rfl⟩

/-- **An undisturbed wait and the wait on its answers are seen to do the same.** -/
theorem watch_mirror {horizon : Nat} (hle : w.started ≤ horizon) :
    (w.watch horizon).ending = (w.mirror.watch horizon).ending ∧
      (w.watch horizon).now = (w.mirror.watch horizon).now ∧
      (w.watch horizon).token = (w.mirror.watch horizon).token ∧
      (w.watch horizon).calls = (w.mirror.watch horizon).calls := by
  obtain ⟨s, verdict, hends, hwatch⟩ := w.ends_watch h.tick_pos hle
  obtain ⟨t, hends', halike⟩ := hends.mirror (h.plan_alike horizon) (Mirrors.step h horizon)
    h.initial_alike ⟨0, rfl, rfl⟩
  have hwatch' := w.mirror.watch_of_ends h.tick_pos hle hends'
  rw [hwatch, hwatch']
  exact ⟨rfl, halike.now_eq.symm, halike.token_eq.symm, by
    rw [State.outcome, State.outcome, halike.calls_eq]⟩

/-- An undisturbed wait leaves its token fresh. -/
theorem token_watch {horizon : Nat} (hle : w.started ≤ horizon) :
    (w.watch horizon).token = .fresh := by
  obtain ⟨s, verdict, hends, hwatch⟩ := w.mirror.ends_watch h.tick_pos hle
  rw [(h.watch_mirror hle).2.2.1, hwatch]
  exact w.answers.token_of_ends hends

/-- **The first check whose answers decide ends the wait**, with its verdict and its calls. -/
theorem exists_endsWith {k : Nat} (hk : w.answers.Decides k)
    (hleast : ∀ i < k, ¬ w.answers.Decides i) :
    ∃ o result, w.EndsWith o ∧ o.ending = .returned result ∧
      w.answers.verdict? w.service w.probe.address k (o.now - w.started) = some result ∧
      o.token = .fresh ∧ o.world = w.worldAfter k := by
  obtain ⟨o', result, ⟨hne, near, hnear⟩, hret, hv, hcalls⟩ :=
    w.answers.exists_endsWith w.delays w.service w.probe.address h.tick_pos w.started hk hleast
  have hle : w.started ≤ max w.started near := Nat.le_max_left _ _
  have hmirror : w.mirror.watch (max w.started near) = o' := hnear _ (Nat.le_max_right _ _)
  obtain ⟨hending, hnow, -, hsame⟩ := h.watch_mirror hle
  rw [hmirror] at hending hnow hsame
  refine ⟨w.watch (max w.started near), result, ?_, hending.trans hret, hnow ▸ hv,
    h.token_watch hle, ?_⟩
  · exact w.endsWith_watch h.tick_pos hle (hending ▸ hne)
  · rw [w.world_watch h.tick_pos hle, hsame, hcalls, after_lastCalls]

/-- **While no answer decides, the wait is going on at every horizon.** -/
theorem goesOn (hn : ∀ k, ¬ w.answers.Decides k) : w.GoesOn := by
  intro horizon hle
  rw [(h.watch_mirror hle).1]
  exact w.answers.goesOn w.delays w.service w.probe.address h.tick_pos w.started hn horizon hle

end IsUndisturbed

end Scenario

end Sidecar
