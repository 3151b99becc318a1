import Mathlib.Data.Nat.Find
import Sidecar.Proofs.Wait.Scenario

/-!
# Proofs/Wait/Verdict — the answers alone decide how an undisturbed wait ends

With no deadline and no signal a wait is decided by two sequences of answers.  **The first check
whose answers decide gives the verdict, whatever the calls' delays** (`returns_first_decision`); if
no check decides, the wait goes on for ever.
-/

namespace Sidecar

open Wait

/-- What a supervisor and a probe answer, call by call. -/
structure Answers where
  statuses : Nat → Except SupervisorError ProcessState
  probes : Nat → ProbeOutcome

/-- How long they take to answer, call by call. -/
structure Delays where
  statuses : Nat → Nat
  probes : Nat → Nat

namespace Answers

/-- A supervisor that gives the answers in order; it counts the calls of both kinds. -/
def supervisor (a : Answers) (d : Delays) : Supervisor (Nat × Nat) where
  start _ n := (.now (.ok ()), n)
  stop _ n := (.now (.ok ()), n)
  status _ n := (.after (d.statuses n.1) (a.statuses n.1), (n.1 + 1, n.2))

/-- The check that finds these answers, each after its delay. -/
def probe (a : Answers) (d : Delays) (address : String) : Probe (Nat × Nat) where
  address
  check n := (.after (d.probes n.2) (a.probes n.2), (n.1, n.2 + 1))

/-- A wait on these answers that nothing disturbs. -/
def wait (a : Answers) (d : Delays) (service address : String) (tick started : Nat) :
    Scenario (Nat × Nat) :=
  ⟨a.supervisor d, a.probe d address, service, ⟨tick, none⟩, started, .fresh, (0, 0)⟩

/-- Whether the answers to check `k` end the wait. -/
def Decides (a : Answers) (k : Nat) : Prop :=
  a.statuses k ≠ .ok .running ∨ ∀ reason, a.probes k ≠ .unreachable reason

/-- The verdict on the answers to check `k`, reached `elapsed` milliseconds after the start; `none`
if the answers do not decide. -/
def verdict? (a : Answers) (service address : String) (k elapsed : Nat) :
    Option (Except WaitError WaitReport) :=
  match a.statuses k with
  | .error source => some (.error (.statusQueryFailed service source))
  | .ok .running =>
    match a.probes k with
    | .ready => some (.ok ⟨k + 1, elapsed⟩)
    | .rejected status reason => some (.error (.readinessRejected address status reason))
    | .unreachable _ => none
  | .ok state => some (.error (.processNotRunning service state))

/-- The calls of `n` checks that decide nothing. -/
def undecidedCalls : Nat → List Query
  | 0 => []
  | n + 1 => undecidedCalls n ++ [.status, .probe]

/-- The calls of the check that decides: **the probe is asked only about a running service.** -/
def lastCalls (a : Answers) (k : Nat) : List Query :=
  match a.statuses k with
  | .ok .running => [.status, .probe]
  | _ => [.status]

theorem lastCalls_of_running {a : Answers} {k : Nat} (h : a.statuses k = .ok .running) :
    a.lastCalls k = [.status, .probe] := by simp [lastCalls, h]

theorem lastCalls_of_not_running {a : Answers} {k : Nat} (h : a.statuses k ≠ .ok .running) :
    a.lastCalls k = [.status] := by
  unfold lastCalls
  split
  · exact absurd ‹_› h
  · rfl

/-- A check that decides nothing asks each query once. -/
theorem count_undecidedCalls (n : Nat) (query : Query) : (undecidedCalls n).count query = n := by
  induction n with
  | zero => rfl
  | succ n ih =>
    rw [undecidedCalls, List.count_append, ih]
    cases query <;> rfl

/-! ## A step that nothing disturbs -/

/-- The plan of an unlimited wait that these answers meet. -/
def plan (a : Answers) (d : Delays) (service address : String) (started horizon : Nat) :
    Plan (Nat × Nat) :=
  ⟨service, a.supervisor d, a.probe d address, ⟨none, horizon⟩, started⟩

/-- When the awaited thing completes. -/
def finish (d : Delays) (s : State (Nat × Nat)) : Phase → Nat
  | .tick => s.ticker.completion s.now
  | .status => s.now + d.statuses s.world.1
  | .probe => s.now + d.probes s.world.2

/-- The state in which it has completed. -/
def passed (d : Delays) (s : State (Nat × Nat)) : Phase → State (Nat × Nat)
  | .tick =>
    let now := finish d s .tick
    { s with now, ticker := s.ticker.advance now, ticks := s.ticks + 1 }
  | .status =>
    { s with
      now := finish d s .status
      calls := (s.now, .status) :: s.calls
      world := (s.world.1 + 1, s.world.2) }
  | .probe =>
    { s with
      now := finish d s .probe
      calls := (s.now, .probe) :: s.calls
      world := (s.world.1, s.world.2 + 1) }

/-- **Time does not run back.** -/
theorem le_passed (d : Delays) (s : State (Nat × Nat)) (phase : Phase) :
    s.now ≤ (passed d s phase).now := by
  cases phase with
  | tick => exact Nat.le_max_left _ _
  | status | probe => exact Nat.le_add_right _ _

section Step

variable {a : Answers} {d : Delays} {service address : String} {started horizon : Nat}
  {s : State (Nat × Nat)} {phase : Phase}

/-- **With no deadline and no signal, only the horizon can come before the completion.** -/
theorem settle_fresh (g : Guard) (hd : g.deadline = none) {now time : Nat} :
    g.settle .fresh now (some time) =
      if time = now ∨ time ≤ g.horizon then (time, none) else (g.horizon, some .unwatched) := by
  grind [Guard.settle, Token.fresh, Token.isSignalled]

theorem completion_plan :
    completion (a.plan d service address started horizon) s phase
      = some (passed d s phase).now := by
  cases phase <;> rfl

theorem begun_token :
    (begun (a.plan d service address started horizon) s phase).token = s.token := by
  cases phase <;> rfl

theorem completed_plan :
    completed (a.plan d service address started horizon) s (passed d s phase).now phase
      = passed d s phase := by
  cases phase <;> rfl

theorem refuse?_fresh (htoken : s.token = .fresh) :
    (a.plan d service address started horizon).guard.refuse? s.token s.now = none := by
  rw [htoken]
  rfl

/-- **A step that ends by the horizon is seen to its end.** -/
theorem step_of_le (htoken : s.token = .fresh) (h : (passed d s phase).now ≤ horizon) :
    step (a.plan d service address started horizon) phase s =
      (passed d s phase,
        ending? (a.plan d service address started horizon) s (passed d s phase) phase) := by
  have hset : (a.plan d service address started horizon).guard.settle
      (begun (a.plan d service address started horizon) s phase).token s.now
      (completion (a.plan d service address started horizon) s phase)
        = ((passed d s phase).now, none) := by
    rw [begun_token, completion_plan, htoken, settle_fresh _ rfl, if_pos (.inr h)]
  rw [step_of_completed (refuse?_fresh htoken) hset, completed_plan]

variable (a service address started) in
/-- **A step that ends beyond the horizon is not.** -/
theorem step_of_gt (htoken : s.token = .fresh) (hnow : s.now ≤ horizon)
    (h : horizon < (passed d s phase).now) :
    ∃ s', step (a.plan d service address started horizon) phase s = (s', some .unwatched) := by
  have hset : (a.plan d service address started horizon).guard.settle
      (begun (a.plan d service address started horizon) s phase).token s.now
      (completion (a.plan d service address started horizon) s phase)
        = (horizon, some .unwatched) := by
    rw [begun_token, completion_plan, htoken, settle_fresh _ rfl, if_neg]
    · rfl
    · simp only [plan]
      omega
  exact ⟨_, step_of_cut (refuse?_fresh htoken) hset⟩

end Step

/-! ## Where an undisturbed wait stands -/

/-- The wait has made `n` checks and awaits `phase` in the next one. -/
structure Stands (n : Nat) (phase : Phase) (s : State (Nat × Nat)) : Prop where
  token : s.token = .fresh
  ticks : s.ticks = if phase = .tick then n else n + 1
  world : s.world = if phase = .probe then (n + 1, n) else (n, n)
  calls : s.calls.reverse.map Prod.snd
    = undecidedCalls n ++ if phase = .probe then [.status] else []

namespace Stands

variable {n : Nat} {s : State (Nat × Nat)}

theorem passed_tick (h : Stands n .tick s) (d : Delays) : Stands n .status (passed d s .tick) :=
  ⟨h.token, by simp [passed, h.ticks], by simp [passed, h.world], by simpa [passed] using h.calls⟩

theorem passed_status (h : Stands n .status s) (d : Delays) :
    Stands n .probe (passed d s .status) :=
  ⟨h.token, by simp [passed, h.ticks], by simp [passed, h.world], by
    simpa [passed] using congrArg (· ++ [Query.status]) h.calls⟩

theorem passed_probe (h : Stands n .probe s) (d : Delays) :
    Stands (n + 1) .tick (passed d s .probe) :=
  ⟨h.token, by simp [passed, h.ticks], by simp [passed, h.world], by
    simpa [passed, undecidedCalls] using congrArg (· ++ [Query.probe]) h.calls⟩

/-- **The wait moves on phase by phase.** -/
theorem passed {phase : Phase} (h : Stands n phase s) (d : Delays) :
    ∃ n', Stands n' phase.next (passed d s phase) := by
  cases phase with
  | tick => exact ⟨n, h.passed_tick d⟩
  | status => exact ⟨n, h.passed_status d⟩
  | probe => exact ⟨n + 1, h.passed_probe d⟩

end Stands

/-- **A check decides nothing if the service runs and the node is not reached.** -/
theorem not_decides_iff (a : Answers) (k : Nat) :
    ¬ a.Decides k ↔ a.statuses k = .ok .running ∧ ∃ reason, a.probes k = .unreachable reason := by
  simp [Decides]

/-! ## A round of three steps -/

/-- If it is watched for so long, the wait comes from `s` to `s'`; it awaits a tick in both. -/
structure LeadsTo (a : Answers) (d : Delays) (service address : String) (started : Nat)
    (s s' : State (Nat × Nat)) : Prop where
  now_le : s.now ≤ s'.now
  ends : ∀ horizon, s'.now ≤ horizon → ∀ {s₂ verdict},
    Ends (a.plan d service address started horizon) .tick s' s₂ verdict →
    Ends (a.plan d service address started horizon) .tick s s₂ verdict

section Round

variable {a : Answers} {d : Delays} {service address : String} {started : Nat} {n : Nat}
  {s : State (Nat × Nat)}

theorem LeadsTo.trans {s₁ s₂ s₃ : State (Nat × Nat)} (h : LeadsTo a d service address started s₁ s₂)
    (h' : LeadsTo a d service address started s₂ s₃) :
    LeadsTo a d service address started s₁ s₃ :=
  ⟨Nat.le_trans h.now_le h'.now_le, fun horizon hle _ _ he =>
    h.ends horizon (Nat.le_trans h'.now_le hle) (h'.ends horizon hle he)⟩

theorem ending?_status (h : Stands n .status s) (horizon : Nat) (s' : State (Nat × Nat)) :
    ending? (a.plan d service address started horizon) s s' .status
      = statusEnding? (a.plan d service address started horizon) (a.statuses n) := by
  simp [ending?, plan, supervisor, Call.after, h.world]

theorem ending?_probe (h : Stands n .probe s) (horizon : Nat) (s' : State (Nat × Nat)) :
    ending? (a.plan d service address started horizon) s s' .probe
      = probeEnding? (a.plan d service address started horizon) s' (a.probes n) := by
  simp [ending?, plan, probe, Call.after, h.world]

/-- **A step that decides nothing leads to the next one.** -/
theorem ends_of_passed (phase : Phase) (htoken : s.token = .fresh) {horizon : Nat}
    (h : (passed d s phase).now ≤ horizon)
    (he : ending? (a.plan d service address started horizon) s (passed d s phase) phase = none)
    {s' : State (Nat × Nat)} {verdict : Verdict}
    (hends : Ends (a.plan d service address started horizon) phase.next (passed d s phase) s'
      verdict) :
    Ends (a.plan d service address started horizon) phase s s' verdict :=
  .later ((step_of_le htoken h).trans (by rw [he])) hends

theorem ending?_of_not_decides {phase : Phase} (h : Stands n phase s) (hn : ¬ a.Decides n)
    (horizon : Nat) (s' : State (Nat × Nat)) :
    ending? (a.plan d service address started horizon) s s' phase = none := by
  obtain ⟨hstatus, reason, hprobe⟩ := (a.not_decides_iff n).mp hn
  cases phase with
  | tick => rfl
  | status => rw [ending?_status h, hstatus]; rfl
  | probe => rw [ending?_probe h, hprobe]; rfl

/-- **Where no check decides, only the horizon ends a wait.** -/
theorem unwatched_of_undecided (hn : ∀ k, ¬ a.Decides k) {horizon : Nat} {phase : Phase}
    {s' : State (Nat × Nat)} {verdict : Verdict}
    (he : Ends (a.plan d service address started horizon) phase s s' verdict)
    (h : Stands n phase s) (hnow : s.now ≤ horizon) : verdict = .unwatched := by
  induction he generalizing n with
  | @now phase s s' verdict hs =>
    by_cases hle : (passed d s phase).now ≤ horizon
    · rw [step_of_le h.token hle, ending?_of_not_decides h (hn n)] at hs
      cases hs
    · obtain ⟨s₁, hgt⟩ := step_of_gt a service address started h.token hnow
        (Nat.lt_of_not_le hle)
      rw [hgt] at hs
      cases hs
      rfl
  | @later phase s s₁ s' verdict hs _ ih =>
    by_cases hle : (passed d s phase).now ≤ horizon
    · rw [step_of_le h.token hle, ending?_of_not_decides h (hn n)] at hs
      cases hs
      obtain ⟨n', h'⟩ := h.passed d
      exact ih h' hle
    · obtain ⟨s₂, hgt⟩ := step_of_gt a service address started h.token hnow
        (Nat.lt_of_not_le hle)
      rw [hgt] at hs
      cases hs

variable (d service address started) in
/-- **A check that does not decide leads to the next one.** -/
theorem exists_next (h : Stands n .tick s) (hn : ¬ a.Decides n) :
    ∃ s', Stands (n + 1) .tick s' ∧ LeadsTo a d service address started s s' := by
  have h₁ := h.passed_tick d
  have h₂ := h₁.passed_status d
  have hle₁ := le_passed d s .tick
  have hle₂ := le_passed d (passed d s .tick) .status
  have hle₃ := le_passed d (passed d (passed d s .tick) .status) .probe
  refine ⟨_, h₂.passed_probe d, by omega, fun horizon hle s₂ verdict he => ?_⟩
  have he₂ := ends_of_passed .probe h₂.token hle (ending?_of_not_decides h₂ hn ..) he
  have he₁ := ends_of_passed .status h₁.token (by omega) (ending?_of_not_decides h₁ hn ..) he₂
  exact ends_of_passed .tick h.token (by omega) rfl he₁

variable (d service address started) in
/-- A status that is not running is the verdict. -/
theorem statusEnding?_eq_verdict (hstatus : a.statuses n ≠ .ok .running) (elapsed : Nat) :
    ∃ result, a.verdict? service address n elapsed = some result ∧
      ∀ horizon, statusEnding? (a.plan d service address started horizon) (a.statuses n)
        = some (.returned result) := by
  rcases ha : a.statuses n with source | state
  · exact ⟨.error (.statusQueryFailed service source), by simp [verdict?, ha], fun _ => rfl⟩
  · refine ⟨.error (.processNotRunning service state), ?_, fun _ => ?_⟩
    · cases state <;> simp_all [verdict?]
    · cases state with
      | running => exact absurd ha hstatus
      | stopped | pending | failing | unknown => rfl

variable (d service address started) in
/-- An answer of the probe is the verdict, unless the node is unreachable. -/
theorem probeEnding?_eq_verdict (hstatus : a.statuses n = .ok .running)
    (hprobe : ∀ reason, a.probes n ≠ .unreachable reason) (hticks : s.ticks = n + 1) :
    ∃ result, a.verdict? service address n (s.now - started) = some result ∧
      ∀ horizon, probeEnding? (a.plan d service address started horizon) s (a.probes n)
        = some (.returned result) := by
  cases ha : a.probes n with
  | ready =>
    exact ⟨.ok ⟨n + 1, s.now - started⟩, by simp [verdict?, hstatus, ha], fun _ => by
      simp [probeEnding?, hticks, plan]⟩
  | rejected status reason =>
    exact ⟨.error (.readinessRejected address status reason), by
      simp [verdict?, hstatus, ha], fun _ => rfl⟩
  | unreachable reason => exact absurd ha (hprobe reason)

variable (d service address started) in
/-- **A check that decides ends the wait with its verdict.** -/
theorem exists_end (h : Stands n .tick s) (hn : a.Decides n) :
    ∃ s' result, a.verdict? service address n (s'.now - started) = some result ∧
      s'.calls.reverse.map Prod.snd = undecidedCalls n ++ a.lastCalls n ∧
      ∀ horizon, s'.now ≤ horizon →
        Ends (a.plan d service address started horizon) .tick s s' (.returned result) := by
  have h₁ := h.passed_tick d
  have h₂ := h₁.passed_status d
  have h₃ := h₂.passed_probe d
  have hle₂ := le_passed d (passed d s .tick) .status
  have hle₃ := le_passed d (passed d (passed d s .tick) .status) .probe
  by_cases hstatus : a.statuses n = .ok .running
  · obtain ⟨result, hv, he⟩ := probeEnding?_eq_verdict d service address started hstatus
      (hn.resolve_left (absurd hstatus)) h₃.ticks
    refine ⟨_, result, hv, by
      simp [h₃.calls, undecidedCalls, lastCalls_of_running hstatus],
      fun horizon hle => ?_⟩
    have hend₂ : Ends (a.plan d service address started horizon) .probe _ _ (.returned result) :=
      .now ((step_of_le h₂.token hle).trans (by rw [ending?_probe h₂, he]))
    have hend₁ := ends_of_passed .status h₁.token (by omega)
      (by rw [ending?_status h₁, hstatus]; rfl) hend₂
    exact ends_of_passed .tick h.token (by omega) rfl hend₁
  · obtain ⟨result, hv, he⟩ := statusEnding?_eq_verdict d service address started hstatus
      ((passed d (passed d s .tick) .status).now - started)
    refine ⟨_, result, hv, by simp [h₂.calls, lastCalls_of_not_running hstatus],
      fun horizon hle => ?_⟩
    have hend₁ : Ends (a.plan d service address started horizon) .status _ _ (.returned result) :=
      .now ((step_of_le h₁.token hle).trans (by rw [ending?_status h₁, he]))
    exact ends_of_passed .tick h.token (by omega) rfl hend₁

end Round

/-! ## The whole wait -/

section Whole

variable (a : Answers) (d : Delays) (service address : String) {tick : Nat} (ht : 0 < tick)
  (started : Nat)

theorem stands_initial : Stands 0 .tick ((a.wait d service address tick started).initial ht) :=
  ⟨rfl, rfl, rfl, rfl⟩

/-- **Checks that do not decide lead from the start to the next check.** -/
theorem exists_stands {n : Nat} (hn : ∀ i < n, ¬ a.Decides i) :
    ∃ s, Stands n .tick s ∧ LeadsTo a d service address started
      ((a.wait d service address tick started).initial ht) s := by
  induction n with
  | zero =>
    exact ⟨_, a.stands_initial d service address ht started, Nat.le_refl _, fun _ _ _ _ => id⟩
  | succ n ih =>
    obtain ⟨s, hs, hleads⟩ := ih fun i hi => hn i (by omega)
    obtain ⟨s', hs', hnext⟩ := exists_next d service address started hs (hn n (by omega))
    exact ⟨s', hs', hleads.trans hnext⟩

include ht

/-- **The first check that decides ends the wait**, with its verdict and its calls. -/
theorem exists_endsWith {k : Nat} (hk : a.Decides k) (hleast : ∀ i < k, ¬ a.Decides i) :
    ∃ o result, (a.wait d service address tick started).EndsWith o ∧ o.ending = .returned result ∧
      a.verdict? service address k (o.now - started) = some result ∧
      o.calls.map Prod.snd = undecidedCalls k ++ a.lastCalls k := by
  obtain ⟨s, hs, hleads⟩ := a.exists_stands d service address ht started hleast
  obtain ⟨s', result, hv, hcalls, hends⟩ := exists_end d service address started hs hk
  refine ⟨s'.outcome (.returned result), result, ⟨by simp [State.outcome],
    max started (max s.now s'.now), fun horizon hle => ?_⟩, rfl, hv, hcalls⟩
  exact (a.wait d service address tick started).watch_of_ends ht
    (Nat.le_trans (Nat.le_max_left _ _) hle)
    (hleads.ends horizon (by omega) (hends horizon (by omega)))

/-- **While no check decides, the wait is going on at every horizon.** -/
theorem goesOn (hn : ∀ k, ¬ a.Decides k) : (a.wait d service address tick started).GoesOn := by
  intro horizon hle
  obtain ⟨s, verdict, he, ho⟩ := (a.wait d service address tick started).ends_watch ht hle
  rw [ho]
  exact unwatched_of_undecided hn he (a.stands_initial d service address ht started) hle

end Whole

/-- The delay before a verdict shows only in the time that it reports. -/
theorem map_ticks_of_verdict? {a : Answers} {service address : String} {k elapsed elapsed' : Nat}
    {result result' : Except WaitError WaitReport}
    (h : a.verdict? service address k elapsed = some result)
    (h' : a.verdict? service address k elapsed' = some result') :
    result.map (·.ticks) = result'.map (·.ticks) := by
  revert h h'
  unfold verdict?
  split
  · grind
  · split <;> grind [Except.map]
  · grind

/-- **Delays change neither the verdict nor the calls.** -/
theorem exists_same (a : Answers) (service address : String) {tick : Nat} (ht : 0 < tick)
    (started : Nat) (d d' : Delays) {o : Outcome (Nat × Nat)}
    (ho : (a.wait d service address tick started).EndsWith o) :
    ∃ o' result result', (a.wait d' service address tick started).EndsWith o' ∧
      o.ending = .returned result ∧ o'.ending = .returned result' ∧
      result.map (·.ticks) = result'.map (·.ticks) ∧
      o.calls.map Prod.snd = o'.calls.map Prod.snd := by
  classical
  by_cases hk : ∃ k, a.Decides k
  · have hleast : ∀ i < Nat.find hk, ¬ a.Decides i := fun _ hi => Nat.find_min hk hi
    obtain ⟨o₁, result, ho₁, hret, hv, hcalls⟩ :=
      a.exists_endsWith d service address ht started (Nat.find_spec hk) hleast
    obtain ⟨o', result', ho', hret', hv', hcalls'⟩ :=
      a.exists_endsWith d' service address ht started (Nat.find_spec hk) hleast
    obtain rfl := ho.unique ho₁
    exact ⟨o', result, result', ho', hret, hret', map_ticks_of_verdict? hv hv',
      hcalls.trans hcalls'.symm⟩
  · exact absurd ho (Scenario.GoesOn.not_endsWith
      (a.goesOn d service address ht started fun k hd => hk ⟨k, hd⟩) o)

/-- **An undisturbed wait ends with the first check that decides.** -/
theorem returns_first_decision (a : Answers) (service address : String) {tick : Nat}
    (ht : 0 < tick) (started : Nat) :
    (∀ k, a.Decides k → (∀ i < k, ¬ a.Decides i) → ∀ d, ∃ o result,
      (a.wait d service address tick started).EndsWith o ∧ o.ending = .returned result ∧
      a.verdict? service address k (o.now - started) = some result ∧
      callCount .status o.calls = k + 1 ∧
      (a.statuses k = .ok .running → callCount .probe o.calls = k + 1) ∧
      (a.statuses k ≠ .ok .running → callCount .probe o.calls = k)) ∧
    (∀ d d' o, (a.wait d service address tick started).EndsWith o →
      ∃ o' result result', (a.wait d' service address tick started).EndsWith o' ∧
        o.ending = .returned result ∧ o'.ending = .returned result' ∧
        result.map (·.ticks) = result'.map (·.ticks) ∧
        o.calls.map Prod.snd = o'.calls.map Prod.snd) ∧
    ((∀ k, ¬ a.Decides k) → ∀ d, (a.wait d service address tick started).GoesOn) := by
  refine ⟨fun k hk hleast d => ?_, fun d d' o ho =>
    a.exists_same service address ht started d d' ho, fun hn d =>
    a.goesOn d service address ht started hn⟩
  · obtain ⟨o, result, ho, hret, hv, hcalls⟩ :=
      a.exists_endsWith d service address ht started hk hleast
    refine ⟨o, result, ho, hret, hv, ?_, fun hs => ?_, fun hs => ?_⟩ <;>
      rw [callCount_eq_count, hcalls, List.count_append, count_undecidedCalls]
    · by_cases hs : a.statuses k = .ok .running
      · rw [lastCalls_of_running hs]; rfl
      · rw [lastCalls_of_not_running hs]; rfl
    · rw [lastCalls_of_running hs]; rfl
    · rw [lastCalls_of_not_running hs]; rfl

/-- A node that runs from the start and is ready at the third check. -/
def readyThird : Answers where
  statuses _ := .ok .running
  probes n := if n < 2 then .unreachable "connection refused" else .ready

theorem readyThird_decides : readyThird.Decides 2 := .inr (by simp [readyThird])

theorem readyThird_undecided (i : Nat) (hi : i < 2) : ¬ readyThird.Decides i :=
  (readyThird.not_decides_iff i).mpr ⟨rfl, "connection refused", if_pos hi⟩

/-- Delays of a quarter of a second for every probe. -/
def quarterSecond : Delays := ⟨fun _ => 0, fun _ => 250⟩

/-- A node that is ready at the third check. -/
theorem readyThird_returns : 0 < 1000 ∧ ∃ o elapsed,
    (readyThird.wait quarterSecond "mysql" "127.0.0.1:8114" 1000 0).EndsWith o ∧
      o.ending = .returned (.ok ⟨3, elapsed⟩) ∧ callCount .status o.calls = 3 ∧
      callCount .probe o.calls = 3 := by
  obtain ⟨o, result, ho, hret, hv, hstatus, hprobe, -⟩ :=
    (readyThird.returns_first_decision "mysql" "127.0.0.1:8114" (show 0 < 1000 by decide) 0).1 2
      readyThird_decides readyThird_undecided quarterSecond
  refine ⟨by decide, o, o.now - 0, ho, ?_, hstatus, hprobe rfl⟩
  rw [hret, ← Option.some.inj hv]

end Answers

end Sidecar
