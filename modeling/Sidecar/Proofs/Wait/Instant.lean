import Mathlib.Data.Set.Card
import Mathlib.Order.Interval.Finset.Nat
import Sidecar.Proofs.Wait.Verdict

/-!
# Proofs/Wait/Instant — the exact end of a wait whose calls take no time

If every call answers at once, check `n` is made `n` intervals after the start, and no call is ever
under way when the deadline comes.  So **the first check that decides ends the wait on its tick, if
that is before the deadline; else the wait times out at the deadline, after as many checks as there
are ticks before it** (`ends_exactly`).  A deadline on a tick comes before that tick.
-/

namespace Sidecar

open Wait

/-- No delay at all. -/
def Delays.zero : Delays := ⟨fun _ => 0, fun _ => 0⟩

/-- The plan under another guard. -/
def Wait.Plan.under {σ : Type} (plan : Plan σ) (g : Guard) : Plan σ := { plan with guard := g }

/-- A time before the deadline, and not beyond the horizon. -/
def Guard.Admits (g : Guard) (time : Nat) : Prop :=
  (∀ d, g.deadline = some d → time < d) ∧ time ≤ g.horizon

theorem Guard.Admits.of_le {g : Guard} {time earlier : Nat} (h : g.Admits time)
    (hle : earlier ≤ time) : g.Admits earlier :=
  ⟨fun d hd => Nat.lt_of_le_of_lt hle (h.1 d hd), Nat.le_trans hle h.2⟩

/-- **What is admitted is completed in time.** -/
theorem Guard.Admits.settle {g : Guard} {time : Nat} (h : g.Admits time) (now : Nat) :
    g.settle .fresh now (some time) = (time, none) := by
  obtain ⟨hdeadline, hhorizon⟩ := h
  cases hd : g.deadline <;> grind [Guard.settle, Token.fresh, Token.isSignalled]

theorem Guard.Admits.refuse? {g : Guard} {time : Nat} (h : g.Admits time) :
    g.refuse? .fresh time = none :=
  (g.refuse?_eq_none_iff .fresh time).mpr ⟨rfl, h.1⟩

namespace Answers

/-! ## Checks on time -/

/-- The wait has made `n` checks and awaits `phase` in the next one; **no tick has been late.** -/
structure OnTime (tick started n : Nat) (phase : Phase) (s : State (Nat × Nat)) : Prop
    extends Stands n phase s where
  now : s.now = started + (if phase = .tick then n else n + 1) * tick
  interval : s.ticker.interval = tick
  due : s.ticker.due = started + (if phase = .tick then n + 1 else n + 2) * tick

namespace OnTime

variable {tick started n : Nat} {s : State (Nat × Nat)}

/-- **The next tick comes when it is due.** -/
theorem now_passed_tick (h : OnTime tick started n .tick s) :
    (passed .zero s .tick).now = started + (n + 1) * tick := by
  have hnow : s.now = started + n * tick := h.now
  have hdue : s.ticker.due = started + (n + 1) * tick := h.due
  have hmul : n * tick ≤ (n + 1) * tick := Nat.mul_le_mul_right tick (Nat.le_succ n)
  change max s.now s.ticker.due = _
  omega

theorem passed_tick (h : OnTime tick started n .tick s) :
    OnTime tick started n .status (passed .zero s .tick) := by
  have hdue : s.ticker.due = started + (n + 1) * tick := h.due
  have hnow := h.now_passed_tick
  refine ⟨h.toStands.passed_tick .zero, hnow, h.interval, ?_⟩
  -- The tick is not late, so that the next one is due an interval after it.
  have hnext : (passed .zero s .tick).ticker.due = s.ticker.due + s.ticker.interval := by
    change (if s.ticker.due + Ticker.tolerance < (passed .zero s .tick).now then _
      else s.ticker.due) + s.ticker.interval = _
    rw [if_neg (by omega)]
  rw [hnext, hdue, h.interval, Nat.add_assoc, ← Nat.succ_mul]
  rfl

theorem passed_status (h : OnTime tick started n .status s) :
    OnTime tick started n .probe (passed .zero s .status) :=
  ⟨h.toStands.passed_status .zero, h.now, h.interval, h.due⟩

theorem passed_probe (h : OnTime tick started n .probe s) :
    OnTime tick started (n + 1) .tick (passed .zero s .probe) :=
  ⟨h.toStands.passed_probe .zero, h.now, h.interval, h.due⟩

end OnTime

/-- The state after a check that decides nothing. -/
def checked (s : State (Nat × Nat)) : State (Nat × Nat) :=
  passed .zero (passed .zero (passed .zero s .tick) .status) .probe

/-- **One check more, and no tick has been late.** -/
theorem OnTime.checked {tick started n : Nat} {s : State (Nat × Nat)}
    (h : OnTime tick started n .tick s) : OnTime tick started (n + 1) .tick (checked s) :=
  h.passed_tick.passed_status.passed_probe

section Step

variable {a : Answers} {service address : String} {tick started n : Nat} {g : Guard}
  {s : State (Nat × Nat)} {phase : Phase}

/-- The plan of a wait whose calls take no time. -/
def promptPlan (a : Answers) (service address : String) (started : Nat) (g : Guard) :
    Plan (Nat × Nat) :=
  (a.plan .zero service address started g.horizon).under g

theorem ending?_promptPlan (s s' : State (Nat × Nat)) (phase : Phase) :
    ending? (a.promptPlan service address started g) s s' phase
      = ending? (a.plan .zero service address started g.horizon) s s' phase := by
  cases phase <;> rfl

/-- **What completes in time completes.** -/
theorem step_of_admits (htoken : s.token = .fresh) (h : g.Admits (passed .zero s phase).now) :
    step (a.promptPlan service address started g) phase s =
      (passed .zero s phase,
        ending? (a.promptPlan service address started g) s (passed .zero s phase) phase) := by
  have hrefuse : g.refuse? s.token s.now = none := by
    rw [htoken]
    exact (h.of_le (le_passed .zero s phase)).refuse?
  have hset : g.settle (begun (a.promptPlan service address started g) s phase).token s.now
      (completion (a.promptPlan service address started g) s phase)
        = ((passed .zero s phase).now, none) := by
    have htoken' : (begun (a.promptPlan service address started g) s phase).token = .fresh := by
      rw [← htoken]
      cases phase <;> rfl
    have hcompletion : completion (a.promptPlan service address started g) s phase
        = some (passed .zero s phase).now := by
      cases phase <;> rfl
    rw [htoken', hcompletion]
    exact h.settle _
  have hcompleted : completed (a.promptPlan service address started g) s (passed .zero s phase).now
      phase = passed .zero s phase := by
    cases phase <;> rfl
  rw [step_of_completed hrefuse hset, hcompleted]

/-- **A tick that is not before the deadline gives way to it.** -/
theorem step_of_expired (htoken : s.token = .fresh) {d : Nat} (hd : g.deadline = some d)
    (hnow : s.now ≤ d) (htick : d ≤ (passed .zero s .tick).now) (hhorizon : d ≤ g.horizon) :
    step (a.promptPlan service address started g) .tick s =
      ({ s with now := d }, some (cutEnding (a.promptPlan service address started g)
        { s with now := d } .timedOut)) := by
  rcases Nat.eq_or_lt_of_le hnow with rfl | hlt
  · refine step_of_refused ?_
    simp [promptPlan, Plan.under, Guard.refuse?, htoken, Token.fresh, Token.isSignalled, hd]
  · have hrefuse : g.refuse? s.token s.now = none := by
      rw [htoken, Guard.refuse?_eq_none_iff]
      exact ⟨rfl, fun d' hd' => Option.some.inj (hd.symm.trans hd') ▸ hlt⟩
    refine step_of_cut hrefuse ?_
    change g.settle s.token s.now (some (passed .zero s .tick).now) = _
    rw [htoken]
    grind [Guard.settle, Token.fresh, Token.isSignalled]

/-- **A phase that decides nothing leads to the next.** -/
theorem ends_of_admits (h : OnTime tick started n phase s) (hn : ¬ a.Decides n)
    (hin : g.Admits (passed .zero s phase).now) {s' : State (Nat × Nat)} {verdict : Verdict}
    (hends : Ends (a.promptPlan service address started g) phase.next (passed .zero s phase) s'
      verdict) :
    Ends (a.promptPlan service address started g) phase s s' verdict := by
  refine .later ((step_of_admits h.token hin).trans ?_) hends
  rw [ending?_promptPlan, ending?_of_not_decides h.toStands hn]

/-- **A check that decides nothing leads to the next one**, if it is made in time. -/
theorem ends_of_checked (h : OnTime tick started n .tick s) (hn : ¬ a.Decides n)
    (hin : g.Admits (started + (n + 1) * tick)) {s' : State (Nat × Nat)} {verdict : Verdict}
    (hends : Ends (a.promptPlan service address started g) .tick (checked s) s' verdict) :
    Ends (a.promptPlan service address started g) .tick s s' verdict := by
  have h₁ := h.passed_tick
  have h₂ := h₁.passed_status
  refine ends_of_admits h hn (h₁.now ▸ hin) ?_
  refine ends_of_admits h₁ hn (h₂.now ▸ hin) ?_
  exact ends_of_admits h₂ hn (h₂.passed_probe.now ▸ hin) hends

/-- **A check that decides ends the wait on its tick**, if it is made in time. -/
theorem exists_end_of_decides (service address : String) (h : OnTime tick started n .tick s)
    (hn : a.Decides n) :
    ∃ s' result, s'.now = started + (n + 1) * tick ∧
      a.verdict? service address n ((n + 1) * tick) = some result ∧
      ∀ g : Guard, g.Admits (started + (n + 1) * tick) →
        Ends (a.promptPlan service address started g) .tick s s' (.returned result) := by
  have h₁ := h.passed_tick
  have h₂ := h₁.passed_status
  have h₃ := h₂.passed_probe
  have hnow₂ : (passed .zero (passed .zero s .tick) .status).now = started + (n + 1) * tick :=
    h₂.now
  have hnow₃ : (checked s).now = started + (n + 1) * tick := h₃.now
  have hstart {g : Guard} (hin : g.Admits (started + (n + 1) * tick)) {s' : State (Nat × Nat)}
      {verdict : Verdict} (hends : Ends (a.promptPlan service address started g) .status
        (passed .zero s .tick) s' verdict) :
      Ends (a.promptPlan service address started g) .tick s s' verdict :=
    .later (step_of_admits h.token (h₁.now ▸ hin)) hends
  by_cases hstatus : a.statuses n = .ok .running
  · obtain ⟨result, hv, he⟩ := probeEnding?_eq_verdict .zero service address started hstatus
      (hn.resolve_left (absurd hstatus)) h₃.ticks
    rw [h₃.now, Nat.add_sub_cancel_left] at hv
    refine ⟨checked s, result, hnow₃, hv, fun g hin => hstart hin ?_⟩
    have hprobe : Ends (a.promptPlan service address started g) .probe
        (passed .zero (passed .zero s .tick) .status) (checked s) (.returned result) := by
      refine .now ((step_of_admits h₂.token (hnow₃ ▸ hin)).trans ?_)
      rw [ending?_promptPlan, ending?_probe h₂.toStands, he]
      rfl
    refine .later ((step_of_admits h₁.token (hnow₂ ▸ hin)).trans ?_) hprobe
    rw [ending?_promptPlan, ending?_status h₁.toStands, hstatus]
    rfl
  · obtain ⟨result, hv, he⟩ := statusEnding?_eq_verdict .zero service address started hstatus
      ((n + 1) * tick)
    refine ⟨_, result, hnow₂, hv, fun g hin => hstart hin (.now
      ((step_of_admits h₁.token (hnow₂ ▸ hin)).trans ?_))⟩
    rw [ending?_promptPlan, ending?_status h₁.toStands, he]

end Step

/-! ## The whole wait -/

/-- How many ticks come before a deadline: **the numbers `k` with `k * tick < M`**, from one on. -/
theorem ncard_ticks {tick : Nat} (ht : 0 < tick) (M : Nat) :
    {k | 1 ≤ k ∧ k * tick < M}.ncard = (M - 1) / tick := by
  have hset : {k | 1 ≤ k ∧ k * tick < M} = ↑(Finset.Icc 1 ((M - 1) / tick)) := by
    ext k
    rw [Set.mem_ofPred_eq, Finset.coe_Icc, Set.mem_Icc, Nat.le_div_iff_mul_le ht]
    refine and_congr_right fun hk => ?_
    have hpos : 0 < k * tick := Nat.mul_pos hk ht
    omega
  rw [hset, Set.ncard_coe_finset, Nat.card_Icc, Nat.add_sub_cancel]

section Whole

variable (a : Answers) (service address : String) {tick : Nat} (ht : 0 < tick) (started : Nat)
  (maxWait : Option Nat)

/-- A wait whose calls take no time. -/
def promptWait (tick : Nat) : Scenario (Nat × Nat) :=
  (a.wait .zero service address tick started).withMaxWait maxWait

/-- The state after `n` checks that decide nothing. -/
def standing (n : Nat) : State (Nat × Nat) :=
  checked^[n] ((a.wait .zero service address tick started).initial ht)

/-- A wait that answers at once **is always on time.** -/
theorem onTime_standing (n : Nat) :
    OnTime tick started n .tick (a.standing service address ht started n) := by
  induction n with
  | zero =>
    exact ⟨a.stands_initial .zero service address ht started, by simp [standing, Scenario.initial,
      wait], rfl, by simp [standing, Scenario.initial, wait]⟩
  | succ n ih =>
    rw [standing, Function.iterate_succ_apply']
    exact ih.checked

variable {a}

/-- **Checks that decide nothing lead from the start to the next check**, if they are made in
time. -/
theorem ends_of_standing {g : Guard} {n : Nat} (hn : ∀ i < n, ¬ a.Decides i)
    (hin : ∀ i < n, g.Admits (started + (i + 1) * tick)) {s : State (Nat × Nat)} {verdict : Verdict}
    (hends : Ends (a.promptPlan service address started g) .tick
      (a.standing service address ht started n) s verdict) :
    Ends (a.promptPlan service address started g) .tick
      (a.standing service address ht started 0) s verdict := by
  induction n with
  | zero => exact hends
  | succ n ih =>
    refine ih (fun i hi => hn i (by omega)) (fun i hi => hin i (by omega)) ?_
    refine ends_of_checked (a.onTime_standing service address ht started n) (hn n (by omega))
      (hin n (by omega)) ?_
    rwa [standing, Function.iterate_succ_apply'] at hends

/-- **The wait ends where the steps do that it takes under its own deadline.** -/
theorem endsWith_of_ends {s : State (Nat × Nat)} {result : Except WaitError WaitReport} (near : Nat)
    (h : ∀ horizon, near ≤ horizon →
      Ends (a.promptPlan service address started ⟨maxWait.map (started + ·), horizon⟩) .tick
        (a.standing service address ht started 0) s (.returned result)) :
    (a.promptWait service address started maxWait tick).EndsWith
      (s.outcome (.returned result)) := by
  refine ⟨by simp [State.outcome], max started near, fun horizon hle => ?_⟩
  exact (a.promptWait service address started maxWait tick).watch_of_ends ht
    (Nat.le_trans (Nat.le_max_left _ _) hle) (h horizon (by omega))

include ht

/-- **A check in time that is the first to decide ends the wait on its tick.** -/
theorem exists_endsWith_of_decides {n : Nat} (hn : a.Decides n) (hleast : ∀ i < n, ¬ a.Decides i)
    (hin : ∀ M, maxWait = some M → (n + 1) * tick < M) :
    ∃ o result, (a.promptWait service address started maxWait tick).EndsWith o ∧
      o.now = started + (n + 1) * tick ∧ o.ending = .returned result ∧
      a.verdict? service address n ((n + 1) * tick) = some result := by
  obtain ⟨s, result, hnow, hv, hends⟩ := exists_end_of_decides service address
    (a.onTime_standing service address ht started n) hn
  refine ⟨_, result, endsWith_of_ends service address ht started maxWait
    (started + (n + 1) * tick) fun horizon hle => ?_, hnow, rfl, hv⟩
  have hadmits : Guard.Admits ⟨maxWait.map (started + ·), horizon⟩ (started + (n + 1) * tick) := by
    refine ⟨fun d hd => ?_, hle⟩
    obtain ⟨M, hM, rfl⟩ := Option.map_eq_some_iff.mp hd
    exact Nat.add_lt_add_left (hin M hM) started
  refine ends_of_standing service address ht started hleast (fun i hi => hadmits.of_le ?_)
    (hends _ hadmits)
  exact Nat.add_le_add_left (Nat.mul_le_mul_right tick (by omega)) started

/-- **A wait that no check decides before the deadline times out at the deadline.** -/
theorem exists_expiry {M : Nat} (hlate : ∀ n, a.Decides n → M ≤ (n + 1) * tick) :
    ∃ o, (a.promptWait service address started (some M) tick).EndsWith o ∧ o.now = started + M ∧
      o.ending = .returned (.error (.timeout service M ((M - 1) / tick))) ∧
      o.calls.map Prod.snd = undecidedCalls ((M - 1) / tick) := by
  have hbefore : (M - 1) / tick * tick ≤ M - 1 := Nat.div_mul_le_self _ _
  have hover : M - 1 < ((M - 1) / tick + 1) * tick :=
    (Nat.div_lt_iff_lt_mul ht).mp (Nat.lt_succ_self _)
  generalize (M - 1) / tick = n at hbefore hover ⊢
  have hstanding := a.onTime_standing service address ht started n
  have hnow : (a.standing service address ht started n).now = started + n * tick := hstanding.now
  have htick := hstanding.now_passed_tick
  have hearly (i : Nat) (hi : i < n) : (i + 1) * tick < M := by
    have hle : (i + 1) * tick ≤ n * tick := Nat.mul_le_mul_right tick hi
    have hpos : 0 < (i + 1) * tick := Nat.mul_pos (Nat.succ_pos i) ht
    omega
  have hends : (a.promptWait service address started (some M) tick).EndsWith
      (({ a.standing service address ht started n with now := started + M } : State _).outcome
        (.returned (.error (.timeout service (started + M - started)
          (a.standing service address ht started n).ticks)))) := by
    refine endsWith_of_ends service address ht started (some M) (started + M) fun horizon hle => ?_
    refine ends_of_standing service address ht started
      (fun i hi hd => Nat.not_le.mpr (hearly i hi) (hlate i hd)) (fun i hi => ⟨fun d hd => ?_, ?_⟩)
      (.now (step_of_expired hstanding.token rfl (by omega) (by omega) hle))
    · obtain rfl := Option.some.inj hd
      exact Nat.add_lt_add_left (hearly i hi) started
    · have := hearly i hi
      exact Nat.le_trans (by omega) hle
  have hticks : (a.standing service address ht started n).ticks = n := hstanding.ticks
  rw [Nat.add_sub_cancel_left, hticks] at hends
  refine ⟨_, hends, rfl, rfl, ?_⟩
  simpa [State.outcome] using hstanding.calls

end Whole

/-- **The exact end of a wait whose calls take no time.**  The first check that decides ends it on
its tick, with its verdict, if there is no deadline or the tick comes before it.  If no check
decides before the deadline, the wait returns a timeout at the deadline, after a status call and a
probe for every tick that comes before it; so with a deadline no later than the first tick there is
no check at all. -/
theorem ends_exactly (a : Answers) (service address : String) {tick : Nat} (ht : 0 < tick)
    (started : Nat) :
    (∀ n maxWait, a.Decides n → (∀ i < n, ¬ a.Decides i) →
      (∀ M, maxWait = some M → (n + 1) * tick < M) →
      ∃ o result, (a.promptWait service address started maxWait tick).EndsWith o ∧
        o.now = started + (n + 1) * tick ∧ o.ending = .returned result ∧
        a.verdict? service address n ((n + 1) * tick) = some result) ∧
    (∀ M, (∀ n, a.Decides n → M ≤ (n + 1) * tick) →
      ∃ o, (a.promptWait service address started (some M) tick).EndsWith o ∧
        o.now = started + M ∧
        o.ending = .returned (.error (.timeout service M {k | 1 ≤ k ∧ k * tick < M}.ncard)) ∧
        callCount .status o.calls = {k | 1 ≤ k ∧ k * tick < M}.ncard ∧
        callCount .probe o.calls = {k | 1 ≤ k ∧ k * tick < M}.ncard) ∧
    ∀ M ≤ tick, ∃ o, (a.promptWait service address started (some M) tick).EndsWith o ∧
      o.now = started + M ∧ o.ending = .returned (.error (.timeout service M 0)) ∧ o.calls = [] := by
  refine ⟨fun n maxWait hn hleast hin =>
    exists_endsWith_of_decides service address ht started maxWait hn hleast hin,
    fun M hlate => ?_, fun M hM => ?_⟩
  · obtain ⟨o, ho, hnow, hending, hcalls⟩ := exists_expiry service address ht started hlate
    refine ⟨o, ho, hnow, ?_, ?_, ?_⟩ <;> rw [ncard_ticks ht]
    · exact hending
    · rw [callCount_eq_count, hcalls, count_undecidedCalls]
    · rw [callCount_eq_count, hcalls, count_undecidedCalls]
  · have hlate (n : Nat) (_ : a.Decides n) : M ≤ (n + 1) * tick :=
      Nat.le_trans hM (Nat.le_mul_of_pos_left tick (Nat.succ_pos n))
    obtain ⟨o, ho, hnow, hending, hcalls⟩ := exists_expiry service address ht started hlate
    rw [Nat.div_eq_of_lt (by omega)] at hending hcalls
    exact ⟨o, ho, hnow, hending, List.map_eq_nil_iff.mp hcalls⟩

/-- **A deadline on the tick of the check that decides comes before it.** -/
theorem readyThird_expires : 0 < 1000 ∧
    (∀ n, readyThird.Decides n → 3000 ≤ (n + 1) * 1000) ∧ ∃ o,
      (readyThird.promptWait "mysql" "127.0.0.1:8114" 0 (some 3000) 1000).EndsWith o ∧
      o.now = 3000 ∧ o.ending = .returned (.error (.timeout "mysql" 3000 2)) := by
  have hlate (n : Nat) (hn : readyThird.Decides n) : 3000 ≤ (n + 1) * 1000 := by
    by_contra hlt
    exact readyThird_undecided n (by omega) hn
  obtain ⟨o, ho, hnow, hending, -⟩ :=
    (readyThird.ends_exactly "mysql" "127.0.0.1:8114" (show 0 < 1000 by decide) 0).2.1 3000 hlate
  refine ⟨by decide, hlate, o, ho, by simpa using hnow, ?_⟩
  rw [hending, ncard_ticks (by decide)]

end Answers

end Sidecar
