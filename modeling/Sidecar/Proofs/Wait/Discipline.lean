import Sidecar.Proofs.Wait.Exchange
import Sidecar.Script

/-!
# Proofs/Wait/Discipline — in what order a wait makes its calls, and what it counts

Whatever a wait is answered and whenever it is cut, it asks for the status and the probe by turns,
each call after one that let the wait go on (`calls_disciplined`).  **The ticks that it reports are
its status calls**: a tick is counted before its status call begins, but nothing can come between
the two.
-/

namespace Sidecar

open Wait

variable {σ : Type}

namespace Wait

/-- The ticks that a verdict reports. -/
def reportedTicks? : Verdict → Option Nat
  | .returned (.ok report) => some report.ticks
  | .returned (.error (.cancelled _ ticks)) => some ticks
  | .returned (.error (.timeout _ _ ticks)) => some ticks
  | _ => none

/-- The verdicts that an answer gives, once its phase has completed in a state. -/
inductive Answered (plan : Plan σ) (s : State σ) : Phase → Verdict → Prop where
  | failed (source : SupervisorError) :
    Answered plan s .status (.returned (.error (.statusQueryFailed plan.service source)))
  | notRunning {state : ProcessState} : state.isRunning = false →
    Answered plan s .status (.returned (.error (.processNotRunning plan.service state)))
  | rejected (status : Nat) (reason : String) : Answered plan s .probe
      (.returned (.error (.readinessRejected plan.probe.address status reason)))
  | ready : Answered plan s .probe (.returned (.ok ⟨s.ticks, s.now - plan.started⟩))

section Step

variable {plan : Plan σ} {phase : Phase} {s s' : State σ} {verdict : Verdict}

/-- **An answer that ends the wait gives one of four verdicts.** -/
theorem answered_of_ending? (h : ending? plan s s' phase = some verdict) :
    Answered plan s' phase verdict := by
  cases phase with
  | tick => cases h
  | status =>
    rcases ha : (plan.supervisor.status plan.service s.world).1.answer with source | state <;>
      simp only [ending?, statusEnding?, ha] at h
    · exact Option.some.inj h ▸ .failed source
    · split at h
      · cases h
      · exact Option.some.inj h ▸ .notRunning (Bool.not_eq_true _ ▸ ‹_›)
  | probe =>
    rcases ha : (plan.probe.check s.world).1.answer with _ | ⟨status, reason⟩ | reason <;>
      simp only [ending?, probeEnding?, ha] at h
    · exact Option.some.inj h ▸ .ready
    · exact Option.some.inj h ▸ .rejected status reason
    · cases h

/-- **A wait ends with a cut or with an answer.** -/
theorem cut_or_answered (hs : step plan phase s = (s', some verdict)) :
    (∃ cut, verdict = cutEnding plan s' cut) ∨
      Answered plan s' phase verdict ∧ s.now ≤ s'.now ∧
        s'.calls = (begun plan s phase).calls := by
  rcases step_cases plan phase s with ⟨cut, -, hs'⟩ | ⟨-, now, ⟨cut, -, hs'⟩ | ⟨hset, hs'⟩⟩ <;>
    obtain ⟨rfl, hv⟩ := Prod.mk.inj (hs'.symm.trans hs)
  · exact .inl ⟨cut, (Option.some.inj hv).symm⟩
  · exact .inl ⟨cut, (Option.some.inj hv).symm⟩
  · refine .inr ⟨answered_of_ending? hv, ?_, completed_calls ..⟩
    simpa using le_completion (Guard.settle_eq_none hset)

/-- **A verdict reports the ticks of the state that it is given in.** -/
theorem reportedTicks?_step (hs : step plan phase s = (s', some verdict)) {ticks : Nat}
    (ht : reportedTicks? verdict = some ticks) : ticks = s'.ticks := by
  rcases cut_or_answered hs with ⟨cut, rfl⟩ | ⟨answered, -⟩
  · cases cut <;> cases ht <;> rfl
  · cases answered <;> cases ht
    rfl

/-- **A wait that succeeds has probed last.** -/
theorem eq_probe_of_ok {report : WaitReport}
    (hs : step plan phase s = (s', some (.returned (.ok report)))) :
    phase = .probe ∧ report = ⟨s'.ticks, s'.now - plan.started⟩ ∧ s.now ≤ s'.now ∧
      s'.calls = (begun plan s phase).calls := by
  rcases cut_or_answered hs with ⟨cut, hcut⟩ | ⟨answered, hnow, hcalls⟩
  · cases cut <;> cases hcut
  · cases answered
    exact ⟨rfl, rfl, hnow, hcalls⟩

end Step

section Recorded

variable {plan : Plan σ} {world : σ} {s : State σ} {xs : List Exchange}

/-- **Queries alternate**, beginning with one for the state. -/
theorem Recorded.map_snd (h : Recorded plan world s xs) :
    s.calls.reverse.map Prod.snd = alternating s.calls.length := by
  rw [h.map_eq, List.map_map, ← h.length_eq]
  exact h.alternate

/-- **Calls by turns are status calls and as many probes, or one fewer.** -/
theorem Recorded.callCount (h : Recorded plan world s xs) :
    Wait.callCount .status s.calls = (s.calls.length + 1) / 2 ∧
      Wait.callCount .probe s.calls = s.calls.length / 2 := by
  have hcount := count_alternating s.calls.length
  rwa [← h.map_snd, ← callCount_eq_count, ← callCount_eq_count, callCount_reverse,
    callCount_reverse] at hcount

/-- **No call begins before the one that it follows.** -/
theorem Recorded.sorted (h : Recorded plan world s xs) :
    (s.calls.reverse.map Prod.fst).Pairwise (· ≤ ·) := by
  rw [h.map_eq, List.map_map, ← List.isChain_iff_pairwise, List.isChain_map]
  exact h.admits.imp fun a b hab =>
    have ⟨_, hf, hle⟩ := hab.answered
    Nat.le_trans (Exchange.time_le_finish hf) hle

end Recorded

end Wait

namespace Scenario

/-- Nothing has been asked before the first tick. -/
theorem traced_initial (w : Scenario σ) (ht : 0 < w.settings.tick) (horizon : Nat) :
    Traced (w.plan horizon) w.world .tick (w.initial ht) [] :=
  ⟨⟨rfl, rfl, rfl, .nil⟩, rfl, by simp⟩

/-- **What is watched has a last step and a record of its calls.** -/
theorem exists_recorded (w : Scenario σ) (ht : 0 < w.settings.tick) {horizon : Nat}
    (h : w.started ≤ horizon) :
    ∃ last s₁ xs₁ s verdict xs, Traced (w.plan horizon) w.world last s₁ xs₁ ∧
      step (w.plan horizon) last s₁ = (s, some verdict) ∧
      Recorded (w.plan horizon) w.world s xs ∧ s.ticks = callCount .status s.calls ∧
      w.watch horizon = s.outcome verdict := by
  obtain ⟨s, verdict, hends, ho⟩ := w.ends_watch ht h
  obtain ⟨last, s₁, xs₁, htraced, hstep⟩ := hends.exists_traced (w.traced_initial ht horizon)
  obtain ⟨xs, hrecorded⟩ : ∃ xs, Recorded (w.plan horizon) w.world s xs :=
    (htraced.recorded_last hstep).elim (fun h => ⟨_, h.2⟩) (fun h => ⟨_, h.2⟩)
  exact ⟨last, s₁, xs₁, s, verdict, xs, htraced, hstep, hrecorded,
    hends.ticks_eq (w.inStep_initial ht horizon), ho⟩

/-- **A wait keeps its discipline**, whatever it is answered and whenever it is cut.  It asks for
the status and the probe by turns and in the order of time; it makes a call only after one that was
answered, lets the wait go on and has not signalled the token; and the ticks that it reports are its
status calls, each with its probe but perhaps the last. -/
theorem calls_disciplined (w : Scenario σ) (ht : 0 < w.settings.tick) {horizon : Nat}
    (h : w.started ≤ horizon) :
    let o := w.watch horizon
    let plan := w.plan horizon
    o.calls.map Prod.snd = alternating o.calls.length ∧
      (o.calls.map Prod.fst).Pairwise (· ≤ ·) ∧
      (plan.exchanges w.world o.calls).IsChain (fun a b => a.Admits b.time) ∧
      o.world = plan.after w.world (o.calls.map Prod.snd) ∧
      (∀ ticks ∈ reportedTicks? o.ending, ticks = callCount .status o.calls ∧
        (callCount .probe o.calls = ticks ∨ callCount .probe o.calls = ticks - 1)) ∧
      ∀ report, o.ending = .returned (.ok report) → callCount .probe o.calls = report.ticks := by
  obtain ⟨last, s₁, xs₁, s, verdict, xs, htraced, hstep, hrecorded, hticks, ho⟩ :=
    w.exists_recorded ht h
  obtain ⟨hstatus, hprobe⟩ := hrecorded.callCount
  simp only [ho, State.outcome, callCount_reverse]
  refine ⟨?_, hrecorded.sorted, ?_, hrecorded.after.symm, fun ticks hreport => ?_,
    fun report hok => ?_⟩
  · rw [hrecorded.map_snd, List.length_reverse]
  · rw [hrecorded.exchanges]
    exact hrecorded.admits
  · obtain rfl := (reportedTicks?_step hstep hreport).trans hticks
    exact ⟨rfl, by omega⟩
  · obtain ⟨rfl, rfl, -, hcalls⟩ := eq_probe_of_ok (hok ▸ hstep)
    have hparity := htraced.parity
    rw [htraced.length_eq] at hparity
    rw [hprobe, hticks, hstatus, hcalls, begun_calls]
    simp [Phase.query?] at hparity ⊢
    omega

/-- A wait whose second probe signals the token and is answered nevertheless. -/
def signalling : Scenario Script :=
  ⟨Script.supervisor, Script.probe "127.0.0.1:8114", "mysql", ⟨1000, some 60000⟩, 0, .fresh,
    { Script.default with
      probes := ⟨[.now (.unreachable "connection refused"),
        ⟨.unreachable "connection refused", some 0, true⟩], .now .ready⟩ }⟩

/-- A wait that a call signals in its second check. -/
theorem signalling_disciplined : 0 < signalling.settings.tick ∧ signalling.started ≤ 60000 ∧
    reportedTicks? (signalling.watch 60000).ending = some 2 ∧
    callCount .status (signalling.watch 60000).calls = 2 ∧
    (signalling.watch 60000).calls.map Prod.snd = alternating 4 := by
  have hreport : reportedTicks? (signalling.watch 60000).ending = some 2 := by decide
  obtain ⟨hturns, -, -, -, hticks, -⟩ :=
    signalling.calls_disciplined (by decide) (show signalling.started ≤ 60000 by decide)
  exact ⟨by decide, by decide, hreport, (hticks 2 hreport).1.symm, hturns⟩

end Scenario

end Sidecar
