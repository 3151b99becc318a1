import Sidecar.Proofs.Wait.Scenario
import Sidecar.Script

/-!
# Proofs/Wait/CutShort — deadlines and timed signals, over whole waits

A deadline cuts a wait before all that happens at its instant, a timed signal after it.  Beyond
that neither changes anything: `deadline_cuts` and `signal_cuts` compare a wait with the same wait
without its deadline, or without its signal.  Both are read off `InterruptedBy`, which says it of a
wait that is watched up to one horizon.
-/

namespace Sidecar.Scenario

open Wait

variable {σ : Type}

/-- Watched from `near` on, `w'` is `w` up to the `instant`, and is cut there.  `keeps` picks the
times that the interruption does not reach. -/
structure InterruptedBy (w w' : Scenario σ) (near instant : Nat) (cut : Cut)
    (mark : Token → Token) (keeps : Nat → Bool) : Prop where
  started_le : w.started ≤ near
  beside : ∀ horizon, near ≤ horizon →
    w'.watch horizon = { w.watch horizon with token := mark (w.watch horizon).token } ∧
        keeps (w.watch horizon).now ∨
      ∃ s : State σ, w'.watch horizon = s.outcome (cutEnding (w.plan horizon) s cut) ∧
        s.now = instant ∧ s.ticks = callCount .status s.calls ∧
        ¬ keeps (w.watch horizon).now ∧
        s.calls.reverse = (w.watch horizon).calls.filter (keeps ·.1)
  beyond : ∀ horizon, near ≤ horizon → ¬ keeps horizon

/-- **A wait with a deadline is the wait without one, interrupted.** -/
theorem interruptedBy_deadline (w : Scenario σ) (ht : 0 < w.settings.tick) {M : Nat} (hM : 0 < M) :
    InterruptedBy (w.withMaxWait none) (w.withMaxWait (some M)) (w.started + M) (w.started + M)
      .timedOut id (· < w.started + M) where
  started_le := Nat.le_add_right _ _
  beside horizon h := by
    have hstarted : w.started ≤ horizon := by omega
    rcases watch_bound (.deadline horizon (w.started + M) h) (w.withMaxWait none)
        (w.withMaxWait (some M)) ht ht horizon horizon rfl rfl rfl trivial
        (Nat.lt_add_of_pos_right hM) hstarted hstarted with
      ⟨heq, he⟩ | ⟨s, heq, hnow, hticks, hlate, hearly, more, hmore, hle⟩
    · exact .inl ⟨heq, decide_eq_true he⟩
    · refine .inr ⟨s, heq, hnow, hticks, fun hk => Nat.not_lt.mpr hlate (of_decide_eq_true hk),
        filter_eq_of_append hmore (fun call hc => ?_) (fun call hc hk => ?_)⟩
      · exact decide_eq_true (hearly call (List.mem_reverse.mp hc))
      · exact Nat.not_lt.mpr (hle call hc) (of_decide_eq_true hk)
  beyond horizon h hk := Nat.not_lt.mpr h (of_decide_eq_true hk)

/-- **A wait with a timed signal is the wait without it, interrupted.** -/
theorem interruptedBy_signal (w : Scenario σ) (ht : 0 < w.settings.tick) {c : Nat}
    (hc : w.started ≤ c) (htoken : w.token.signalAt = none) :
    InterruptedBy w (w.withToken (w.token.timed c)) (c + 1) c .cancelled (·.timed c) (· ≤ c) where
  started_le := by omega
  beside horizon h := by
    have hstarted : w.started ≤ horizon := by omega
    rcases watch_bound (.signal (w.plan horizon).guard c h) w (w.withToken (w.token.timed c))
        ht ht horizon horizon rfl rfl rfl htoken hc hstarted hstarted with
      ⟨heq, he⟩ | ⟨s, heq, hnow, hticks, hlate, hearly, more, hmore, hle⟩
    · exact .inl ⟨heq, decide_eq_true he⟩
    · refine .inr ⟨s, heq, hnow, hticks, fun hk => Nat.not_le.mpr hlate (of_decide_eq_true hk),
        filter_eq_of_append hmore (fun call hc => ?_) (fun call hc hk => ?_)⟩
      · exact decide_eq_true (hearly call (List.mem_reverse.mp hc))
      · exact Nat.not_le.mpr (hle call hc) (of_decide_eq_true hk)
  beyond horizon h hk := Nat.not_le.mpr h (of_decide_eq_true hk)

namespace InterruptedBy

variable {w w' : Scenario σ} {near instant : Nat} {cut : Cut} {mark : Token → Token}
  {keeps : Nat → Bool}

/-- **A wait that ends in time ends as it would have.** -/
theorem endsWith_of_keeps (hi : InterruptedBy w w' near instant cut mark keeps) {o : Outcome σ}
    (ho : w.EndsWith o) (hk : keeps o.now) : w'.EndsWith { o with token := mark o.token } := by
  obtain ⟨hne, far, hw⟩ := ho
  refine ⟨hne, max near far, fun horizon hle => ?_⟩
  have hfar := hw horizon (by omega)
  rcases hi.beside horizon (by omega) with ⟨heq, -⟩ | ⟨s, -, -, -, hnot, -⟩
  · rw [heq, hfar]
  · exact absurd hk (hfar ▸ hnot)

/-- **A wait that does not end in time is cut at the instant**, with the calls that it has made. -/
theorem exists_cut (hi : InterruptedBy w w' near instant cut mark keeps)
    (ht : 0 < w.settings.tick) (ht' : 0 < w'.settings.tick) (hstarted : w'.started ≤ near)
    (hcut : cut ≠ .unwatched) (hlate : ∀ o, w.EndsWith o → ¬ keeps o.now) :
    ∃ s : State σ, w'.EndsWith (s.outcome (cutEnding (w.plan near) s cut)) ∧ s.now = instant ∧
      s.ticks = callCount .status s.calls ∧
      ∀ horizon, near ≤ horizon → s.calls.reverse = (w.watch horizon).calls.filter (keeps ·.1) := by
  have hover : ∀ horizon, near ≤ horizon → ¬ keeps (w.watch horizon).now := by
    intro horizon hle
    have hs := Nat.le_trans hi.started_le hle
    rcases w.watch_cases ht hs with ⟨result, hr⟩ | ⟨-, hnow⟩
    · exact hlate _ (w.endsWith_watch ht hs (by simp [hr]))
    · rw [hnow]
      exact hi.beyond horizon hle
  rcases hi.beside near (Nat.le_refl _) with ⟨-, hk⟩ | ⟨s, heq, hnow, hticks, -, -⟩
  · exact absurd hk (hover near (Nat.le_refl _))
  have hends : w'.EndsWith (s.outcome (cutEnding (w.plan near) s cut)) := by
    rw [← heq]
    refine w'.endsWith_watch ht' hstarted ?_
    rw [heq]
    cases cut <;> simp_all [State.outcome, cutEnding]
  refine ⟨s, hends, hnow, hticks, fun horizon hle => ?_⟩
  -- The wait has ended by `near`, so that a farther horizon shows the same calls.
  rcases hi.beside horizon hle with ⟨-, hk⟩ | ⟨s', heq', -, -, -, hcalls⟩
  · exact absurd hk (hover horizon hle)
  · have hsame := w'.watch_eq_of_le ht' hstarted hle (by rw [heq]; exact hends.1)
    rw [heq, heq'] at hsame
    rw [← hcalls]
    exact (congrArg Outcome.calls hsame).symm

end InterruptedBy

/-! ## Deadlines -/

section Deadline

variable {w : Scenario σ} (ht : 0 < w.settings.tick) {M : Nat} (hM : 0 < M)
include ht hM

/-- **A wait that ends before its deadline ends as it would without one.** -/
theorem endsWith_of_lt_deadline {o : Outcome σ} (ho : (w.withMaxWait none).EndsWith o)
    (hlt : o.now < w.started + M) : (w.withMaxWait (some M)).EndsWith o :=
  (w.interruptedBy_deadline ht hM).endsWith_of_keeps ho (decide_eq_true hlt)

/-- **Any other returns a timeout at its deadline.** -/
theorem exists_timeout
    (hlate : ∀ o, (w.withMaxWait none).EndsWith o → w.started + M ≤ o.now) :
    ∃ o, (w.withMaxWait (some M)).EndsWith o ∧ o.now = w.started + M ∧
      o.ending = .returned (.error (.timeout w.service M (callCount .status o.calls))) ∧
      ∀ horizon, w.started + M ≤ horizon →
        o.calls = ((w.withMaxWait none).watch horizon).calls.filter (·.1 < w.started + M) := by
  obtain ⟨s, hends, hnow, hticks, hcalls⟩ := (w.interruptedBy_deadline ht hM).exists_cut ht ht
    (Nat.le_add_right _ _) (by simp)
    (fun o ho hk => Nat.not_lt.mpr (hlate o ho) (of_decide_eq_true hk))
  refine ⟨_, hends, hnow, ?_, hcalls⟩
  simp [State.outcome, cutEnding, plan, withMaxWait, hnow, hticks]

/-- **With a deadline a wait returns, and by then.** -/
theorem returns_by_deadline : ∃ o result, (w.withMaxWait (some M)).EndsWith o ∧
    o.ending = .returned result ∧ o.now ≤ w.started + M := by
  by_cases hearly : ∃ o, (w.withMaxWait none).EndsWith o ∧ o.now < w.started + M
  · obtain ⟨o, ho, hlt⟩ := hearly
    have hends := endsWith_of_lt_deadline ht hM ho hlt
    obtain ⟨hne, far, hw⟩ := hends
    have hfar := hw (max w.started far) (Nat.le_max_right _ _)
    rcases (w.withMaxWait (some M)).watch_cases ht (Nat.le_max_left w.started far) with
      ⟨result, hr⟩ | ⟨hu, -⟩
    · exact ⟨o, result, ⟨hne, far, hw⟩, hfar ▸ hr, Nat.le_of_lt hlt⟩
    · exact absurd (hfar ▸ hu) hne
  · obtain ⟨o, hends, hnow, hret, -⟩ := exists_timeout ht hM
      (fun o ho => Nat.not_lt.mp fun hlt => hearly ⟨o, ho, hlt⟩)
    exact ⟨o, _, hends, hret, Nat.le_of_eq hnow⟩

/-- **A longer deadline changes nothing but a timeout.** -/
theorem endsWith_longer {o : Outcome σ} (ho : (w.withMaxWait (some M)).EndsWith o)
    (hne : ∀ service waited ticks, o.ending ≠ .returned (.error (.timeout service waited ticks)))
    {longer : Option Nat} (hle : ∀ M' ∈ longer, M ≤ M') : (w.withMaxWait longer).EndsWith o := by
  by_cases hearly : ∃ o', (w.withMaxWait none).EndsWith o' ∧ o'.now < w.started + M
  · obtain ⟨o', ho', hlt⟩ := hearly
    obtain rfl := ho.unique (endsWith_of_lt_deadline ht hM ho' hlt)
    cases longer with
    | none => exact ho'
    | some M' =>
      have := hle M' rfl
      exact endsWith_of_lt_deadline ht (by omega) ho' (by omega)
  · obtain ⟨o', hends, -, hret, -⟩ := exists_timeout ht hM
      (fun o ho => Nat.not_lt.mp fun hlt => hearly ⟨o, ho, hlt⟩)
    obtain rfl := ho.unique hends
    exact absurd hret (hne _ _ _)

end Deadline

/-- **A deadline cuts a wait and changes nothing else.**  A wait that ends before it ends just so;
any other returns a timeout at the deadline, with the calls that begin before it.  So a wait with a
deadline returns by then, and a longer one changes nothing but a timeout. -/
theorem deadline_cuts (w : Scenario σ) (ht : 0 < w.settings.tick) {M : Nat} (hM : 0 < M) :
    (∀ o, (w.withMaxWait none).EndsWith o → o.now < w.started + M →
      (w.withMaxWait (some M)).EndsWith o) ∧
    ((∀ o, (w.withMaxWait none).EndsWith o → w.started + M ≤ o.now) →
      ∃ o, (w.withMaxWait (some M)).EndsWith o ∧ o.now = w.started + M ∧
        o.ending = .returned (.error (.timeout w.service M (callCount .status o.calls))) ∧
        ∀ horizon, w.started + M ≤ horizon →
          o.calls = ((w.withMaxWait none).watch horizon).calls.filter (·.1 < w.started + M)) ∧
    (∃ o result, (w.withMaxWait (some M)).EndsWith o ∧ o.ending = .returned result ∧
      o.now ≤ w.started + M) ∧
    ∀ o, (w.withMaxWait (some M)).EndsWith o →
      (∀ service waited ticks,
        o.ending ≠ .returned (.error (.timeout service waited ticks))) →
      ∀ longer : Option Nat, (∀ M' ∈ longer, M ≤ M') → (w.withMaxWait longer).EndsWith o :=
  ⟨fun _ ho hlt => endsWith_of_lt_deadline ht hM ho hlt, exists_timeout ht hM,
    returns_by_deadline ht hM, fun _ ho hne _ hle => endsWith_longer ht hM ho hne hle⟩

/-- A wait whose first status query never answers. -/
def hanging : Scenario Script :=
  ⟨Script.supervisor, Script.probe "127.0.0.1:8114", "mysql", ⟨1000, none⟩, 0, .fresh,
    { Script.default with statuses := ⟨[], ⟨.ok .running, none, false⟩⟩ }⟩

/-- A wait for an answer that never comes returns by its deadline. -/
theorem hanging_returns : 0 < hanging.settings.tick ∧ 0 < 2500 ∧ ∃ o result,
    (hanging.withMaxWait (some 2500)).EndsWith o ∧ o.ending = .returned result ∧ o.now ≤ 2500 :=
  have ⟨o, result, ho, hret, hle⟩ :=
    (hanging.deadline_cuts (by decide) (show 0 < 2500 by decide)).2.2.1
  ⟨by decide, by decide, o, result, ho, hret, by simpa [hanging] using hle⟩

/-! ## Signals -/

/-- **A token that is signalled beforehand leaves nothing to wait for.** -/
theorem endsWith_of_signalled {w : Scenario σ} (ht : 0 < w.settings.tick)
    (hs : w.token.signalled = true) :
    w.EndsWith ⟨.returned (.error (.cancelled w.service 0)), w.started, w.token, [], w.world⟩ := by
  refine ⟨by simp, w.started, fun horizon hle => ?_⟩
  have hrefuse : (w.plan horizon).guard.refuse? (w.initial ht).token (w.initial ht).now
      = some .cancelled := by simp [Guard.refuse?, Token.isSignalled, initial, hs]
  exact w.watch_of_ends ht hle (.now (step_of_refused hrefuse))

/-- **A timed signal cuts a wait and changes nothing else.**  A wait that ends by its instant ends
just so; any other is cancelled at that instant, with the calls that begin by then.  A token that is
signalled beforehand keeps the wait from making any call. -/
theorem signal_cuts (w : Scenario σ) (ht : 0 < w.settings.tick) {c : Nat} (hc : w.started ≤ c)
    (htoken : w.token.signalAt = none) :
    (∀ o, w.EndsWith o → o.now ≤ c →
      (w.withToken (w.token.timed c)).EndsWith { o with token := o.token.timed c }) ∧
    ((∀ o, w.EndsWith o → c < o.now) →
      ∃ o, (w.withToken (w.token.timed c)).EndsWith o ∧ o.now = c ∧
        o.ending = .returned (.error (.cancelled w.service (callCount .status o.calls))) ∧
        ∀ horizon, c < horizon → o.calls = (w.watch horizon).calls.filter (·.1 ≤ c)) ∧
    ∀ maxWait, ((w.withToken w.token.signal).withMaxWait maxWait).EndsWith
      ⟨.returned (.error (.cancelled w.service 0)), w.started, w.token.signal, [], w.world⟩ := by
  have hi := w.interruptedBy_signal ht hc htoken
  refine ⟨fun o ho hle => hi.endsWith_of_keeps ho (decide_eq_true hle), fun hlate => ?_,
    fun maxWait => ?_⟩
  · obtain ⟨s, hends, hnow, hticks, hcalls⟩ := hi.exists_cut ht ht (by simp [withToken]; omega)
      (by simp) (fun o ho hk => Nat.not_le.mpr (hlate o ho) (of_decide_eq_true hk))
    refine ⟨_, hends, hnow, ?_, hcalls⟩
    simp [State.outcome, cutEnding, plan, hticks]
  · exact endsWith_of_signalled (w := (w.withToken w.token.signal).withMaxWait maxWait) ht rfl

/-- Such a wait is cancelled in its first check, and makes none after a signal beforehand. -/
theorem hanging_signalled : 0 < hanging.settings.tick ∧ hanging.started ≤ 1500 ∧
    hanging.token.signalAt = none ∧
    (∃ o, (hanging.withToken (hanging.token.timed 1500)).EndsWith o ∧ o.now = 1500 ∧
      o.ending = .returned (.error (.cancelled "mysql" 1)) ∧ o.calls = [(1000, .status)]) ∧
    ∀ maxWait, ((hanging.withToken hanging.token.signal).withMaxWait maxWait).EndsWith
      ⟨.returned (.error (.cancelled "mysql" 0)), 0, hanging.token.signal, [], hanging.world⟩ := by
  obtain ⟨-, hcut, hbefore⟩ := hanging.signal_cuts (by decide) (show 0 ≤ 1500 by decide) rfl
  have hseen : (hanging.watch 1501).ending = .unwatched ∧
      (hanging.watch 1501).calls.filter (·.1 ≤ 1500) = [(1000, .status)] := by cbv
  obtain ⟨o, ho, hnow, hending, hcalls⟩ :=
    hcut fun o ho => le_of_endsWith (by decide) (by decide) hseen.1 ho
  have hcalled : o.calls = [(1000, .status)] := (hcalls 1501 (by decide)).trans hseen.2
  rw [hcalled] at hending
  exact ⟨by decide, by decide, rfl, ⟨o, ho, hnow, hending, hcalled⟩, hbefore⟩

end Sidecar.Scenario
