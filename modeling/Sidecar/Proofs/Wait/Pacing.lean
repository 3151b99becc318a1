import Sidecar.Proofs.Wait.Discipline

/-!
# Proofs/Wait/Pacing — how far apart the checks of a wait are

A check is never early and never comes in a burst, however late the ones before it were; and it is
no later than one interval after the one before, or than the answer that it had to wait for
(`checks_paced`).  The engine is `Due`: **the ticker is due an interval after the last check at the
latest, and never more than its tolerance sooner than each check so far would have it.**
-/

namespace Sidecar

open Wait

variable {σ : Type}

namespace Wait

/-- When the checks of a wait began. -/
def checkTimes (xs : List Exchange) : List Nat :=
  (xs.filter (·.reply.query = .status)).map (·.time)

/-- When the probes of the checks were answered. -/
def answerTimes (xs : List Exchange) : List (Option Nat) :=
  (xs.filter (·.reply.query = .probe)).map (·.finish)

/-- When the last call was answered; a wait that has made none has its answer from the start. -/
def lastAnswer (started : Nat) (xs : List Exchange) : Option Nat :=
  (xs.getLast?.map (·.finish)).getD (some started)

/-! ## The pace, and when the ticker is due -/

/-- Checks that began at `times` and were answered at `answers` are well apart. -/
structure Paced (started interval : Nat) (times : List Nat) (answers : List (Option Nat)) :
    Prop where
  not_early : ∀ k t, times[k]? = some t → started + (k + 1) * interval ≤ t
  no_burst : ∀ i j t t', i < j → times[i]? = some t → times[j]? = some t' →
    t + (j - i) * interval ≤ t' + Ticker.tolerance
  not_late : ∀ k t t', times[k]? = some t → times[k + 1]? = some t' →
    ∃ f, answers[k]? = some (some f) ∧ f ≤ t' ∧ t' ≤ max (t + interval) f

/-- The ticker is due at the right time after checks that began at `times`. -/
structure Due (started : Nat) (ticker : Ticker) (times : List Nat) : Prop where
  not_early : started + (times.length + 1) * ticker.interval ≤ ticker.due
  no_burst : ∀ k t, times[k]? = some t →
    t + (times.length - k) * ticker.interval ≤ ticker.due + Ticker.tolerance
  not_late : ticker.due ≤ times.getLastD started + ticker.interval

/-- The entries of a list that has grown by one. -/
theorem getElem?_concat_eq_some {α : Type} {as : List α} {a b : α} {k : Nat}
    (h : (as ++ [a])[k]? = some b) : as[k]? = some b ∨ k = as.length ∧ b = a := by
  rcases Nat.lt_or_ge k as.length with hlt | hge
  · exact .inl (List.getElem?_append_left hlt ▸ h)
  · rw [List.getElem?_append_right hge] at h
    obtain ⟨hk, hb⟩ := List.getElem?_eq_some_iff.mp h
    simp only [List.length_singleton] at hk
    exact .inr ⟨by omega, by simpa using hb.symm⟩

theorem lt_length_of_getElem?_eq_some {α : Type} {as : List α} {a : α} {k : Nat}
    (h : as[k]? = some a) : k < as.length := (List.getElem?_eq_some_iff.mp h).1

section Lists

variable {started : Nat} {ticker : Ticker} {times : List Nat} {answers : List (Option Nat)}
  {now : Nat}

/-- **A tick makes the ticker due for the next check.** -/
theorem Due.advance (h : Due started ticker times) (hnow : ticker.due ≤ now) :
    Due started (ticker.advance now) (times ++ [now]) := by
  have hinterval : (ticker.advance now).interval = ticker.interval := rfl
  have hdue : ticker.due + ticker.interval ≤ (ticker.advance now).due ∧
      now + ticker.interval ≤ (ticker.advance now).due + Ticker.tolerance ∧
      (ticker.advance now).due ≤ now + ticker.interval := by
    simp only [Ticker.advance]
    split <;> omega
  obtain ⟨hnext, hslack, hle⟩ := hdue
  refine ⟨?_, fun k t hk => ?_, by simpa [hinterval] using hle⟩ <;>
    rw [hinterval, List.length_append, List.length_singleton]
  · have hearly := h.not_early
    rw [Nat.succ_mul]
    omega
  · rcases getElem?_concat_eq_some hk with hk | ⟨rfl, rfl⟩
    · have hlt := lt_length_of_getElem?_eq_some hk
      have hburst := h.no_burst k t hk
      rw [Nat.succ_sub hlt.le, Nat.succ_mul]
      omega
    · simpa using hslack

/-- **The next check keeps the pace**, if it begins as soon as it is due and the last one is
answered. -/
theorem Paced.next (h : Paced started ticker.interval times answers) (hd : Due started ticker times)
    {f : Nat} (hnow : now = max f ticker.due)
    (hanswer : times ≠ [] → answers[times.length - 1]? = some (some f)) :
    Paced started ticker.interval (times ++ [now]) answers := by
  have hdue : ticker.due ≤ now := hnow ▸ Nat.le_max_right _ _
  refine ⟨fun k t hk => ?_, fun i j t t' hij hi hj => ?_, fun k t t' hk hk' => ?_⟩
  · rcases getElem?_concat_eq_some hk with hk | ⟨rfl, rfl⟩
    · exact h.not_early k t hk
    · exact Nat.le_trans hd.not_early hdue
  · rcases getElem?_concat_eq_some hj with hj | ⟨rfl, rfl⟩
    · have hlt := lt_length_of_getElem?_eq_some hj
      rw [List.getElem?_append_left (hij.trans hlt)] at hi
      exact h.no_burst i j t t' hij hi hj
    · rw [List.getElem?_append_left hij] at hi
      have hburst := hd.no_burst i t hi
      omega
  · rcases getElem?_concat_eq_some hk' with hk' | ⟨hlast, rfl⟩
    · have hlt := lt_length_of_getElem?_eq_some hk'
      rw [List.getElem?_append_left (by omega)] at hk
      exact h.not_late k t t' hk hk'
    · rw [List.getElem?_append_left (by omega)] at hk
      have hlate := hd.not_late
      have hne : times ≠ [] := List.ne_nil_of_length_pos (by omega)
      have ht : times.getLastD started = t := by
        rw [List.getLastD_eq_getLast?, List.getLast?_eq_getElem?, ← hlast, Nat.add_sub_cancel, hk]
        rfl
      refine ⟨f, ?_, by omega, by omega⟩
      rw [← hanswer hne, ← hlast, Nat.add_sub_cancel]

/-- **Further answers change nothing about the checks so far.** -/
theorem Paced.answered (h : Paced started ticker.interval times answers)
    (more : List (Option Nat)) : Paced started ticker.interval times (answers ++ more) := by
  refine ⟨h.not_early, h.no_burst, fun k t t' hk hk' => ?_⟩
  obtain ⟨f, hf, hle⟩ := h.not_late k t t' hk hk'
  exact ⟨f, (List.getElem?_append_left (lt_length_of_getElem?_eq_some hf)).trans hf, hle⟩

/-- **Checks take their number of intervals.** -/
theorem Paced.length_mul_le {interval : Nat} (h : Paced started interval times answers)
    (hnow : ∀ t ∈ times, t ≤ now) : times.length * interval ≤ now - started := by
  rcases List.eq_nil_or_concat times with rfl | ⟨earlier, t, rfl⟩
  · simp
  rw [List.concat_eq_append] at *
  have hearly := h.not_early earlier.length t List.getElem?_concat_length
  have hle := hnow t (by simp)
  rw [List.length_append, List.length_singleton]
  omega

end Lists

/-! ## The checks of a wait -/

theorem answerTimes_concat (xs : List Exchange) (x : Exchange) :
    answerTimes (xs ++ [x]) =
      answerTimes xs ++ if x.reply.query = .probe then [x.finish] else [] := by
  cases h : x.reply.query <;> simp [answerTimes, h]

section Recorded

variable {plan : Plan σ} {world : σ} {s : State σ} {xs : List Exchange}

/-- **Every second exchange begins a check.** -/
theorem Recorded.length_checkTimes (h : Recorded plan world s xs) :
    (checkTimes xs).length = (xs.length + 1) / 2 := by
  rw [← (count_alternating xs.length).1, ← h.alternate, List.count, List.countP_map, checkTimes,
    List.length_map, ← List.countP_eq_length_filter]
  rfl

/-- **Every second exchange ends one.** -/
theorem Recorded.length_answerTimes (h : Recorded plan world s xs) :
    (answerTimes xs).length = xs.length / 2 := by
  rw [← (count_alternating xs.length).2, ← h.alternate, List.count, List.countP_map, answerTimes,
    List.length_map, ← List.countP_eq_length_filter]
  rfl

/-- **The last call is a probe if the calls are even**, and else a status call. -/
theorem Recorded.query_last {x : Exchange} (h : Recorded plan world s (xs ++ [x])) :
    x.reply.query = if xs.length % 2 = 0 then .status else .probe := by
  have halternate := h.alternate
  rw [List.map_append, List.length_append, List.length_singleton, alternating] at halternate
  have hlast := (List.append_inj_right' halternate rfl)
  simpa using hlast

/-- **A wait that awaits a tick has the answer to its last check**, just now. -/
theorem Traced.answered_now (h : Traced plan world .tick s xs) (hne : checkTimes xs ≠ []) :
    (answerTimes xs)[(checkTimes xs).length - 1]? = some (some s.now) := by
  rcases List.eq_nil_or_concat xs with rfl | ⟨ys, x, rfl⟩
  · exact absurd rfl hne
  rw [List.concat_eq_append] at h ⊢
  have hchecks := h.length_checkTimes
  have hanswers := h.length_answerTimes
  have hparity := h.parity
  have hquery := h.query_last
  obtain ⟨-, -, f, hf, -, hnow⟩ := h.last x (by simp)
  obtain rfl := hnow (by simp)
  simp only [reduceCtorEq, if_false, List.length_append, List.length_singleton] at hparity hchecks
  rw [if_neg (by omega)] at hquery
  rw [answerTimes_concat, if_pos hquery] at hanswers ⊢
  simp only [List.length_append, List.length_singleton] at hanswers
  have hindex : (checkTimes (ys ++ [x])).length - 1 = (answerTimes ys).length := by omega
  rw [hindex, List.getElem?_concat_length, hf]

end Recorded

/-- The check that begins at once: **a tick that has completed is followed by its status call.** -/
def upcoming (phase : Phase) (s : State σ) : List Nat := if phase = .status then [s.now] else []

/-- **A phase that is begun begins the check that is upcoming.** -/
theorem checkTimes_exchange (plan : Plan σ) (s : State σ) (phase : Phase) (xs : List Exchange) :
    checkTimes (xs ++ (phase.exchange? plan s).toList) = checkTimes xs ++ upcoming phase s := by
  cases phase <;> simp [Phase.exchange?, Phase.query?, upcoming, checkTimes]

theorem answerTimes_exchange (plan : Plan σ) (s : State σ) (phase : Phase) (xs : List Exchange) :
    answerTimes (xs ++ (phase.exchange? plan s).toList) =
      answerTimes xs ++ if phase = .probe then [completion plan s phase] else [] := by
  cases phase with
  | tick | status => simp [Phase.exchange?, Phase.query?, answerTimes]
  | probe =>
    have hx : (plan.reply .probe s.world).1.query = .probe := plan.query_reply _ _
    simp [Phase.exchange?, Phase.query?, answerTimes, hx]
    rfl

/-- **A call's answer is the last from when it begins.** -/
theorem lastAnswer_exchange (plan : Plan σ) (s : State σ) {phase : Phase} (hp : phase ≠ .tick)
    (started : Nat) (xs : List Exchange) :
    lastAnswer started (xs ++ (phase.exchange? plan s).toList) = completion plan s phase := by
  obtain ⟨x, hx⟩ := Option.ne_none_iff_exists'.mp (mt (exchange?_eq_none_iff plan s phase).mp hp)
  rw [completion_eq_finish hx, hx]
  simp [lastAnswer]

/-- The checks of a wait so far have kept the pace, and the next will. -/
structure OnPace (started interval : Nat) (phase : Phase) (s : State σ) (xs : List Exchange) :
    Prop where
  interval_eq : s.ticker.interval = interval
  paced : Paced started interval (checkTimes xs ++ upcoming phase s) (answerTimes xs)
  due : Due started s.ticker (checkTimes xs ++ upcoming phase s)
  begun : ∀ t ∈ checkTimes xs ++ upcoming phase s, t ≤ s.now
  answered : phase ≠ .status → lastAnswer started xs = some s.now

section Step

variable {plan : Plan σ} {world : σ} {started interval : Nat} {phase : Phase} {s s' : State σ}
  {xs : List Exchange}

/-- **A wait that goes on keeps the pace.** -/
theorem OnPace.step (h : OnPace started interval phase s xs) (htraced : Traced plan world phase s xs)
    (hs : step plan phase s = (s', none)) :
    OnPace started interval phase.next s' (xs ++ (phase.exchange? plan s).toList) := by
  obtain ⟨hr, hset, hs', -⟩ := completed_of_step hs
  have hcompletion := Guard.settle_eq_none hset
  have hnow : s.now ≤ s'.now := le_completion hcompletion
  obtain ⟨rfl, hpaced, hdue, hbegun, -⟩ := h
  cases phase with
  | tick =>
    have hmax : s'.now = max s.now s.ticker.due := (Option.some.inj hcompletion).symm
    have hticker : s'.ticker = s.ticker.advance s'.now := by rw [hs']; rfl
    simp only [upcoming, reduceCtorEq, if_false, List.append_nil] at hpaced hdue hbegun
    refine ⟨by rw [hticker]; rfl, ?_, ?_, ?_, by simp [Phase.next]⟩ <;>
      simp only [checkTimes_exchange, answerTimes_exchange, upcoming, Phase.next, reduceCtorEq,
        if_false, if_true, List.append_nil]
    · exact hpaced.next hdue hmax htraced.answered_now
    · exact hticker ▸ hdue.advance (hmax ▸ Nat.le_max_right _ _)
    · intro t ht
      rcases List.mem_append.mp ht with ht | ht
      · exact Nat.le_trans (hbegun t ht) hnow
      · exact Nat.le_of_eq (List.mem_singleton.mp ht)
  | status | probe =>
    have hticker : s'.ticker = s.ticker := by rw [hs']; rfl
    have hnone : ∀ phase, phase ≠ .status → upcoming phase s' = [] := fun _ hp => if_neg hp
    refine ⟨congrArg _ hticker, ?_, ?_, ?_, fun _ => ?_⟩
    · rw [checkTimes_exchange, answerTimes_exchange, hnone _ (by simp [Phase.next]),
        List.append_nil]
      exact hpaced.answered _
    · rw [checkTimes_exchange, hnone _ (by simp [Phase.next]), List.append_nil]
      exact hticker ▸ hdue
    · rw [checkTimes_exchange, hnone _ (by simp [Phase.next]), List.append_nil]
      exact fun t ht => Nat.le_trans (hbegun t ht) hnow
    · rw [lastAnswer_exchange plan s (by simp), hcompletion]

/-- **The last step keeps the pace too**, and does not outlast it. -/
theorem OnPace.last (h : OnPace started interval phase s xs)
    (hadmitted : phase = .status → plan.guard.refuse? s.token s.now = none)
    {verdict : Verdict} (hs : Wait.step plan phase s = (s', some verdict)) {xs' : List Exchange}
    (hxs : plan.guard.refuse? s.token s.now ≠ none ∧ xs' = xs ∨
      plan.guard.refuse? s.token s.now = none ∧ xs' = xs ++ (phase.exchange? plan s).toList) :
    Paced started interval (checkTimes xs') (answerTimes xs') ∧
      ∀ f, lastAnswer started xs' = some f →
        s'.now ≤ max ((checkTimes xs').getLastD started + interval) f := by
  obtain ⟨rfl, hpaced, hdue, -, hanswered⟩ := h
  rcases hxs with ⟨hr, rfl⟩ | ⟨hr, rfl⟩
  · obtain ⟨cut, hcut⟩ := Option.ne_none_iff_exists'.mp hr
    have hp : phase ≠ .status := fun hp => hr (hadmitted hp)
    obtain rfl : s = s' := congrArg Prod.fst ((step_of_refused hcut).symm.trans hs)
    rw [upcoming, if_neg hp, List.append_nil] at hpaced
    refine ⟨hpaced, fun f hf => ?_⟩
    rw [hanswered hp] at hf
    exact Option.some.inj hf ▸ Nat.le_max_right _ _
  · rw [checkTimes_exchange, answerTimes_exchange]
    refine ⟨hpaced.answered _, fun f hf => ?_⟩
    by_cases hp : phase = .tick
    · subst hp
      have hcompletion : completion plan s .tick = some (max s.now s.ticker.due) := rfl
      have hover : s'.now ≤ max s.now s.ticker.due := by
        simpa only [hs] using step_le_completion hr hcompletion
      have hlate := hdue.not_late
      rw [Phase.exchange?, Phase.query?, Option.map_none, Option.toList_none, List.append_nil,
        hanswered (by simp)] at hf
      obtain rfl := Option.some.inj hf
      omega
    · rw [lastAnswer_exchange plan s hp] at hf
      have hover := step_le_completion hr hf
      rw [hs] at hover
      exact Nat.le_trans hover (Nat.le_max_right _ _)

end Step

end Wait

namespace Scenario

/-- A wait is on pace before its first check. -/
theorem onPace_initial (w : Scenario σ) (ht : 0 < w.settings.tick) :
    OnPace w.started w.settings.tick .tick (w.initial ht) [] where
  interval_eq := rfl
  paced := ⟨by simp [checkTimes, upcoming], by simp [checkTimes, upcoming],
    by simp [checkTimes, upcoming]⟩
  due := ⟨by simp [checkTimes, upcoming, initial], by simp [checkTimes, upcoming], by
    simp [checkTimes, upcoming, initial]⟩
  begun := by simp [checkTimes, upcoming]
  answered _ := rfl

/-- **The checks of a wait keep their pace**, however long its calls take and whatever cuts it.  No
check is early; no two are closer than their number of intervals, but for the five milliseconds that
a tick may be late; and each comes within an interval of the one before or as soon as that is
answered, unless the wait is over by then.  So a wait that succeeds has lasted an interval for every
tick that it reports. -/
theorem checks_paced (w : Scenario σ) (ht : 0 < w.settings.tick) {horizon : Nat}
    (h : w.started ≤ horizon) :
    let o := w.watch horizon
    let xs := (w.plan horizon).exchanges w.world o.calls
    (∀ k t, (checkTimes xs)[k]? = some t → w.started + (k + 1) * w.settings.tick ≤ t) ∧
      (∀ i j t t', i < j → (checkTimes xs)[i]? = some t → (checkTimes xs)[j]? = some t' →
        t + (j - i) * w.settings.tick ≤ t' + 5) ∧
      (∀ k t t', (checkTimes xs)[k]? = some t → (checkTimes xs)[k + 1]? = some t' →
        ∃ f, (answerTimes xs)[k]? = some (some f) ∧ f ≤ t' ∧
          t' ≤ max (t + w.settings.tick) f) ∧
      (∀ f, lastAnswer w.started xs = some f →
        o.now ≤ max ((checkTimes xs).getLastD w.started + w.settings.tick) f) ∧
      ∀ report, o.ending = .returned (.ok report) →
        report.ticks * w.settings.tick ≤ report.elapsed := by
  obtain ⟨s, verdict, hends, ho⟩ := w.ends_watch ht h
  obtain ⟨last, s₁, ⟨xs₁, htraced, honpace, hin⟩, hstep⟩ := hends.exists_last
    (fun phase s => ∃ xs, Traced (w.plan horizon) w.world phase s xs ∧
      OnPace w.started w.settings.tick phase s xs ∧ InStep (w.plan horizon) phase s)
    (fun ⟨_, htraced, honpace, hin⟩ hs =>
      ⟨_, htraced.step hs, honpace.step htraced hs, hin.step hs⟩)
    ⟨[], w.traced_initial ht horizon, w.onPace_initial ht, w.inStep_initial ht horizon⟩
  obtain ⟨xs, hrecorded, hxs⟩ : ∃ xs, Recorded (w.plan horizon) w.world s xs ∧
      ((w.plan horizon).guard.refuse? s₁.token s₁.now ≠ none ∧ xs = xs₁ ∨
        (w.plan horizon).guard.refuse? s₁.token s₁.now = none ∧
          xs = xs₁ ++ (last.exchange? (w.plan horizon) s₁).toList) := by
    rcases htraced.recorded_last hstep with ⟨hr, hrecorded⟩ | ⟨hr, hrecorded⟩
    · exact ⟨_, hrecorded, .inl ⟨hr, rfl⟩⟩
    · exact ⟨_, hrecorded, .inr ⟨hr, rfl⟩⟩
  obtain ⟨hpaced, hover⟩ := honpace.last hin.admitted hstep hxs
  simp only [ho, State.outcome, hrecorded.exchanges]
  refine ⟨hpaced.not_early, hpaced.no_burst, hpaced.not_late, hover, fun report hok => ?_⟩
  obtain ⟨rfl, rfl, hnow, -⟩ := eq_probe_of_ok (hok ▸ hstep)
  have hticks : s.ticks = (checkTimes xs).length := by
    rw [hends.ticks_eq (w.inStep_initial ht horizon), hrecorded.callCount.1,
      hrecorded.length_checkTimes, hrecorded.length_eq]
  rw [hticks]
  refine hpaced.length_mul_le fun t hmem => Nat.le_trans (honpace.begun t ?_) hnow
  rcases hxs with ⟨-, rfl⟩ | ⟨-, rfl⟩
  · exact List.mem_append_left _ hmem
  · rwa [checkTimes_exchange] at hmem

/-- A wait with an interval of ten milliseconds whose first status call takes thirty-seven: the
second check begins as soon as the first is answered, and the ticks start anew from it. -/
def lagging : Scenario Script :=
  ⟨Script.supervisor, Script.probe "127.0.0.1:8114", "mysql", ⟨10, none⟩, 0, .fresh,
    { Script.default with
      statuses := ⟨[.after 37 (.ok .running)], .now (.ok .running)⟩
      probes := ⟨List.replicate 3 (.now (.unreachable "connection refused")), .now .ready⟩ }⟩

/-- What the wait is answered. -/
def laggingExchanges : List Exchange :=
  (lagging.plan 1000).exchanges lagging.world (lagging.watch 1000).calls

/-- A wait whose first check lags: **the later ones keep their distance from it.** -/
theorem lagging_paced : 0 < lagging.settings.tick ∧ lagging.started ≤ 1000 ∧
    checkTimes laggingExchanges = [10, 47, 57, 67] ∧ 10 + 3 * 10 ≤ 67 + 5 ∧
    (lagging.watch 1000).ending = .returned (.ok ⟨4, 67⟩) ∧ 4 * 10 ≤ 67 := by
  have htimes : checkTimes laggingExchanges = [10, 47, 57, 67] := by decide
  have hok : (lagging.watch 1000).ending = .returned (.ok ⟨4, 67⟩) := by decide
  obtain ⟨-, hburst, -, -, hlasted⟩ :=
    lagging.checks_paced (by decide) (show lagging.started ≤ 1000 by decide)
  refine ⟨by decide, by decide, htimes, ?_, hok, hlasted _ hok⟩
  exact hburst 0 3 10 67 (by decide) (congrArg (·[0]?) htimes) (congrArg (·[3]?) htimes)

end Scenario

end Sidecar
