import Mathlib
import Sidecar.Proofs.CommandLine.Limit
import Sidecar.Proofs.Wait.Scenario

/-!
# Proofs/Wait/Range — the times that a wait computes

A wait adds to the clock: its deadline and its first tick as it begins, and with every tick the next
one.  Seconds are counted in a signed word of 64 bits; a sum beyond that would be fatal, as would a
ticker without an interval.  **No wait that can be asked for comes to either** (`wait_in_range`):
configured or given as an argument, a duration is less than `2 ^ 64` milliseconds, so a sum made in
the first half of the range lies within it (`Computes.lt_add`).
-/

namespace Sidecar

/-- A time that the clock can show: its seconds fit a signed word. -/
def IsInstant (time : Nat) : Prop := time / 1000 < 2 ^ 63

/-- A time in the first half of the range. -/
def IsEarlyInstant (time : Nat) : Prop := time / 1000 < 2 ^ 62

/-- **The first half leaves room for any sum of a wait.** -/
theorem IsEarlyInstant.isInstant {now time : Nat} (h : IsEarlyInstant now)
    (hlt : time < now + Duration.wordBound) : IsInstant time := by
  have hword : Duration.wordBound = 18446744073709551616 := rfl
  unfold IsEarlyInstant at h
  unfold IsInstant
  omega

namespace Wait

variable {σ : Type} {plan : Plan σ} {first s s' last : State σ} {phase : Phase} {verdict : Verdict}

/-! ## The states on the way -/

/-- A state that a wait comes to, and what it awaits there. -/
inductive Reached (plan : Plan σ) (first : State σ) : Phase → State σ → Prop where
  | first : Reached plan first .tick first
  | next {phase : Phase} {s s' : State σ} : Reached plan first phase s →
      step plan phase s = (s', none) → Reached plan first phase.next s'

/-- **The rest of the way leads to the same end.** -/
theorem Reached.ends (h : Reached plan first phase s) (he : Ends plan .tick first last verdict) :
    Ends plan phase s last verdict := by
  induction h with
  | first => exact he
  | next _ hs ih =>
    cases ih with
    | now hs' => simp [hs] at hs'
    | later hs' hends =>
      obtain rfl : _ = _ := congrArg Prod.fst (hs.symm.trans hs')
      exact hends

theorem Reached.now_le_horizon (h : Reached plan first phase s)
    (hfirst : first.now ≤ plan.guard.horizon) : s.now ≤ plan.guard.horizon := by
  induction h with
  | first => exact hfirst
  | @next phase s s' _ hs ih => simpa [hs] using (later_step phase ih).2

/-- **The clock of the last state is ahead of every other.** -/
theorem Reached.now_le (h : Reached plan first phase s) (he : Ends plan .tick first last verdict)
    (hfirst : first.now ≤ plan.guard.horizon) : s.now ≤ last.now :=
  ((h.ends he).later_state (h.now_le_horizon hfirst)).1.now_le

/-- **No step changes the interval.** -/
theorem interval_step (hs : step plan phase s = (s', none)) :
    s'.ticker.interval = s.ticker.interval := by
  obtain ⟨-, -, hcompleted, -⟩ := completed_of_step hs
  rw [hcompleted]
  cases phase <;> rfl

/-- **A ticker keeps its interval.** -/
theorem Reached.interval_eq (h : Reached plan first phase s) :
    s.ticker.interval = first.ticker.interval := by
  induction h with
  | first => rfl
  | next _ hs ih => rw [interval_step hs, ih]

/-- **A tick completes when it is due, or later**, and makes the next one due. -/
theorem due_of_tick (hs : step plan .tick s = (s', none)) :
    s.ticker.due ≤ s'.now ∧ s'.ticker = s.ticker.advance s'.now := by
  obtain ⟨-, hset, hcompleted, -⟩ := completed_of_step hs
  have hdue : max s.now s.ticker.due = s'.now := Option.some.inj (Guard.settle_eq_none hset)
  exact ⟨hdue ▸ Nat.le_max_right _ _, by rw [hcompleted]; rfl⟩

/-- **Rounds never want for an interval.** -/
theorem checks_ne_noInterval (plan : Plan σ) (rounds : Nat) (s : State σ) :
    (checks plan rounds s).2 ≠ .noInterval := by
  induction rounds generalizing s with
  | zero => simp [checks]
  | succ rounds ih =>
    rcases hc : check plan s with ⟨s', _ | verdict⟩
    · simpa only [checks, hc] using ih s'
    · simp only [checks, hc]
      rcases (ends_of_check hc).returned_or_unwatched with ⟨result, rfl⟩ | ⟨rfl, -⟩ <;> simp

end Wait

namespace Scenario

open Wait

variable {σ : Type} (w : Scenario σ)

/-- **Only a wait without an interval comes to a ticker without one.** -/
theorem watch_noInterval_iff (horizon : Nat) :
    (w.watch horizon).ending = .noInterval ↔ w.settings.tick = 0 := by
  simp only [watch, run, Ticker.start?]
  by_cases ht : 0 < w.settings.tick
  · simp only [ht, dif_pos]
    exact iff_of_false (checks_ne_noInterval _ _ _) (Nat.pos_iff_ne_zero.mp ht)
  · simpa [ht] using Nat.eq_zero_of_not_pos ht

/-! ## What is computed, and when -/

/-- A wait that is watched up to a horizon computes a time: at which instant, and which.  With every
tick that completes, it computes until when that would have been in time, and when the next is
due. -/
inductive Computes (horizon : Nat) : Nat → Nat → Prop where
  | deadline {time : Nat} : (w.plan horizon).guard.deadline = some time →
      Computes horizon w.started time
  | firstDue (ht : 0 < w.settings.tick) : Computes horizon w.started (w.initial ht).ticker.due
  | inTime {ht : 0 < w.settings.tick} {s s' : State σ} :
      Reached (w.plan horizon) (w.initial ht) .tick s →
      step (w.plan horizon) .tick s = (s', none) →
      Computes horizon s'.now (s.ticker.due + Ticker.tolerance)
  | nextDue {ht : 0 < w.settings.tick} {s s' : State σ} :
      Reached (w.plan horizon) (w.initial ht) .tick s →
      step (w.plan horizon) .tick s = (s', none) → Computes horizon s'.now s'.ticker.due

variable {w} {horizon now time : Nat}

/-- **What is computed is computed before the end.** -/
theorem Computes.now_le (h : w.Computes horizon now time) (ht : 0 < w.settings.tick)
    (hstarted : w.started ≤ horizon) : now ≤ (w.watch horizon).now := by
  obtain ⟨last, verdict, hends, hwatch⟩ := w.ends_watch ht hstarted
  rw [hwatch]
  cases h with
  | deadline | firstDue => exact (hends.later_state hstarted).1.now_le
  | inTime hs hstep | nextDue hs hstep => exact (hs.next hstep).now_le hends hstarted

/-- **A sum is larger than the clock by less than a word of milliseconds.** -/
theorem Computes.lt_add (h : w.Computes horizon now time)
    (htick : w.settings.tick < Duration.wordBound)
    (hmax : ∀ limit ∈ w.settings.maxWait, limit < Duration.wordBound) :
    time < now + Duration.wordBound := by
  cases h with
  | deadline hdeadline =>
    obtain ⟨limit, hlimit, rfl⟩ := Option.map_eq_some_iff.mp hdeadline
    exact Nat.add_lt_add_left (hmax limit hlimit) _
  | firstDue ht => exact Nat.add_lt_add_left htick _
  | inTime hs hstep =>
    have hdue := (due_of_tick hstep).1
    have htolerance : Ticker.tolerance < Duration.wordBound := by decide
    omega
  | @nextDue ht s s' hs hstep =>
    obtain ⟨hdue, hadvance⟩ := due_of_tick hstep
    have hinterval : s.ticker.interval = w.settings.tick := hs.interval_eq
    have hnext : s'.ticker.due ≤ s'.now + s.ticker.interval := by
      rw [hadvance, Ticker.advance]
      split <;> simp only <;> omega
    omega

end Scenario

/-! ## The waits that can be asked for -/

namespace CommandLine

variable {args : List String} {i : Invocation} {c : Config}

/-- **Whatever is asked for, durations are counted in a word.** -/
theorem settings_lt (hread : read args = .ok i) (hc : c.Sound) :
    (i.settings c.waitSettings).tick < Duration.wordBound ∧
      ∀ limit ∈ (i.settings c.waitSettings).maxWait, limit < Duration.wordBound := by
  rw [Invocation.settings_eq]
  refine ⟨hc.tick_lt, fun limit hlimit => ?_⟩
  cases hmax : i.maxWait with
  | none => exact hc.maxWait_lt limit (by simpa [hmax] using hlimit)
  | some d =>
    obtain rfl : d.millis = limit := by simpa [hmax] using hlimit
    exact (isWritten_of_read hread d hmax).millis_lt

/-- **No wait panics that can be asked for.**  Its ticker has an interval of a millisecond at least;
and each time that it computes in the first half of the clock's range, while it lasts, is within the
range.  So are all of them if it has ended in the first half. -/
theorem wait_in_range {σ : Type} {text path : String} (hparse : Config.parse text path = .ok c)
    (hread : read args = .ok i) (w : Scenario σ) (hw : w.settings = i.settings c.waitSettings)
    {horizon : Nat} (h : w.started ≤ horizon) :
    1 ≤ w.settings.tick ∧ (w.watch horizon).ending ≠ .noInterval ∧
    (∀ now time, w.Computes horizon now time →
      now ≤ (w.watch horizon).now ∧ (IsEarlyInstant now → IsInstant time)) ∧
    (IsEarlyInstant (w.watch horizon).now →
      ∀ now time, w.Computes horizon now time → IsInstant time) := by
  have hsound := Config.sound_of_parse hparse
  have ht : 0 < w.settings.tick := by
    rw [hw, Invocation.settings_eq]
    exact hsound.tick_pos
  obtain ⟨htick, hmax⟩ := settings_lt hread hsound
  rw [← hw] at htick hmax
  refine ⟨ht, fun hnone => ?_, fun now time hcomputes => ⟨hcomputes.now_le ht h, ?_⟩,
    fun hend now time hcomputes => ?_⟩
  · exact Nat.pos_iff_ne_zero.mp ht ((w.watch_noInterval_iff horizon).mp hnone)
  · intro hnow
    exact hnow.isInstant (hcomputes.lt_add htick hmax)
  · have hle := hcomputes.now_le ht h
    have hlt := hcomputes.lt_add htick hmax
    exact hend.isInstant (by omega)

/-! ## The longest wait, begun as late as can be -/

/-- A file with the longest interval that can be written. -/
def longestText : String :=
  "service_name: mysql\nstate_file_path: state.txt\ngalera_init_address: 127.0.0.1:8114\n"
    ++ "readiness:\n  tick_interval: 18446744073709551615ms\n"
    ++ "monit:\n  username: vcap\n  password: secret\n"

/-- What the file means. -/
def longestConfig : Config :=
  { configured with readiness := ⟨.ofMillis (2 ^ 64 - 1), .ofSeconds 1, none⟩ }

/-- Arguments with the longest limit that can be written. -/
def longestArgs : List String :=
  ["-f", "sidecar.yml", "join", "--max-wait", "18446744073709551615ms"]

/-- What the arguments mean. -/
def longestInvocation : Invocation :=
  ⟨"sidecar.yml", false, .run .join, some (.ofMillis (2 ^ 64 - 1))⟩

/-- The wait that they ask for, at the last instant of the first half. -/
def longest : Scenario Unit :=
  (longestInvocation.orchestrator .accepting longestConfig).waitAfter configuredScene
    (2 ^ 62 * 1000 - 1)

/-- The longest interval, begun at the last early instant. -/
theorem longest_in_range :
    Config.parse longestText "sidecar.yml" = .ok longestConfig ∧
    read longestArgs = .ok longestInvocation ∧
    longest.settings = longestInvocation.settings longestConfig.waitSettings ∧
    IsEarlyInstant longest.started ∧
    (longest.watch longest.started).ending ≠ .noInterval ∧
    IsInstant (2 ^ 62 * 1000 - 1 + (2 ^ 64 - 1)) := by
  have hparse : Config.parse longestText "sidecar.yml" = .ok longestConfig := by decide +kernel
  have hread : read longestArgs = .ok longestInvocation := by decide +kernel
  have hsettings : longest.settings = longestInvocation.settings longestConfig.waitSettings := rfl
  have hearly : IsEarlyInstant longest.started := by
    rw [IsEarlyInstant]
    decide +kernel
  obtain ⟨-, hending, hcomputed, -⟩ :=
    wait_in_range hparse hread longest hsettings (Nat.le_refl longest.started)
  refine ⟨hparse, hread, hsettings, hearly, hending, ?_⟩
  exact (hcomputed _ _ (.deadline rfl)).2 hearly

end CommandLine

end Sidecar
