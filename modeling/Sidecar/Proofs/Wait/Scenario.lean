import Sidecar.Proofs.Wait.Cut

/-!
# Proofs/Wait/Scenario — what a wait comes to, however long it is watched

A `Scenario` is all that a wait depends on but the horizon.  `EndsWith` and `GoesOn` are what can be
said of it without one: **a wait that has ended at some horizon ends so at every later one**
(`endsWith_watch`), and a scenario that never ends goes on at all of them.
-/

namespace Sidecar

open Wait

variable {σ : Type}

/-- What a wait comes to in its last state. -/
def Wait.State.outcome (s : State σ) (verdict : Verdict) : Outcome σ :=
  ⟨verdict, s.now, s.token, s.calls.reverse, s.world⟩

/-- A wait as it is called. -/
structure Scenario (σ : Type) where
  supervisor : Supervisor σ
  probe : Probe σ
  service : String
  settings : WaitSettings
  started : Nat
  token : Token
  world : σ

namespace Scenario

/-- The wait, watched up to a horizon. -/
def watch (w : Scenario σ) (horizon : Nat) : Outcome σ :=
  Wait.run w.supervisor w.probe w.service w.settings horizon w.started w.token w.world

/-- The wait ends so: **it is seen to whenever it is watched for long enough.** -/
def EndsWith (w : Scenario σ) (o : Outcome σ) : Prop :=
  o.ending ≠ .unwatched ∧ ∃ near, ∀ horizon, near ≤ horizon → w.watch horizon = o

/-- The wait never ends, however long it is watched. -/
def GoesOn (w : Scenario σ) : Prop :=
  ∀ horizon, w.started ≤ horizon → (w.watch horizon).ending = .unwatched

/-- The same wait with another limit. -/
def withMaxWait (w : Scenario σ) (maxWait : Option Nat) : Scenario σ :=
  { w with settings := { w.settings with maxWait } }

/-- The same wait with another token. -/
def withToken (w : Scenario σ) (token : Token) : Scenario σ := { w with token }

/-- **A wait ends in one way.** -/
theorem EndsWith.unique {w : Scenario σ} {o₁ o₂ : Outcome σ} (h₁ : w.EndsWith o₁)
    (h₂ : w.EndsWith o₂) : o₁ = o₂ := by
  obtain ⟨-, n₁, h₁⟩ := h₁
  obtain ⟨-, n₂, h₂⟩ := h₂
  rw [← h₁ (max n₁ n₂) (Nat.le_max_left _ _), ← h₂ (max n₁ n₂) (Nat.le_max_right _ _)]

/-- **What goes on for ever has no end.** -/
theorem GoesOn.not_endsWith {w : Scenario σ} (h : w.GoesOn) (o : Outcome σ) : ¬ w.EndsWith o := by
  rintro ⟨hne, near, ho⟩
  refine hne ?_
  rw [← ho (max w.started near) (Nat.le_max_right _ _)]
  exact h _ (Nat.le_max_left _ _)

/-! ## The steps of a scenario -/

/-- What the wait's steps are taken with. -/
def plan (w : Scenario σ) (horizon : Nat) : Plan σ :=
  ⟨w.service, w.supervisor, w.probe, ⟨w.settings.maxWait.map (w.started + ·), horizon⟩, w.started⟩

/-- The state that the first tick is awaited in. -/
def initial (w : Scenario σ) (ht : 0 < w.settings.tick) : State σ :=
  ⟨w.started, w.token, ⟨w.settings.tick, w.started + w.settings.tick, ht⟩, 0, [], w.world⟩

theorem inStep_initial (w : Scenario σ) (ht : 0 < w.settings.tick) (horizon : Nat) :
    InStep (w.plan horizon) .tick (w.initial ht) := ⟨rfl, by simp⟩

/-- **What is watched is the end of the steps.** -/
theorem ends_watch (w : Scenario σ) (ht : 0 < w.settings.tick) {horizon : Nat}
    (h : w.started ≤ horizon) :
    ∃ s verdict, Ends (w.plan horizon) .tick (w.initial ht) s verdict ∧
      w.watch horizon = s.outcome verdict := by
  refine ⟨_, _, ends_checks (horizon - w.started) (s := w.initial ht) h ?_, ?_⟩
  · simp only [plan, initial]
    omega
  · simp only [watch, run, Ticker.start?, ht, dif_pos, plan, initial]
    rfl

/-- **What the steps end with is watched.** -/
theorem watch_of_ends (w : Scenario σ) (ht : 0 < w.settings.tick) {horizon : Nat} {s : State σ}
    {verdict : Verdict} (h : w.started ≤ horizon)
    (he : Ends (w.plan horizon) .tick (w.initial ht) s verdict) :
    w.watch horizon = s.outcome verdict := by
  obtain ⟨s', verdict', he', hw⟩ := w.ends_watch ht h
  obtain ⟨rfl, rfl⟩ := he.unique he'
  exact hw

/-! ## One interruption more -/

/-- **Two scenarios that differ by an interruption**: the same outcome, but for the mark on its
token; or a wait that is cut at the instant, having made the early ones of the calls. -/
theorem watch_bound (i : Interruption) (w w' : Scenario σ) (ht : 0 < w.settings.tick)
    (ht' : 0 < w'.settings.tick) (horizon horizon' : Nat)
    (hplan : w'.plan horizon' = i.plan (w.plan horizon))
    (hinitial : w'.initial ht' = i.state (w.initial ht)) (hg : (w.plan horizon).guard = i.free)
    (hfit : i.Fits w.token) (he : i.Early w.started)
    (h : w.started ≤ horizon) (h' : w'.started ≤ horizon') :
    w'.watch horizon' =
          { w.watch horizon with token := i.mark (w.watch horizon).token } ∧
        i.Early (w.watch horizon).now ∨
      ∃ s : State σ, w'.watch horizon' = s.outcome (cutEnding (w.plan horizon) s i.cut) ∧
        s.now = i.instant ∧ s.ticks = callCount .status s.calls ∧
        i.Late (w.watch horizon).now ∧ (∀ call ∈ s.calls, i.Early call.1) ∧
        ∃ more, (w.watch horizon).calls = s.calls.reverse ++ more ∧
          ∀ call ∈ more, i.Late call.1 := by
  obtain ⟨s, verdict, hends, hw⟩ := w.ends_watch ht h
  rw [hw]
  rcases i.ends_bound hg hends hfit he (by simp [initial]) with
    ⟨hb, hearly⟩ | ⟨c, hb, hnow, hlate, hcalls, more, hmore, hle⟩ <;>
    rw [← hplan, ← hinitial] at hb
  · exact .inl ⟨w'.watch_of_ends ht' h' hb, hearly⟩
  · refine .inr ⟨c, w'.watch_of_ends ht' h' hb, hnow, hb.ticks_eq (w'.inStep_initial ht' _), hlate,
      hcalls, more.reverse, ?_, by simpa using hle⟩
    simp [State.outcome, hmore]

/-- The calls of a cut wait, picked from those of the free one. -/
theorem filter_eq_of_append {α : Type} {p : α → Bool} {all early late : List α}
    (h : all = early ++ late) (he : ∀ a ∈ early, p a) (hl : ∀ a ∈ late, ¬ p a) :
    early = all.filter p := by
  rw [h, List.filter_append, List.filter_eq_self.mpr he, List.filter_eq_nil_iff.mpr hl,
    List.append_nil]

/-! ## Watching for longer -/

/-- **What has ended stays ended**: a farther horizon shows the same. -/
theorem watch_eq_of_le (w : Scenario σ) (ht : 0 < w.settings.tick) {near far : Nat}
    (h : w.started ≤ near) (hle : near ≤ far) (hw : (w.watch near).ending ≠ .unwatched) :
    w.watch far = w.watch near := by
  rcases watch_bound (.horizon (w.settings.maxWait.map (w.started + ·)) hle) w w ht ht far near
      rfl rfl rfl trivial h (by omega) h with
    ⟨heq, -⟩ | ⟨s, heq, -⟩
  · exact heq.symm
  · exact absurd (congrArg Outcome.ending heq) hw

/-- A wait that is seen to end, ends so. -/
theorem endsWith_watch (w : Scenario σ) (ht : 0 < w.settings.tick) {near : Nat}
    (h : w.started ≤ near) (hw : (w.watch near).ending ≠ .unwatched) : w.EndsWith (w.watch near) :=
  ⟨hw, near, fun _ hle => w.watch_eq_of_le ht h hle hw⟩

/-- **A wait that is still going on at a horizon ends no earlier.** -/
theorem le_of_endsWith {w : Scenario σ} (ht : 0 < w.settings.tick) {near : Nat}
    (h : w.started ≤ near) (hw : (w.watch near).ending = .unwatched) {o : Outcome σ}
    (ho : w.EndsWith o) : near ≤ o.now := by
  obtain ⟨hne, n, hn⟩ := ho
  have hfar := hn (max near n) (Nat.le_max_right _ _)
  have hle := Nat.le_max_left near n
  rcases watch_bound (.horizon (w.settings.maxWait.map (w.started + ·)) hle) w w ht ht
      (max near n) near rfl rfl rfl trivial h (Nat.le_trans h hle) h with
    ⟨heq, -⟩ | ⟨_, -, -, -, hlate, -⟩
  · exact absurd (by rw [← hfar, ← hw, heq]) hne
  · exact hfar ▸ hlate

/-- **A wait returns, or is still going on at the horizon.** -/
theorem watch_cases (w : Scenario σ) (ht : 0 < w.settings.tick) {horizon : Nat}
    (h : w.started ≤ horizon) :
    (∃ result, (w.watch horizon).ending = .returned result) ∨
      (w.watch horizon).ending = .unwatched ∧ (w.watch horizon).now = horizon := by
  obtain ⟨s, verdict, he, ho⟩ := w.ends_watch ht h
  rw [ho]
  exact he.returned_or_unwatched

end Scenario

end Sidecar
