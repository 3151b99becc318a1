import Sidecar.Wait

/-!
# Proofs/Wait/Guard — when a guarded thing ends, and what an added interruption changes

A guard never turns the clock back and never looks beyond its horizon.  The rest compares two guards
of which one has an interruption more: a deadline, a timed signal or a nearer horizon.  Each of the
three is an `Interruption`: **what would end too late is cut at one instant, and all else is as it
was.**  Everything that is proved of a wait that is cut short starts from these three facts.
-/

namespace Sidecar

namespace Token

variable {α : Type}

/-- The token with one more signal to come. -/
def timed (t : Token) (time : Nat) : Token := { t with signalAt := some time }

/-- **A token is not signalled** up to the instant at which it will be. -/
theorem isSignalled_eq_false_iff (t : Token) (now : Nat) :
    t.isSignalled now = false ↔ t.signalled = false ∧ ∀ c, t.signalAt = some c → now ≤ c := by
  cases h : t.signalAt <;> simp [isSignalled, h]

/-- **A call leaves the timed signal alone.** -/
@[simp] theorem signalAt_afterCall (t : Token) (c : Call α) :
    (t.afterCall c).signalAt = t.signalAt := by
  unfold afterCall
  split <;> rfl

theorem timed_afterCall (t : Token) (time : Nat) (c : Call α) :
    (t.afterCall c).timed time = (t.timed time).afterCall c := by
  cases h : c.signals <;> simp [afterCall, signal, timed, h]

end Token

namespace Guard

/-- **Nothing is refused** before the deadline and the signal. -/
theorem refuse?_eq_none_iff (g : Guard) (t : Token) (now : Nat) :
    g.refuse? t now = none ↔ t.isSignalled now = false ∧ ∀ d, g.deadline = some d → now < d := by
  cases ht : t.isSignalled now <;> cases hd : g.deadline <;> simp [refuse?, ht, hd]

/-! ## The clock -/

/-- **A guard does not look beyond its horizon.** -/
theorem settle_le_horizon (g : Guard) (t : Token) {now : Nat} (finish : Option Nat)
    (h : now ≤ g.horizon) : (g.settle t now finish).1 ≤ g.horizon := by
  cases finish <;> cases g.deadline <;> cases t.signalAt <;> grind [settle]

/-- **A guard does not turn the clock back.** -/
theorem le_settle {g : Guard} {t₀ t : Token} {now : Nat} {finish : Option Nat}
    (h : now ≤ g.horizon) (hf : ∀ f, finish = some f → now ≤ f)
    (hr : g.refuse? t₀ now = none) (ht : t.signalAt = t₀.signalAt) :
    now ≤ (g.settle t now finish).1 := by
  obtain ⟨hs, hd⟩ := (refuse?_eq_none_iff g t₀ now).mp hr
  obtain ⟨-, hc⟩ := (t₀.isSignalled_eq_false_iff now).mp hs
  cases finish <;> cases hdl : g.deadline <;> cases hsa : t.signalAt <;> grind [settle]

/-- **What completes does so at its own time.** -/
theorem settle_eq_none {g : Guard} {t : Token} {now time : Nat} {finish : Option Nat}
    (h : g.settle t now finish = (time, none)) : finish = some time := by
  cases finish <;> cases g.deadline <;> cases t.signalAt <;> grind [settle]

/-- **A guard awaits nothing beyond its completion.** -/
theorem settle_le_finish (g : Guard) (t : Token) {now f : Nat} (h : now ≤ f) :
    (g.settle t now (some f)).1 ≤ f := by
  cases g.deadline <;> cases t.signalAt <;> grind [settle]

/-- **Only the horizon leaves a thing unwatched.** -/
theorem settle_eq_unwatched {g : Guard} {t : Token} {now time : Nat} {finish : Option Nat}
    (h : g.settle t now finish = (time, some .unwatched)) : time = g.horizon := by
  cases finish <;> cases g.deadline <;> cases t.signalAt <;> grind [settle]

theorem refuse?_ne_unwatched (g : Guard) (t : Token) (now : Nat) :
    g.refuse? t now ≠ some .unwatched := by
  unfold refuse?
  split
  · simp
  · split <;> simp

/-- **After a thing that was let and has completed, the next is let too.** -/
theorem refuse?_of_settle {g : Guard} {t : Token} {now time : Nat} {finish : Option Nat}
    (hr : g.refuse? t now = none) (h : g.settle t now finish = (time, none)) :
    g.refuse? t time = none := by
  obtain ⟨hs, hd⟩ := (refuse?_eq_none_iff g t now).mp hr
  obtain ⟨hsig, hc⟩ := (t.isSignalled_eq_false_iff now).mp hs
  rw [refuse?_eq_none_iff, Token.isSignalled_eq_false_iff]
  cases finish <;> cases hdl : g.deadline <;> cases hsa : t.signalAt <;> grind [settle]

end Guard

/-! ## One interruption more -/

/-- Two guards, of which `bound` has an interruption more than `free`.  `mark` is what the
interruption does to a token, and is meant for those that `Fits` admits. -/
structure Interruption where
  free : Guard
  bound : Guard
  mark : Token → Token
  Fits : Token → Prop
  /-- The times that the interruption does not reach. -/
  Early : Nat → Prop
  /-- The times that only the `free` guard lets a thing reach. -/
  Late : Nat → Prop
  instant : Nat
  cut : Cut
  mark_afterCall : ∀ {α : Type} (t : Token) (c : Call α),
    mark (t.afterCall c) = (mark t).afterCall c
  fits_afterCall : ∀ {α : Type} {t : Token} (c : Call α), Fits t → Fits (t.afterCall c)
  refuse : ∀ {t now}, Fits t → Early now → bound.refuse? (mark t) now = free.refuse? t now
  /-- **What ends early is let; what would end late is cut at the instant.** -/
  settle : ∀ {t now} (finish : Option Nat), Fits t → Early now →
    bound.settle (mark t) now finish = free.settle t now finish ∧
        Early (free.settle t now finish).1 ∨
      bound.settle (mark t) now finish = (instant, some cut) ∧
        Late (free.settle t now finish).1
  le_horizon : ∀ {now}, Early now → now ≤ free.horizon
  late_of_le : ∀ {a b}, Late a → a ≤ b → Late b

namespace Interruption

/-- A deadline wins over all that happens at its instant. -/
def deadline (horizon d : Nat) (h : d ≤ horizon) : Interruption where
  free := ⟨none, horizon⟩
  bound := ⟨some d, horizon⟩
  mark := id
  Fits _ := True
  Early now := now < d
  Late now := d ≤ now
  instant := d
  cut := .timedOut
  mark_afterCall _ _ := rfl
  fits_afterCall _ _ := trivial
  refuse _ he := by simp [Guard.refuse?, Nat.not_le.mpr he]
  settle {t now} finish _ he := by
    cases finish <;> cases hsa : t.signalAt <;> grind [Guard.settle]
  le_horizon he := Nat.le_trans (Nat.le_of_lt he) h
  late_of_le := Nat.le_trans

/-- A timed signal comes after all that happens at its instant. -/
def signal (g : Guard) (c : Nat) (h : c < g.horizon) : Interruption where
  free := g
  bound := g
  mark := (·.timed c)
  Fits t := t.signalAt = none
  Early now := now ≤ c
  Late now := c < now
  instant := c
  cut := .cancelled
  mark_afterCall t call := t.timed_afterCall c call
  fits_afterCall call ht := by simpa using ht
  refuse {t now} ht he := by
    have : (t.timed c).isSignalled now = t.isSignalled now := by
      simp [Token.isSignalled, Token.timed, ht, Nat.not_lt.mpr he]
    simp [Guard.refuse?, this]
  settle {t now} finish ht he := by
    cases finish <;> cases hd : g.deadline <;> grind [Guard.settle, Token.timed, Token.isSignalled]
  le_horizon he := by omega
  late_of_le := Nat.lt_of_lt_of_le

/-- A nearer horizon hides all that happens behind it, **and signals timed for its instant.** -/
def horizon (d : Option Nat) {near far : Nat} (h : near ≤ far) : Interruption where
  free := ⟨d, far⟩
  bound := ⟨d, near⟩
  mark := id
  Fits _ := True
  Early now := now ≤ near
  Late now := near ≤ now
  instant := near
  cut := .unwatched
  mark_afterCall _ _ := rfl
  fits_afterCall _ _ := trivial
  refuse _ _ := rfl
  settle {t now} finish _ he := by
    cases finish <;> cases d <;> cases hsa : t.signalAt <;> grind [Guard.settle]
  le_horizon he := Nat.le_trans he h
  late_of_le := Nat.le_trans

end Interruption

end Sidecar
