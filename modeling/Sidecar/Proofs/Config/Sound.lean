import Mathlib.Control.Monad.Basic
import Sidecar.Config.File
import Sidecar.Proofs.Peel

/-!
# Proofs/Config/Sound — what holds of every configuration that is accepted

A configuration that has been read has no flaw, and each of its durations stands for some text.  So
they are whole milliseconds, fewer than `2 ^ 64`, and nothing is lost when the wait counts them so:
**it checks at a positive interval, and never with a limit of zero** (`Sound.tick_pos`,
`Sound.maxWait_ne_zero`).
-/

namespace Sidecar

/-! ## Durations that are read -/

/-- A duration without a fraction of a millisecond. -/
def Duration.IsWhole (d : Duration) : Prop := .ofMillis d.millis = d

/-- A duration that some text stands for. -/
def Duration.IsWritten (d : Duration) : Prop := ∃ text, parse text = .ok d

namespace Duration

theorem isWhole_ofMillis (n : Nat) : (ofMillis n).IsWhole := by rw [IsWhole, millis_ofMillis]

/-- **Only whole milliseconds can be written, and no more of them than 64 bits count.** -/
theorem IsWritten.eq_ofMillis {d : Duration} (h : d.IsWritten) :
    ∃ n < wordBound, d = ofMillis n := by
  obtain ⟨text, h⟩ := h
  unfold parse at h
  split at h
  · cases h
  · simp only at h
    split at h
    · cases h
    · cases h
    · split at h
      · exact ⟨_, ‹_›, (Except.ok.inj h).symm⟩
      · cases h

/-- **A duration that is written is a whole number of milliseconds.** -/
theorem IsWritten.isWhole {d : Duration} (h : d.IsWritten) : d.IsWhole := by
  obtain ⟨n, -, rfl⟩ := h.eq_ofMillis
  exact isWhole_ofMillis n

/-- **A duration that is written fits in a word.** -/
theorem IsWritten.millis_lt {d : Duration} (h : d.IsWritten) : d.millis < wordBound := by
  obtain ⟨n, hn, rfl⟩ := h.eq_ofMillis
  rwa [millis_ofMillis]

/-- **A whole duration of no millisecond is none at all.** -/
theorem IsWhole.millis_eq_zero_iff {d : Duration} (h : d.IsWhole) :
    d.millis = 0 ↔ d = ofMillis 0 :=
  ⟨fun hzero => by rw [← h, hzero], fun hzero => by rw [hzero, millis_ofMillis]⟩

theorem isZero_iff (d : Duration) : d.isZero = true ↔ d = ofMillis 0 := by
  cases d
  simp [isZero, ofMillis]

end Duration

/-! ## Records -/

section Record

open Yaml

variable {α β : Type} {P : α → Prop} {d : Document} {known : List String}
  {assign : String → Node → α → Except RecordError α} {draft : α}

/-- **What every assignment keeps holds of the draft at the end.** -/
theorem Yaml.Document.readEntries_keeps
    (hassign : ∀ name node a a', P a → assign name node a = .ok a' → P a')
    {seen : List String} {entries : List Yaml.Entry} {result : α} (hdraft : P draft)
    (h : d.readEntries known assign seen draft entries = .ok result) : P result := by
  induction entries generalizing seen draft with
  | nil => exact Except.ok.inj h ▸ hdraft
  | cons entry rest ih =>
    simp only [readEntries, bind_eq_ok_iff, mapError_eq_ok_iff] at h
    obtain ⟨name, -, next, hnext, h⟩ := h
    exact ih (hassign _ _ _ _ hdraft hnext) h

/-- **What every assignment keeps holds of the draft that a record is made of.** -/
theorem Yaml.Document.record_keeps
    (hassign : ∀ name node a a', P a → assign name node a = .ok a' → P a') {expected : String}
    {finish : α → Except Complaint β} {node : Node} {result : β} (hdraft : P draft)
    (h : d.record expected known assign draft finish node = .ok result) :
    ∃ a, P a ∧ finish a = .ok result := by
  have hfilled {entries : List Yaml.Entry} {isClosed : Bool} {e : RecordError}
      (h : (do
        let a ← d.readEntries known assign [] draft entries
        if isClosed then (finish a).mapError RecordError.complaint else throw e) = .ok result) :
      ∃ a, P a ∧ finish a = .ok result := by
    obtain ⟨a, ha, h⟩ := bind_eq_ok_iff.mp h
    refine ⟨a, readEntries_keeps hassign hdraft ha, ?_⟩
    split at h
    · exact mapError_eq_ok_iff.mp h
    · cases h
  have hempty (h : (finish draft).mapError RecordError.complaint = .ok result) :
      ∃ a, P a ∧ finish a = .ok result := ⟨draft, hdraft, mapError_eq_ok_iff.mp h⟩
  unfold record at h
  split at h
  · cases h
  · rename_i item p body _
    have hbody {isEmpty : Bool} (h : (if isEmpty then (finish draft).mapError RecordError.complaint
        else if item = .mappingStart then do
          let a ← d.readEntries known assign [] draft (entries body).1
          if (entries body).2 then (finish a).mapError RecordError.complaint
          else throw (d.brokenOff.under none)
        else throw (.complaint (item.mismatch expected))) = .ok result) :
        ∃ a, P a ∧ finish a = .ok result := by
      split at h
      · exact hempty h
      · split at h
        · exact hfilled h
        · cases h
    exact hbody (mapError_eq_ok_iff.mp h)

end Record

/-! ## Configurations -/

namespace Config

/-- Durations that stand for texts, **be they written or left out.** -/
structure Readiness.IsWritten (r : Readiness) : Prop where
  tickInterval : r.tickInterval.IsWritten
  probeTimeout : r.probeTimeout.IsWritten
  maxWait : ∀ d ∈ r.maxWait, d.IsWritten

theorem Readiness.isWritten_default : Readiness.default.IsWritten := by
  have hsecond : (Duration.ofSeconds 1).IsWritten := ⟨"1s", by decide +kernel⟩
  exact ⟨hsecond, hsecond, by simp [Readiness.default]⟩

theorem isWritten_of_duration {text : String} {d : Duration} (h : duration text = .ok d) :
    d.IsWritten := ⟨text, mapError_eq_ok_iff.mp h⟩

theorem Readiness.isWritten_of_assign {d : Yaml.Document} {name : String} {node : Yaml.Node}
    {r r' : Readiness} (hr : r.IsWritten) (h : Readiness.assign d name node r = .ok r') :
    r'.IsWritten := by
  unfold Readiness.assign at h
  split at h
  · obtain ⟨text, -, h⟩ := bind_eq_ok_iff.mp h
    obtain ⟨span, hspan, h⟩ := bind_eq_ok_iff.mp h
    exact Except.ok.inj h ▸ { hr with tickInterval := isWritten_of_duration hspan }
  · split at h
    · obtain ⟨text, -, h⟩ := bind_eq_ok_iff.mp h
      obtain ⟨span, hspan, h⟩ := bind_eq_ok_iff.mp h
      exact Except.ok.inj h ▸ { hr with probeTimeout := isWritten_of_duration hspan }
    · obtain ⟨text?, -, h⟩ := bind_eq_ok_iff.mp h
      cases text? with
      | none => exact Except.ok.inj h ▸ { hr with maxWait := by simp }
      | some text =>
        obtain ⟨span, hspan, h⟩ := bind_eq_ok_iff.mp h
        exact Except.ok.inj h ▸ { hr with maxWait := by simpa using isWritten_of_duration hspan }

/-- **Readiness settings that are read are written durations.** -/
theorem Readiness.isWritten_of_read {d : Yaml.Document} {node : Yaml.Node} {r : Readiness}
    (h : Readiness.read d node = .ok r) : r.IsWritten := by
  obtain ⟨r', hr', hfinish⟩ :=
    Yaml.Document.record_keeps (fun _ _ _ _ => isWritten_of_assign) isWritten_default h
  exact Except.ok.inj hfinish ▸ hr'

theorem isWritten_of_assign {d : Yaml.Document} {name : String} {node : Yaml.Node} {c c' : Draft}
    (hc : ∀ r ∈ c.readiness, r.IsWritten) (h : assign d name node c = .ok c') :
    ∀ r ∈ c'.readiness, r.IsWritten := by
  unfold assign at h
  repeat' split at h
  all_goals obtain ⟨value, hvalue, h⟩ := bind_eq_ok_iff.mp h
  case isFalse.isFalse.isFalse.isTrue =>
    exact Except.ok.inj h ▸ by simpa using Readiness.isWritten_of_read hvalue
  all_goals exact Except.ok.inj h ▸ hc

/-- **A configuration is flawless when it breaks none of the rules.** -/
theorem flaw?_eq_none_iff (c : Config) : c.flaw? = none ↔
    Text.isBlankText c.service = false ∧ Text.isBlankText c.address = false ∧
      Text.holds "://".toList c.address.toList = false ∧
      c.readiness.tickInterval.isZero = false ∧ c.readiness.probeTimeout.isZero = false ∧
      c.readiness.maxWait.any (·.isZero) = false := by
  unfold flaw?
  repeat' split
  all_goals simp_all

/-- A configuration that can be used as it is. -/
structure Sound (c : Config) : Prop where
  flawless : c.flaw? = none
  isWritten : c.readiness.IsWritten

theorem isWritten_of_readOnly {text : String} {c : Config}
    (h : Yaml.Document.readOnly text read = .ok c) : c.readiness.IsWritten := by
  obtain ⟨c', hread, h⟩ := bind_eq_ok_iff.mp h
  obtain rfl : c' = c := by
    split at h
    · cases h
    · split at h
      · cases h
      · exact Except.ok.inj h
  obtain ⟨draft, hdraft, hfinish⟩ := Yaml.Document.record_keeps (P := fun c : Draft =>
    ∀ r ∈ c.readiness, r.IsWritten) (fun _ _ _ _ => isWritten_of_assign) (by simp [Draft.empty])
    hread
  simp only [finish, bind_eq_ok_iff] at hfinish
  obtain ⟨_, -, _, -, _, -, _, -, hfinish⟩ := hfinish
  rw [← Except.ok.inj hfinish]
  cases hr : draft.readiness with
  | none => exact Readiness.isWritten_default
  | some r => exact hdraft r hr

/-- **A configuration that is read is sound.** -/
theorem sound_of_parse {text path : String} {c : Config} (h : parse text path = .ok c) :
    c.Sound := by
  obtain ⟨c', hread, h⟩ := bind_eq_ok_iff.mp h
  split at h
  · cases h
  · obtain rfl := Except.ok.inj h
    exact ⟨‹_›, isWritten_of_readOnly (mapError_eq_ok_iff.mp hread)⟩

theorem load_of_readText {tree : FileTree} {path text : String}
    (h : tree.readText path = .ok text) : load tree path = parse text path := by
  rw [load, h]
  rfl

/-- **Every configuration that is loaded is sound.** -/
theorem sound_of_load {tree : FileTree} {path : String} {c : Config}
    (h : load tree path = .ok c) : c.Sound := by
  obtain ⟨text, -, h⟩ := bind_eq_ok_iff.mp h
  exact sound_of_parse h

namespace Sound

variable {c : Config}

/-- **There is time between two checks.** -/
theorem tick_pos (h : c.Sound) : 0 < c.waitSettings.tick := by
  refine Nat.pos_of_ne_zero fun hzero => ?_
  have hflaw : c.readiness.tickInterval.isZero = true :=
    (Duration.isZero_iff _).mpr (h.isWritten.tickInterval.isWhole.millis_eq_zero_iff.mp hzero)
  obtain ⟨-, -, -, htick, -⟩ := (flaw?_eq_none_iff c).mp h.flawless
  rw [hflaw] at htick
  cases htick

theorem maxWait_ne_zero (h : c.Sound) : c.waitSettings.maxWait ≠ some 0 := by
  intro hzero
  obtain ⟨d, hd, hmillis⟩ := Option.map_eq_some_iff.mp hzero
  have hflaw : c.readiness.maxWait.any (·.isZero) = true := by
    rw [hd, Option.any_some, Duration.isZero_iff]
    exact ((h.isWritten.maxWait d hd).isWhole.millis_eq_zero_iff).mp hmillis
  obtain ⟨-, -, -, -, -, hmax⟩ := (flaw?_eq_none_iff c).mp h.flawless
  rw [hflaw] at hmax
  cases hmax

theorem tick_lt (h : c.Sound) : c.waitSettings.tick < Duration.wordBound :=
  h.isWritten.tickInterval.millis_lt

theorem maxWait_lt (h : c.Sound) :
    ∀ limit ∈ c.waitSettings.maxWait, limit < Duration.wordBound := by
  intro limit hlimit
  obtain ⟨d, hd, rfl⟩ := Option.map_eq_some_iff.mp hlimit
  exact (h.isWritten.maxWait d hd).millis_lt

end Sound

end Config

end Sidecar
