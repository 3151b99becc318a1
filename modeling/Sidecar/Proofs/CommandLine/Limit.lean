import Mathlib
import Sidecar.CommandLine.Run
import Sidecar.Proofs.Config.Sound
import Sidecar.Proofs.Http.Client
import Sidecar.Proofs.Lifecycle.Agreement

/-!
# Proofs/CommandLine/Limit — the limit that a wait gets, from the file or from the arguments

A limit may be written in the configuration or after `--max-wait`; the second takes the first one's
place and nothing else.  Both are whole milliseconds, but **only the configured one is known to be
positive**: a wait is over as it begins just when the arguments say `0` (`over_iff_zero_limit`), and
then the service is started all the same (`zero_limit_starts`).
-/

namespace Sidecar

/-- A wait whose deadline has passed when it begins. -/
def Scenario.IsOver {σ : Type} (w : Scenario σ) : Prop :=
  ∃ limit ∈ w.settings.maxWait, w.started + limit ≤ w.started

/-- **A wait is over before it begins just if its limit is zero.** -/
theorem Scenario.isOver_iff {σ : Type} (w : Scenario σ) :
    w.IsOver ↔ w.settings.maxWait = some 0 := by
  cases h : w.settings.maxWait with
  | none => simp [IsOver, h]
  | some limit =>
    rw [IsOver, h]
    constructor
    · rintro ⟨limit', hmem, hle⟩
      obtain rfl : limit' = 0 := by omega
      exact hmem
    · intro hzero
      exact ⟨0, hzero, Nat.le_refl _⟩

/-- **A wait that is over asks nothing.** -/
theorem Scenario.watch_of_isOver {σ : Type} (w : Scenario σ) (ht : 0 < w.settings.tick)
    (hover : w.IsOver) (htoken : w.token.isSignalled w.started = false) {horizon : Nat}
    (h : w.started ≤ horizon) : w.watch horizon =
      ⟨.returned (.error (.timeout w.service 0 0)), w.started, w.token, [], w.world⟩ := by
  have hrefused : (w.plan horizon).guard.refuse? (w.initial ht).token (w.initial ht).now
      = some .timedOut := by
    simp [Guard.refuse?, initial, plan, htoken, w.isOver_iff.mp hover]
  rw [w.watch_of_ends ht h (.now (Wait.step_of_refused hrefused))]
  simp [Wait.State.outcome, Wait.cutEnding, initial, plan]

namespace Orchestrator

variable {σ : Type} {o : Orchestrator σ} {horizon : Nat} {temp : Marker.TempFile} {s : Scene σ}

/-- **A start whose wait is over as it begins starts the service** and reports a timeout. -/
theorem startDeclared_of_isOver (intent : Intent) {state : DeclaredState}
    (hwritten : (Marker.write s.files o.statePath state temp).1 = .ok ())
    (hstart : o.startEnding horizon s = .returned (.ok ())) {started : Nat}
    (hfinish : (o.supervisor.start o.service s.world).1.finish s.now = some started)
    (ht : 0 < o.settings.tick) (hover : (o.waitAfter s started).IsOver)
    (htoken : (o.waitAfter s started).token.isSignalled started = false) :
    s.Makes (o.startDeclared horizon temp intent state s).1
        (Marker.write s.files o.statePath state temp).2 [.start] ∧
      (o.startDeclared horizon temp intent state s).2
        = .returned (.error (.wait (.timeout o.service 0 0))) := by
  obtain ⟨hseen, hle⟩ := Call.watchedUntil_of_returned hstart
  obtain rfl := Option.some.inj (hfinish.symm.trans hseen)
  rw [startDeclared_of_accepted hwritten hstart hfinish,
    (o.waitAfter s _).watch_of_isOver ht hover htoken hle]
  exact ⟨⟨rfl, _, rfl, rfl, by simp⟩, rfl⟩

end Orchestrator

namespace CommandLine

/-! ## A limit that is read stands for a text -/

namespace Given

/-- The limit, if it has been given, stands for a text. -/
def IsWritten (g : Given) : Prop := ∀ d ∈ g.maxWait, d.IsWritten

theorem isWritten_none : Given.none.IsWritten := by simp [IsWritten, Given.none]

variable {g g' : Given} {l : Level} {flag : Flag}

/-- **A limit that is taken is one that was written.** -/
theorem IsWritten.take {value : String} (hg : g.IsWritten) (h : g.take flag value = .ok g') :
    g'.IsWritten := by
  unfold Given.take at h
  cases flag with
  | file =>
    simp only at h
    repeat' split at h
    · cases h
    · cases h
    · exact Except.ok.inj h ▸ hg
  | maxWait =>
    simp only at h
    split at h
    · cases h
    · split at h
      · rename_i d hd
        rw [← Except.ok.inj h]
        simpa [IsWritten] using ⟨value, hd⟩
      · cases h
  | verbose | help | version => cases h

theorem IsWritten.settle (hg : g.IsWritten) (h : g.settle = .ok g') : g'.IsWritten := by
  unfold Given.settle at h
  split at h
  · exact Except.ok.inj h ▸ hg
  · cases h
  · exact IsWritten.take (g := { g with pending := .none }) hg h

theorem IsWritten.meet (hg : g.IsWritten) (h : g.meet l flag = .ok g') : g'.IsWritten := by
  obtain ⟨g₁, hsettle, h⟩ := bind_eq_ok_iff.mp h
  have hg₁ := hg.settle (mapError_eq_ok_iff.mp hsettle)
  cases flag with
  | help | version => cases h
  | file | maxWait | verbose =>
    simp only at h
    split at h
    · cases h
    · exact Except.ok.inj h ▸ hg₁

theorem IsWritten.meetValued {attached : Option String} (hg : g.IsWritten)
    (h : g.meetValued flag attached = .ok g') : g'.IsWritten := by
  obtain ⟨g₁, hsettle, h⟩ := bind_eq_ok_iff.mp h
  have hg₁ := hg.settle (mapError_eq_ok_iff.mp hsettle)
  cases attached with
  | none => exact Except.ok.inj h ▸ hg₁
  | some value => exact hg₁.take (mapError_eq_ok_iff.mp h)

theorem IsWritten.readLong {cs : List Char} (hg : g.IsWritten) (h : readLong l g cs = .ok g') :
    g'.IsWritten := by
  unfold CommandLine.readLong at h
  simp only at h
  split at h
  · cases h
  · split at h
    · exact hg.meetValued h
    · cases h
    · exact hg.meet h

theorem IsWritten.readShort {cs : List Char} (hg : g.IsWritten) (h : readShort l g cs = .ok g') :
    g'.IsWritten := by
  fun_induction CommandLine.readShort l g cs with
  | case1 => exact Except.ok.inj h ▸ hg
  | case2 => cases h
  | case3 | case4 | case5 => exact hg.meetValued h
  | case6 g c cs flag _ _ ih =>
    obtain ⟨g₁, hmeet, h⟩ := bind_eq_ok_iff.mp h
    exact ih g₁ (hg.meet hmeet) h

/-- **Whatever the arguments of a level are, its limit stands for a text.** -/
theorem IsWritten.readLevel {args : List String} {next : Option (Command × List String)}
    (hg : g.IsWritten) (h : readLevel l g args = .ok (g', next)) : g'.IsWritten := by
  fun_induction CommandLine.readLevel l g args with
  | case1 | case4 | case5 =>
    obtain ⟨rfl, -⟩ := Prod.mk.inj (Except.ok.inj h)
    exact hg
  | case2 | case3 | case6 | case10 => cases h
  | case7 =>
    rename_i ih
    obtain ⟨g₁, hlong, h⟩ := bind_eq_ok_iff.mp h
    exact ih g₁ (hg.readLong hlong) h
  | case8 =>
    rename_i ih
    obtain ⟨g₁, hshort, h⟩ := bind_eq_ok_iff.mp h
    exact ih g₁ (hg.readShort hshort) h
  | case9 =>
    rename_i ih
    exact ih hg h

end Given

/-- **A limit that is read is one that was written.** -/
theorem isWritten_of_read {args : List String} {i : Invocation} (h : read args = .ok i) :
    ∀ d ∈ i.maxWait, d.IsWritten := by
  obtain ⟨⟨outer, next⟩, -, h⟩ := bind_eq_ok_iff.mp h
  cases next with
  | none =>
    obtain ⟨outer, -, h⟩ := bind_eq_ok_iff.mp h
    cases h
  | some next =>
    simp only [bind_eq_ok_iff, mapError_eq_ok_iff] at h
    obtain ⟨⟨inner, _⟩, hlevel, inner', hsettle, _, -, h⟩ := h
    rw [← Except.ok.inj h]
    exact (Given.isWritten_none.readLevel hlevel).settle hsettle

/-! ## The limit of a wait -/

/-- **Only the limit changes**, and only where the arguments have one. -/
theorem Invocation.settings_eq (i : Invocation) (configured : WaitSettings) :
    i.settings configured =
      { configured with maxWait := (i.maxWait.map (·.millis)).or configured.maxWait } := by
  unfold Invocation.settings
  cases i.maxWait <;> rfl

/-- **A limit of zero comes from the arguments.** -/
theorem maxWait_eq_zero_iff {args : List String} {i : Invocation} {c : Config}
    (hread : read args = .ok i) (hc : c.Sound) :
    (i.settings c.waitSettings).maxWait = some 0 ↔ i.maxWait = some (.ofMillis 0) := by
  rw [Invocation.settings_eq]
  cases hmax : i.maxWait with
  | none => simpa using hc.maxWait_ne_zero
  | some d => simpa using (isWritten_of_read hread d hmax).isWhole.millis_eq_zero_iff

section Limit

variable [Url.Idna] [Http.Resolver] {σ : Type} (network : Http.Network σ) {args : List String}
  {i : Invocation} {c : Config}

/-- The orchestrator that carries a command out. -/
def Invocation.orchestrator (i : Invocation) (c : Config) : Orchestrator σ :=
  { Orchestrator.ofConfig network c with settings := i.settings c.waitSettings }

/-- A run that gets as far as its command carries that out. -/
theorem run_eq (hread : read args = .ok i) {s : Scene σ} (hload : Config.load s.files i.file = .ok c)
    (horizon : Nat) (temp : Marker.TempFile) : (run args network horizon temp s).1
      = (i.command.perform (i.orchestrator network c) horizon temp s).1 := by
  simp only [run, hread, Invocation.perform, hload, Invocation.orchestrator, Orchestrator.ofConfig]
  split <;> simp_all

/-- **A wait is over as it begins just when the arguments limit it to zero.**  The operation runs
with the configured settings but for the limit, which is the one in the arguments if there is one;
its checks are at a positive interval. -/
theorem over_iff_zero_limit {files : FileTree} (hread : read args = .ok i)
    (hload : Config.load files i.file = .ok c) :
    (∀ horizon temp s, s.files = files → (run args network horizon temp s).1
      = (i.command.perform (i.orchestrator network c) horizon temp s).1) ∧
    (i.orchestrator network c).settings =
      { c.waitSettings with maxWait := (i.maxWait.map (·.millis)).or c.waitSettings.maxWait } ∧
    0 < (i.orchestrator network c).settings.tick ∧
    ((i.orchestrator network c).settings.maxWait = some 0 ↔ i.maxWait = some (.ofMillis 0)) ∧
    ∀ s started, ((i.orchestrator network c).waitAfter s started).IsOver ↔
      i.maxWait = some (.ofMillis 0) := by
  have hsound := Config.sound_of_load hload
  refine ⟨fun horizon temp s hs => run_eq network hread (hs ▸ hload) horizon temp,
    i.settings_eq _, ?_, maxWait_eq_zero_iff hread hsound, fun s started => ?_⟩
  · change 0 < (i.settings c.waitSettings).tick
    rw [Invocation.settings_eq]
    exact hsound.tick_pos
  · rw [Scenario.isOver_iff]
    exact maxWait_eq_zero_iff hread hsound

end Limit

/-! ## A limit of zero -/

section Zero

/-- A file that sets no limit. -/
def configText : String :=
  "service_name: mysql\nstate_file_path: state.txt\ngalera_init_address: 127.0.0.1:8114\n"
    ++ "monit:\n  username: vcap\n  password: secret\n"

/-- What the file means. -/
def configured : Config :=
  ⟨"mysql", "state.txt", "127.0.0.1:8114", .default, ⟨"127.0.0.1", 2822, "vcap", "secret"⟩⟩

/-- A working directory that holds a configuration file. -/
def configuredFiles : FileTree :=
  (FileTree.empty [['w']]).put [['w'], "sidecar.yml".toList]
    (.file 420 (Text.Utf8.encode configText.toList))

/-- A machine with the file on it. -/
def configuredScene : Scene Unit := ⟨0, .fresh, configuredFiles, (), []⟩

/-- Arguments that limit the wait to zero. -/
def zeroLimit : List String := ["-f", "sidecar.yml", "join", "--max-wait", "0s"]

/-- A join that may last no time at all. -/
def zeroLimited : Invocation := ⟨"sidecar.yml", false, .run .join, some (.ofMillis 0)⟩

theorem parse_configText : Config.parse configText "sidecar.yml" = .ok configured := by
  decide +kernel

theorem readText_configuredFiles : configuredFiles.readText "sidecar.yml" = .ok configText := by
  have hread : configuredFiles.read "sidecar.yml" = .ok (Text.Utf8.encode configText.toList) := by
    cbv
  have htext : String.fromUTF8? ⟨(Text.Utf8.encode configText.toList).toArray⟩
      = some configText := by decide +kernel
  rw [FileTree.readText, hread, ok_bind, htext]
  rfl

theorem load_configured : Config.load configuredFiles "sidecar.yml" = .ok configured := by
  rw [Config.load_of_readText readText_configuredFiles]
  exact parse_configText

theorem read_zeroLimit : read zeroLimit = .ok zeroLimited := by rfl

/-- The orchestrator that joins a cluster under a limit of zero. -/
def zeroOrchestrator : Orchestrator Unit := zeroLimited.orchestrator .accepting configured

/-- A limit of no time is read, and the wait is over before it begins. -/
theorem zeroLimit_over :
    read zeroLimit = .ok zeroLimited ∧
    Config.load configuredFiles zeroLimited.file = .ok configured ∧
    (zeroOrchestrator.waitAfter configuredScene 0).IsOver := by
  obtain ⟨-, -, -, -, hover⟩ := over_iff_zero_limit .accepting read_zeroLimit load_configured
  exact ⟨read_zeroLimit, load_configured, (hover configuredScene 0).mpr rfl⟩

theorem perform_join {σ : Type} (o : Orchestrator σ) (horizon : Nat) (temp : Marker.TempFile)
    (s : Scene σ) :
    (Command.run .join).perform o horizon temp s
      = o.startDeclared horizon temp .join .clustered s := rfl

/-- **A limit of zero is taken from the arguments**, though none is from the file, and the service
is started for a wait that is over. -/
theorem zero_limit_starts :
    (¬ ∀ args files i c, read args = .ok i → Config.load files i.file = .ok c →
      ∀ limit ∈ (i.settings c.waitSettings).maxWait, 0 < limit) ∧
    ∃ files, configuredScene.Makes (run zeroLimit .accepting 60000 ".tmpAbC123" configuredScene).1
      files [.start] := by
  refine ⟨fun hpositive => ?_, ?_⟩
  · exact absurd (hpositive _ _ _ _ read_zeroLimit load_configured 0 rfl) (Nat.lt_irrefl 0)
  let o := zeroOrchestrator
  have hover : (o.waitAfter configuredScene 0).IsOver := (Scenario.isOver_iff _).mpr rfl
  have hwritten : (Marker.write configuredScene.files o.statePath .clustered ".tmpAbC123").1
      = .ok () := by cbv
  have hstart : o.startEnding 60000 configuredScene = .returned (.ok ()) := by decide +kernel
  have hfinish : (o.supervisor.start o.service configuredScene.world).1.finish configuredScene.now
      = some 0 := by decide +kernel
  have htoken : (o.waitAfter configuredScene 0).token.isSignalled 0 = false := by decide +kernel
  obtain ⟨hmakes, -⟩ := Orchestrator.startDeclared_of_isOver .join hwritten hstart hfinish
    (by decide) hover htoken
  rw [run_eq .accepting read_zeroLimit load_configured, zeroLimited, perform_join]
  exact ⟨_, hmakes⟩

end Zero

end CommandLine

end Sidecar
