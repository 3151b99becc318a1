import Sidecar.Proofs.Lifecycle.Operation
import Sidecar.Proofs.Wait.Discipline
import Sidecar.Script

/-!
# Proofs/Lifecycle/Agreement — an operation's calls and its result tell the same

How far an operation has got can be told from its calls, and its result names the very step that it
got to: `Agreed` lists the ways that an operation can go, each with the calls that it makes and the
result that they lead to, and **every operation goes one of these ways** (`calls_agree`).
-/

namespace Sidecar

open Wait

variable {σ : Type}

/-! ## A wait after a call -/

/-- How a wait can end that has made no call: **no tick has been counted.** -/
inductive Wait.Unchecked (service : String) (tick : Nat) : Verdict → Prop
  | cancelled : Unchecked service tick (.returned (.error (.cancelled service 0)))
  | timedOut (waited : Nat) :
    Unchecked service tick (.returned (.error (.timeout service waited 0)))
  | unwatched : Unchecked service tick .unwatched
  /-- There is no ticker to wait with, and no result. -/
  | noInterval : tick = 0 → Unchecked service tick .noInterval

theorem Scenario.watch_of_tick_eq_zero (w : Scenario σ) (h : w.settings.tick = 0) (horizon : Nat) :
    w.watch horizon = ⟨.noInterval, w.started, w.token, [], w.world⟩ := by
  simp [watch, Wait.run, Ticker.start?, h]

/-- **A wait asks by turns**, and ends with no answer if it asks nothing. -/
theorem Scenario.watch_by_turns (w : Scenario σ) {horizon : Nat} (h : w.started ≤ horizon) :
    let o := w.watch horizon
    o.calls.map Prod.snd = alternating o.calls.length ∧
      o.world = (w.plan horizon).after w.world (o.calls.map Prod.snd) ∧
      (o.calls = [] → Unchecked w.service w.settings.tick o.ending) := by
  rcases Nat.eq_zero_or_pos w.settings.tick with ht | ht
  · rw [w.watch_of_tick_eq_zero ht]
    exact ⟨rfl, rfl, fun _ => .noInterval ht⟩
  obtain ⟨last, s₁, xs₁, s, verdict, xs, -, hstep, hrecorded, hticks, ho⟩ := w.exists_recorded ht h
  simp only [ho, State.outcome]
  refine ⟨by rw [hrecorded.map_snd, List.length_reverse], hrecorded.after.symm, fun hnone => ?_⟩
  obtain hcalls : s.calls = [] := List.reverse_eq_nil_iff.mp hnone
  obtain hzero : s.ticks = 0 := by rw [hticks, hcalls]; rfl
  rcases cut_or_answered hstep with ⟨cut, rfl⟩ | ⟨answered, -, hbegun⟩
  · cases cut with
    | cancelled =>
      rw [cutEnding, hzero]
      exact .cancelled
    | timedOut =>
      rw [cutEnding, hzero]
      exact .timedOut _
    | unwatched => exact .unwatched
  · rw [hcalls, begun_calls] at hbegun
    cases answered <;> simp [Phase.query?] at hbegun

namespace Orchestrator

variable (o : Orchestrator σ)

/-! ## Calls for the orchestrator's service -/

/-- The world after a call for the orchestrator's service. -/
def worldAfter (world : σ) : Call.Kind → σ
  | .start => (o.supervisor.start o.service world).2
  | .stop => (o.supervisor.stop o.service world).2
  | .status => (o.supervisor.status o.service world).2
  | .probe => (o.probe.check world).2

/-- From the first scene to the second these calls were made **for the orchestrator's service**, and
nothing else was asked of the world. -/
structure Makes (s s' : Scene σ) (files : FileTree) (kinds : List Call.Kind) : Prop
    extends s.Makes s' files kinds where
  world_eq : s'.world = kinds.foldl o.worldAfter s.world

/-! ## The ways that an operation can go -/

section Ways

variable (horizon : Nat) (temp : Marker.TempFile) (s : Scene σ)

/-- The operation gets as far as its start call: it declares a state and may, **and its marker is
written.** -/
structure Starts (op : Operation) (intent : Intent) (state : DeclaredState) : Prop where
  intent_eq : op.intent? = some intent
  declared : intent.declared = some state
  allowed : ¬ o.Refuses op
  written : (Marker.write s.files o.statePath state temp).1 = .ok ()

/-- What is seen of the start call. -/
def startEnding : Ending (Except SupervisorError Unit) :=
  (o.supervisor.start o.service s.world).1.ending s.now horizon

/-- The wait from a scene on. -/
def waiting : Scenario σ :=
  ⟨o.supervisor, o.probe, o.service, o.settings, s.now, s.token, s.world⟩

/-- The wait that follows a start call that was answered at `started`. -/
def waitAfter (started : Nat) : Scenario σ :=
  o.waiting { s with
    now := started
    token := s.token.afterCall (o.supervisor.start o.service s.world).1
    world := (o.supervisor.start o.service s.world).2 }

/-- The ways that an operation can go: the files that it leaves, the calls that it makes, and the
result that it draws. -/
inductive Agreed (op : Operation) : FileTree → List Call.Kind → Result → Prop
  | refused : o.Refuses op →
    Agreed op s.files [] (.returned (.error (.invalidIntent o.service .bootstrap)))
  | unwritten {state : DeclaredState} {failure : FileFailure} :
    op.declared? = some state → ¬ o.Refuses op →
    (Marker.write s.files o.statePath state temp).1 = .error failure →
    Agreed op (Marker.write s.files o.statePath state temp).2 []
      (.returned (.error (.persistence o.statePath failure)))
  | unstarted {intent : Intent} {state : DeclaredState} {source : SupervisorError} :
    o.Starts temp s op intent state → o.startEnding horizon s = .returned (.error source) →
    Agreed op (Marker.write s.files o.statePath state temp).2 [.start]
      (.returned (.error (.supervisor source)))
  | unanswered {intent : Intent} {state : DeclaredState} :
    o.Starts temp s op intent state → o.startEnding horizon s = .unwatched →
    Agreed op (Marker.write s.files o.statePath state temp).2 [.start] .unwatched
  /-- The wait is cut before its first call. -/
  | unchecked {intent : Intent} {state : DeclaredState} {started : Nat} :
    o.Starts temp s op intent state → o.startEnding horizon s = .returned (.ok ()) →
    (o.supervisor.start o.service s.world).1.finish s.now = some started →
    ((o.waitAfter s started).watch horizon).calls = [] →
    Unchecked o.service o.settings.tick ((o.waitAfter s started).watch horizon).ending →
    Agreed op (Marker.write s.files o.statePath state temp).2 [.start]
      (((o.waitAfter s started).watch horizon).ending.result (fun _ => intent.successMessage) .wait)
  /-- The wait checks the node, `n` times, and its verdict is what the operation comes to. -/
  | checked {intent : Intent} {state : DeclaredState} {started n probes : Nat}
      {queries : List Query} :
    o.Starts temp s op intent state → o.startEnding horizon s = .returned (.ok ()) →
    (o.supervisor.start o.service s.world).1.finish s.now = some started →
    ((o.waitAfter s started).watch horizon).calls.map Prod.snd = queries →
    queries = alternating queries.length → 1 ≤ n → queries.count .status = n →
    queries.count .probe = probes → probes = n ∨ probes = n - 1 →
    Agreed op (Marker.write s.files o.statePath state temp).2
      (.start :: queries.map Call.Kind.ofQuery)
      (((o.waitAfter s started).watch horizon).ending.result (fun _ => intent.successMessage) .wait)
  | stopped : op.intent? = some .stop →
    Agreed op s.files [.stop]
      (((o.supervisor.stop o.service s.world).1.ending s.now horizon).result
        (fun _ => Intent.stop.successMessage) .supervisor)
  | queried : op.intent? = none →
    Agreed op s.files [.status]
      (((o.supervisor.status o.service s.world).1.ending s.now horizon).result
        ProcessState.text .supervisor)

end Ways

/-! ## Every operation goes one of these ways -/

section Makes

variable {o} {horizon : Nat} {s s₁ s₂ : Scene σ} {files : FileTree} {kinds kinds' : List Call.Kind}

theorem Makes.trans (h : o.Makes s s₁ files kinds) (h' : o.Makes s₁ s₂ files kinds') :
    o.Makes s s₂ files (kinds ++ kinds') :=
  { h.toMakes.trans h'.toMakes with
    world_eq := by rw [h'.world_eq, h.world_eq, List.foldl_append] }

/-- **A scene with other files is made by no call.** -/
theorem Makes.none (s : Scene σ) (files : FileTree) : o.Makes s { s with files } files [] :=
  ⟨⟨rfl, [], by simp⟩, rfl⟩

/-- **One call changes the world, and no file.** -/
theorem Makes.one {α : Type} {kind : Call.Kind} {run : σ → Call α × σ}
    (h : ∀ world, (run world).2 = o.worldAfter world kind) :
    o.Makes s (call horizon kind run s).1 s.files [kind] :=
  ⟨makes_call horizon s kind run, by rw [call_eq]; exact h s.world⟩

theorem foldl_worldAfter (horizon : Nat) (queries : List Query) (world : σ) :
    (queries.map Call.Kind.ofQuery).foldl o.worldAfter world =
      ((o.waiting s).plan horizon).after world queries := by
  rw [List.foldl_map, Plan.after]
  congr 1
  funext world query
  cases query <;> rfl

variable (o) in
/-- **A wait makes its queries, and changes no file.** -/
theorem makes_waiting (h : s.now ≤ horizon) : o.Makes s (o.awaitReady horizon s).1 s.files
    ((((o.waiting s).watch horizon).calls.map Prod.snd).map Call.Kind.ofQuery) :=
  ⟨o.makes_awaitReady horizon s, by
    rw [foldl_worldAfter (s := s) horizon]
    exact ((o.waiting s).watch_by_turns h).2.1⟩

end Makes

section Start

variable {o} {horizon : Nat} {temp : Marker.TempFile} {s : Scene σ} {op : Operation}
  {intent : Intent}
  {state : DeclaredState}

/-- **A start that is accepted comes to what its wait comes to.** -/
theorem startDeclared_of_accepted
    (hwritten : (Marker.write s.files o.statePath state temp).1 = .ok ())
    (hstart : o.startEnding horizon s = .returned (.ok ())) {started : Nat}
    (hfinish : (o.supervisor.start o.service s.world).1.finish s.now = some started) :
    o.startDeclared horizon temp intent state s =
      let files := (Marker.write s.files o.statePath state temp).2
      let w := (o.waitAfter s started).watch horizon
      ({ now := w.now, token := w.token, files, world := w.world,
         events := s.events ++ ⟨s.now, .start, files⟩ ::
           w.calls.map fun (time, query) => ⟨time, Call.Kind.ofQuery query, files⟩ },
        w.ending.result (fun _ => intent.successMessage) .wait) := by
  obtain ⟨hseen, -⟩ := Call.watchedUntil_of_returned hstart
  obtain rfl := Option.some.inj (hfinish.symm.trans hseen)
  rw [startEnding] at hstart
  rw [startDeclared_of_ok _ _ _ _ _ _ hwritten]
  simp only [call_eq]
  rw [if_pos hstart]
  simp only [awaitReady, List.append_assoc, List.singleton_append]
  rfl

/-- **A start that gets as far as its wait goes one of the ways.** -/
theorem agreed_of_started (h : o.Starts temp s op intent state)
    (hstart : o.startEnding horizon s = .returned (.ok ())) {started : Nat}
    (hfinish : (o.supervisor.start o.service s.world).1.finish s.now = some started)
    (hle : started ≤ horizon) :
    let w := (o.waitAfter s started).watch horizon
    o.Agreed horizon temp s op (Marker.write s.files o.statePath state temp).2
      (.start :: (w.calls.map Prod.snd).map Call.Kind.ofQuery)
      (w.ending.result (fun _ => intent.successMessage) .wait) := by
  intro w
  obtain ⟨hturns, -, hunchecked⟩ := (o.waitAfter s started).watch_by_turns hle
  rcases hcalls : w.calls with _ | ⟨call, calls⟩
  · exact .unchecked h hstart hfinish hcalls (hunchecked hcalls)
  · obtain ⟨hstatus, hprobe⟩ := count_alternating w.calls.length
    have hlength : w.calls.length = calls.length + 1 := by rw [hcalls, List.length_cons]
    rw [← hcalls]
    rw [← hturns] at hstatus hprobe
    exact .checked h hstart hfinish rfl (by rw [List.length_map]; exact hturns) (by omega) hstatus
      hprobe (by omega)

/-- **A start whose marker is written goes one of the ways.** -/
theorem agreed_startDeclared (h : o.Starts temp s op intent state) : ∃ files kinds,
    o.Makes s (o.startDeclared horizon temp intent state s).1 files kinds ∧
      o.Agreed horizon temp s op files kinds (o.startDeclared horizon temp intent state s).2 := by
  let written : Scene σ := { s with files := (Marker.write s.files o.statePath state temp).2 }
  have hmakes : o.Makes s (call horizon .start (o.supervisor.start o.service) written).1
      written.files [.start] := (Makes.none s written.files).trans (Makes.one fun _ => rfl)
  have hseen : (call horizon .start (o.supervisor.start o.service) written).2
      = o.startEnding horizon s := by
    rw [call_eq]
    rfl
  rw [startDeclared_of_ok _ _ _ _ _ _ h.written]
  dsimp only
  split
  · rename_i hreturned
    have hstart : o.startEnding horizon s = .returned (.ok ()) := hseen.symm.trans hreturned
    obtain ⟨hfinish, hle⟩ := Call.watchedUntil_of_returned hstart
    have hnow : (call horizon .start (o.supervisor.start o.service) written).1.now ≤ horizon := by
      rw [call_eq]
      exact hle
    have hwait := hmakes.trans (hmakes.files_eq ▸ o.makes_waiting hnow)
    have hagreed := agreed_of_started h hstart hfinish hle
    rw [call_eq] at hwait ⊢
    exact ⟨_, _, hwait, hagreed⟩
  · rename_i hnot
    refine ⟨_, _, hmakes, ?_⟩
    rw [hseen] at hnot ⊢
    rcases hending : o.startEnding horizon s with (source | ⟨⟩) | _ | _
    · exact .unstarted h hending
    · exact absurd hending hnot
    · exact .unanswered h hending
    · exact absurd hending Call.ending_ne_noInterval

/-- **A start that is let goes one of the ways**, whether or not its marker can be written. -/
theorem agreed_of_declared (hop : op.intent? = some intent) (hdeclared : intent.declared = some state)
    (hrefuses : ¬ o.Refuses op) : ∃ files kinds,
      o.Makes s (o.startDeclared horizon temp intent state s).1 files kinds ∧
        o.Agreed horizon temp s op files kinds (o.startDeclared horizon temp intent state s).2 := by
  cases hwritten : (Marker.write s.files o.statePath state temp).1 with
  | error failure =>
    rw [startDeclared_of_error _ _ _ _ _ _ hwritten]
    exact ⟨_, _, .none s _,
      .unwritten (by simp [Operation.declared?, hop, hdeclared]) hrefuses hwritten⟩
  | ok done => exact agreed_startDeclared ⟨hop, hdeclared, hrefuses, hwritten⟩

end Start

section Perform

variable (horizon : Nat) (temp : Marker.TempFile) (s : Scene σ)

/-- **Every operation goes one of the ways.** -/
theorem agreed_perform (op : Operation) : ∃ files kinds,
    o.Makes s (o.perform horizon temp s op).1 files kinds ∧
      o.Agreed horizon temp s op files kinds (o.perform horizon temp s op).2 := by
  rw [perform_eq]
  split
  · rename_i intent hop
    cases intent with
    | bootstrap =>
      simp only [run, bootstrap]
      split
      · exact ⟨_, _, .none s _, .refused ⟨hop, ‹_›⟩⟩
      · exact agreed_of_declared hop rfl fun h => by simp_all [Refuses]
    | join | singleNode => exact agreed_of_declared hop rfl fun h => by simp_all [Refuses]
    | stop =>
      have hagreed : o.Agreed horizon temp s op _ _ _ := .stopped hop
      rw [run, stop_eq]
      exact ⟨_, _, .one fun _ => rfl, by simpa only [call_eq] using hagreed⟩
  · rename_i hop
    have hagreed : o.Agreed horizon temp s op _ _ _ := .queried hop
    rw [status_eq]
    exact ⟨_, _, .one fun _ => rfl, by simpa only [call_eq] using hagreed⟩

/-- **What declares no state does not look at the token.** -/
theorem perform_withToken {op : Operation} (h : op.declared? = none) (token : Token) :
    ∃ token', o.perform horizon temp { s with token } op =
      ({ (o.perform horizon temp s op).1 with token := token' },
        (o.perform horizon temp s op).2) := by
  simp only [perform_eq]
  split
  · rename_i intent hop
    obtain rfl : intent = .stop := by
      cases intent <;> simp_all [Operation.declared?, Intent.declared]
    simp only [run, stop_eq, call_eq]
    exact ⟨_, rfl⟩
  · simp only [status_eq, call_eq]
    exact ⟨_, rfl⟩

/-- **The calls of an operation and its result agree.**  The calls are made for the orchestrator's
service, over the files that the operation leaves, and the result is that of the way they show; it
makes no difference whether an intent is run or its operation called; and what does not start the
service ignores the token. -/
theorem calls_agree (op : Operation) :
    (∃ files kinds, o.Makes s (o.perform horizon temp s op).1 files kinds ∧
      o.Agreed horizon temp s op files kinds (o.perform horizon temp s op).2) ∧
    (∀ op', op'.intent? = op.intent? →
      o.perform horizon temp s op' = o.perform horizon temp s op) ∧
    (op.declared? = none → ∀ token, ∃ token', o.perform horizon temp { s with token } op =
      ({ (o.perform horizon temp s op).1 with token := token' },
        (o.perform horizon temp s op).2)) :=
  ⟨o.agreed_perform horizon temp s op, fun op' h => by rw [perform_eq, perform_eq, h],
    fun h token => o.perform_withToken horizon temp s h token⟩

end Perform

/-- An arbitrator whose supervisor can stop nothing. -/
def powerless : Orchestrator Script × Scene Script :=
  (⟨"garbd", "state.txt", .default, Script.supervisor, Script.probe "127.0.0.1:8114"⟩,
    ⟨0, .fresh, .empty [], { Script.default with stop := .error (.unavailable "no monit") }, []⟩)

/-- A refused bootstrap, and a stop with a token that is signalled. -/
theorem powerless_agrees :
    (∃ files, powerless.1.Agreed 7200000 ".tmpAbC123" powerless.2 (.run .bootstrap) files []
      (.returned (.error (.invalidIntent "garbd" .bootstrap)))) ∧
    Operation.stop.declared? = none ∧ ∃ token',
      powerless.1.perform 7200000 ".tmpAbC123" { powerless.2 with token := ⟨true, none⟩ } .stop =
        ({ (powerless.1.perform 7200000 ".tmpAbC123" powerless.2 .stop).1 with token := token' },
          .returned (.error (.supervisor (.unavailable "no monit")))) := by
  have hrefused : powerless.1.perform 7200000 ".tmpAbC123" powerless.2 (.run .bootstrap) =
      (powerless.2, .returned (.error (.invalidIntent "garbd" .bootstrap))) := rfl
  obtain ⟨⟨files, kinds, hmakes, hagreed⟩, -⟩ :=
    calls_agree powerless.1 7200000 ".tmpAbC123" powerless.2 (.run .bootstrap)
  obtain ⟨-, -, htoken⟩ := calls_agree powerless.1 7200000 ".tmpAbC123" powerless.2 .stop
  obtain ⟨calls, hevents, rfl, -⟩ := hmakes.exists_calls
  rw [hrefused] at hevents hagreed
  obtain rfl : calls = [] := List.self_eq_append_right.mp hevents
  exact ⟨⟨files, hagreed⟩, rfl, htoken rfl ⟨true, none⟩⟩

end Orchestrator

end Sidecar
