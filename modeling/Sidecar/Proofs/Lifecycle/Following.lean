import Sidecar.Proofs.Lifecycle.Agreement
import Sidecar.Proofs.Lifecycle.Replies

/-!
# Proofs/Lifecycle/Following — an orchestrator that follows replies comes to what they dictate

An operation of an orchestrator that follows replies comes to what they dictate
(`Follows.endsWith_of_dictates`) and to nothing else (`Follows.exists_dictates`): **a start whose
wait is never decided does not end** (`Follows.not_endsWith`).  So two orchestrators that follow the
same replies come to the same, over any operations one after the other (`Follows.comesTo_iff`).
-/

namespace Sidecar

open Wait

variable {σ τ : Type}

namespace Orchestrator

/-- The operation ends so: **it is seen to whenever it is watched for long enough.** -/
def EndsWith (o : Orchestrator σ) (temp : Marker.TempFile) (s : Scene σ) (op : Operation)
    (s' : Scene σ) (result : Except OperationError String) : Prop :=
  ∃ near, ∀ horizon, near ≤ horizon → o.perform horizon temp s op = (s', .returned result)

/-- An operation ends in one way. -/
theorem EndsWith.unique {o : Orchestrator σ} {temp : Marker.TempFile} {s s₁ s₂ : Scene σ}
    {op : Operation} {result₁ result₂ : Except OperationError String}
    (h₁ : o.EndsWith temp s op s₁ result₁) (h₂ : o.EndsWith temp s op s₂ result₂) :
    s₁ = s₂ ∧ result₁ = result₂ := by
  obtain ⟨near₁, h₁⟩ := h₁
  obtain ⟨near₂, h₂⟩ := h₂
  have heq := (h₁ (max near₁ near₂) (Nat.le_max_left _ _)).symm.trans
    (h₂ (max near₁ near₂) (Nat.le_max_right _ _))
  simpa using heq

end Orchestrator

/-- Nobody has signalled, and so the scene stands. -/
structure Scene.StandsAt (s : Scene σ) (At : Taken → σ → Prop) (st : Standing) : Prop where
  token : s.token = .fresh
  files_eq : s.files = st.files
  world : At st.taken s.world

/-- A scene stands by any coarser account of what has been taken. -/
theorem Scene.StandsAt.imp {At At' : Taken → σ → Prop} {s : Scene σ} {st : Standing}
    (h : s.StandsAt At st) (hAt : ∀ {t world}, At t world → At' t world) : s.StandsAt At' st :=
  ⟨h.token, h.files_eq, hAt h.world⟩

/-! ## A wait that follows replies -/

/-- **There is a verdict just if the check decides.** -/
theorem Answers.verdict?_eq_none_iff (a : Answers) (service address : String) (k elapsed : Nat) :
    a.verdict? service address k elapsed = none ↔ ¬ a.Decides k := by
  rw [not_decides_iff, verdict?]
  rcases ha : a.statuses k with source | state
  · simp
  · cases state with
    | running => cases hp : a.probes k <;> simp
    | stopped | pending | failing | unknown => simp

namespace Orchestrator.Follows

variable {o : Orchestrator σ} {r : Replies} {At : Taken → σ → Prop} {s : Scene σ} {t : Taken}

section Wait

variable (h : o.Follows r At) (hworld : At t s.world)
include h hworld

/-- **So many checks have taken so many replies.** -/
theorem at_worldAt (n : Nat) : At (t.checked n) ((o.waiting s).worldAt n) := by
  induction n with
  | zero => exact hworld
  | succ n ih => exact (h.probe (h.status ih).after).after

theorem gives_status (n : Nat) : Gives (·.mapError SupervisorError.kind)
    (r.statuses (t.checked n).statuses) (At (t.checked n).asked) ((o.waiting s).statusAt n) :=
  h.status (h.at_worldAt hworld n)

theorem gives_probe (n : Nat) : Gives ProbeOutcome.kind (r.readies (t.checked n).readies)
    (At (t.checked n).asked.probed) ((o.waiting s).probeAt n) :=
  h.probe (h.gives_status hworld n).after

theorem isUndisturbed (htoken : s.token = .fresh) : (o.waiting s).IsUndisturbed :=
  ⟨h.tick_pos, h.maxWait, htoken, fun n => (h.gives_status hworld n).isPlain,
    fun n => (h.gives_probe hworld n).isPlain⟩

/-- **A check decides as the kinds of its answers do.** -/
theorem verdict?_eq (service address : String) (k elapsed : Nat) :
    ((o.waiting s).answers.verdict? service address k elapsed).map
        (fun result => (result.map fun _ => ()).mapError WaitError.kind)
      = r.verdict? (t.checked k) := by
  have hstatus : ((o.waiting s).answers.statuses k).mapError SupervisorError.kind = _ :=
    (h.gives_status hworld k).kind_eq
  have hprobe : ((o.waiting s).answers.probes k).kind = _ := (h.gives_probe hworld k).kind_eq
  rw [Replies.verdict?, ← hstatus, ← hprobe, Answers.verdict?]
  rcases (o.waiting s).answers.statuses k with source | state
  · rfl
  · cases state with
    | running => cases (o.waiting s).answers.probes k <;> rfl
    | stopped | pending | failing | unknown => rfl

/-- **A check decides in the world just if its replies decide.** -/
theorem decides_iff (k : Nat) :
    (o.waiting s).answers.Decides k ↔ r.verdict? (t.checked k) ≠ none := by
  rw [← h.verdict?_eq hworld "" "" k 0, Ne, Option.map_eq_none_iff,
    Answers.verdict?_eq_none_iff, not_not]

theorem at_worldAfter (k : Nat) :
    At (r.afterCheck (t.checked k)) ((o.waiting s).worldAfter k) := by
  simp only [Replies.afterCheck, ← (h.gives_status hworld k).kind_eq, mapError_eq_ok_iff,
    Scenario.worldAfter]
  split
  · exact (h.gives_probe hworld k).after
  · exact (h.gives_status hworld k).after

/-- **The first check that decides ends the wait**, with its verdict. -/
theorem exists_endsWith (htoken : s.token = .fresh) {k : Nat}
    {verdict : Except WaitError.Kind Unit} (hleast : ∀ i < k, r.verdict? (t.checked i) = none)
    (hk : r.verdict? (t.checked k) = some verdict) :
    ∃ out result, (o.waiting s).EndsWith out ∧ out.ending = .returned result ∧
      (result.map fun _ => ()).mapError WaitError.kind = verdict ∧ out.token = .fresh ∧
      At (r.afterCheck (t.checked k)) out.world := by
  have hdecides : (o.waiting s).answers.Decides k := (h.decides_iff hworld k).mpr (by simp [hk])
  have hnot : ∀ i < k, ¬ (o.waiting s).answers.Decides i := fun i hi hd =>
    (h.decides_iff hworld i).mp hd (hleast i hi)
  obtain ⟨out, result, hends, hret, hv, htoken', hafter⟩ :=
    (h.isUndisturbed hworld htoken).exists_endsWith hdecides hnot
  refine ⟨out, result, hends, hret, ?_, htoken', hafter ▸ h.at_worldAfter hworld k⟩
  have hkind := h.verdict?_eq hworld (o.waiting s).service (o.waiting s).probe.address k
    (out.now - (o.waiting s).started)
  rw [hv, hk] at hkind
  exact Option.some.inj hkind

/-- **While no check decides, the wait is going on at every horizon.** -/
theorem goesOn (htoken : s.token = .fresh) (hn : ∀ k, r.verdict? (t.checked k) = none) :
    (o.waiting s).GoesOn :=
  (h.isUndisturbed hworld htoken).goesOn fun k hd => (h.decides_iff hworld k).mp hd (hn k)

end Wait

end Orchestrator.Follows

/-! ## An operation that follows replies -/

section Call

variable {α : Type} {c : Call α}

theorem Call.IsPlain.finish_eq (h : c.IsPlain) (start : Nat) :
    c.finish start = some (start + c.delay.getD 0) := by
  obtain ⟨delay, hc⟩ := h
  rw [hc]
  rfl

theorem Call.IsPlain.afterCall_eq (h : c.IsPlain) (token : Token) : token.afterCall c = token := by
  obtain ⟨delay, hc⟩ := h
  rw [hc]
  rfl

/-- The scene once a call has been answered. -/
def Scene.answered (s : Scene σ) (kind : Call.Kind) (c : Call α × σ) : Scene σ :=
  { s with
    now := s.now + c.1.delay.getD 0
    world := c.2
    events := s.events ++ [⟨s.now, kind, s.files⟩] }

/-- The scene once a wait has come to its outcome. -/
def Scene.waited (s : Scene σ) (out : Outcome σ) : Scene σ :=
  { s with
    now := out.now
    token := out.token
    world := out.world
    events := s.events ++
      out.calls.map fun (time, query) => Event.mk time (Call.Kind.ofQuery query) s.files }

end Call

/-- **An operation refuses, starts the service, stops it or asks for its status.** -/
theorem Operation.start?_cases (op : Operation) (service : String) :
    (op.intent? = some .bootstrap ∧ isArbitrator service) ∨ op.intent? = some .stop ∨
      op.intent? = none ∨ ∃ intent state, op.start? service = some (intent, state) := by
  rw [start?]
  rcases op.intent? with _ | intent
  · exact .inr (.inr (.inl rfl))
  · cases intent with
    | stop => exact .inr (.inl rfl)
    | join | singleNode => exact .inr (.inr (.inr ⟨_, _, rfl⟩))
    | bootstrap =>
      by_cases harbitrator : isArbitrator service = true
      · exact .inl ⟨rfl, harbitrator⟩
      · exact .inr (.inr (.inr ⟨_, _, if_neg harbitrator⟩))

namespace Orchestrator

/-- The scene once the start call has been answered, over the files with the marker. -/
def started (o : Orchestrator σ) (s : Scene σ) (files : FileTree) : Scene σ :=
  { s with files }.answered .start (o.supervisor.start o.service s.world)

/-- **A plain call returns**, if it is watched for long enough. -/
theorem call_of_isPlain {α : Type} {run : σ → Call α × σ} {s : Scene σ} {kind : Call.Kind}
    {horizon : Nat} (h : (run s.world).1.IsPlain)
    (hle : (s.answered kind (run s.world)).now ≤ horizon) :
    call horizon kind run s
      = (s.answered kind (run s.world), .returned (run s.world).1.answer) := by
  have hle : s.now + (run s.world).1.delay.getD 0 ≤ horizon := hle
  rw [call_eq, Call.watchedUntil, Call.ending, h.finish_eq, h.afterCall_eq]
  simp only [Option.elim_some, Nat.min_eq_left hle, if_pos hle, Scene.answered]

/-- **An operation that starts the service declares its state and starts it.** -/
theorem perform_of_start? {o : Orchestrator σ} {op : Operation} {intent : Intent}
    {state : DeclaredState} (h : op.start? o.service = some (intent, state)) (horizon : Nat)
    (temp : Marker.TempFile) (s : Scene σ) :
    o.perform horizon temp s op = o.startDeclared horizon temp intent state s := by
  rw [perform_eq]
  rw [Operation.start?] at h
  rcases hop : op.intent? with _ | asked <;> rw [hop] at h
  · cases h
  · cases asked with
    | stop => cases h
    | join | singleNode =>
      cases h
      rfl
    | bootstrap =>
      dsimp only at h
      split at h
      · cases h
      · rename_i hother
        cases h
        exact if_neg hother

/-- **A result shows the reply that it is drawn from.** -/
theorem exists_result {α ε κ : Type} (x : Except ε α) (message : α → String)
    (failure : ε → OperationError) (kind : ε → κ) (wrap : κ → OperationError.Kind)
    (hwrap : ∀ e, (failure e).kind = wrap (kind e)) :
    ∃ result, (Ending.returned x).result message failure = .returned result ∧
      result.mapError OperationError.kind = ((x.mapError kind).mapError wrap).map message := by
  cases x with
  | error e => exact ⟨.error (failure e), rfl, congrArg Except.error (hwrap e)⟩
  | ok a => exact ⟨.ok (message a), rfl, rfl⟩

namespace Follows

variable {o : Orchestrator σ} {r : Replies} {At : Taken → σ → Prop} {s : Scene σ}
  {st st' : Standing} {op : Operation} {temp : Marker.TempFile} {intent : Intent}
  {state : DeclaredState}

/-- **An operation that comes to the answer of a call ends with the reply's kind.** -/
theorem endsWith_of_answered {α : Type} (s₀ : Scene σ) (kind : Call.Kind)
    {c : Call (Except SupervisorError α) × σ} {reply : Except SupervisorError.Kind α}
    {message : α → String}
    (hgives : Gives (·.mapError SupervisorError.kind) reply (At st'.taken) c)
    (htoken : s₀.token = .fresh) (hfiles : s₀.files = st'.files)
    (hperform : ∀ horizon, (s₀.answered kind c).now ≤ horizon → o.perform horizon temp s op =
      (s₀.answered kind c, (Ending.returned c.1.answer).result message .supervisor)) :
    ∃ s' result, o.EndsWith temp s op s' result ∧
      result.mapError OperationError.kind = (reply.mapError .supervisor).map message ∧
      s'.StandsAt At st' := by
  obtain ⟨result, hreturned, hkind⟩ := exists_result c.1.answer message .supervisor
    SupervisorError.kind .supervisor fun _ => rfl
  rw [hgives.kind_eq] at hkind
  refine ⟨s₀.answered kind c, result, ⟨(s₀.answered kind c).now, fun horizon hle => ?_⟩, hkind,
    htoken, hfiles, hgives.after⟩
  rw [hperform horizon hle, hreturned]

theorem call_start (h : o.Follows r At) (hworld : At st.taken s.world) {files : FileTree}
    {horizon : Nat} (hle : (o.started s files).now ≤ horizon) :
    call horizon .start (o.supervisor.start o.service) { s with files }
      = (o.started s files, .returned (o.supervisor.start o.service s.world).1.answer) :=
  call_of_isPlain (s := { s with files }) (h.start hworld).isPlain hle

section Start

variable (h : o.Follows r At) (hs : s.StandsAt At st)
  (hop : op.start? o.service = some (intent, state))
  (hwritten : (Marker.write s.files o.statePath state temp).1 = .ok ())
include h hs hop hwritten

/-- **If the start fails the operation does.** -/
theorem perform_of_error {source : SupervisorError}
    (hanswer : (o.supervisor.start o.service s.world).1.answer = .error source) {horizon : Nat}
    (hle : (o.started s (Marker.write s.files o.statePath state temp).2).now ≤ horizon) :
    o.perform horizon temp s op = (o.started s (Marker.write s.files o.statePath state temp).2,
      .returned (.error (.supervisor source))) := by
  rw [perform_of_start? hop, startDeclared_of_ok _ _ _ _ _ _ hwritten]
  dsimp only
  rw [h.call_start hs.world hle, hanswer]
  rfl

/-- **If the start succeeds the operation waits.** -/
theorem perform_of_ok (hanswer : (o.supervisor.start o.service s.world).1.answer = .ok ())
    {horizon : Nat}
    (hle : (o.started s (Marker.write s.files o.statePath state temp).2).now ≤ horizon) :
    let s₁ := o.started s (Marker.write s.files o.statePath state temp).2
    o.perform horizon temp s op = (s₁.waited ((o.waiting s₁).watch horizon),
      ((o.waiting s₁).watch horizon).ending.result (fun _ => intent.successMessage) .wait) := by
  intro s₁
  rw [perform_of_start? hop, startDeclared_of_ok _ _ _ _ _ _ hwritten]
  dsimp only
  rw [h.call_start hs.world hle, hanswer]
  rfl

/-- **A start whose wait is decided ends with the verdict.** -/
theorem endsWith_of_verdict (hreply : r.actions st.taken.actions = .ok ()) {k : Nat}
    {verdict : Except WaitError.Kind Unit}
    (hleast : ∀ i < k, r.verdict? (st.taken.acted.checked i) = none)
    (hverdict : r.verdict? (st.taken.acted.checked k) = some verdict) :
    ∃ s' result, o.EndsWith temp s op s' result ∧
      result.mapError OperationError.kind
        = (verdict.mapError .wait).map (fun _ => intent.successMessage) ∧
      s'.StandsAt At ⟨r.afterCheck (st.taken.acted.checked k),
        (Marker.write s.files o.statePath state temp).2⟩ := by
  obtain ⟨-, hkind, hworld⟩ := h.start hs.world
  have hanswer := mapError_eq_ok_iff.mp (hkind.trans hreply)
  let s₁ := o.started s (Marker.write s.files o.statePath state temp).2
  have hworld₁ : At st.taken.acted s₁.world := hworld
  obtain ⟨out, result, ⟨-, near, hout⟩, hreturned, rfl, htoken, hworld'⟩ :=
    h.exists_endsWith hworld₁ hs.token hleast hverdict
  obtain ⟨result', hresult, hkind'⟩ := exists_result result
    (fun _ => intent.successMessage) .wait WaitError.kind .wait fun _ => rfl
  refine ⟨s₁.waited out, result', ⟨max s₁.now near, fun horizon hle => ?_⟩, ?_, htoken, rfl,
    hworld'⟩
  · have hstarted : s₁.now ≤ horizon := Nat.le_trans (Nat.le_max_left _ _) hle
    rw [perform_of_ok h hs hop hwritten hanswer hstarted,
      hout horizon (Nat.le_trans (Nat.le_max_right _ _) hle), hreturned, hresult]
  · rw [hkind']
    cases result <;> rfl

/-- **A start whose wait is never decided does not end.** -/
theorem not_endsWith (hreply : r.actions st.taken.actions = .ok ())
    (hn : ∀ k, r.verdict? (st.taken.acted.checked k) = none) {s' : Scene σ}
    {result : Except OperationError String} : ¬ o.EndsWith temp s op s' result := by
  rintro ⟨near, hends⟩
  obtain ⟨-, hkind, hworld⟩ := h.start hs.world
  have hanswer := mapError_eq_ok_iff.mp (hkind.trans hreply)
  let s₁ := o.started s (Marker.write s.files o.statePath state temp).2
  have hworld₁ : At st.taken.acted s₁.world := hworld
  have hstarted : s₁.now ≤ max s₁.now near := Nat.le_max_left _ _
  have hgoes : ((o.waiting s₁).watch (max s₁.now near)).ending = .unwatched :=
    h.goesOn hworld₁ hs.token hn _ hstarted
  have hend := hends (max s₁.now near) (Nat.le_max_right _ _)
  rw [perform_of_ok h hs hop hwritten hanswer hstarted, hgoes] at hend
  cases hend

end Start

variable (h : o.Follows r At) (hs : s.StandsAt At st)
include h hs

/-- **What the replies dictate comes about.** -/
theorem endsWith_of_dictates {kind : Except OperationError.Kind String}
    (hd : r.Dictates o.service o.statePath temp op st kind st') :
    ∃ s' result, o.EndsWith temp s op s' result ∧ result.mapError OperationError.kind = kind ∧
      s'.StandsAt At st' := by
  cases hd with
  | refused hop harbitrator =>
    refine ⟨s, .error (.invalidIntent o.service .bootstrap), ⟨0, fun horizon _ => ?_⟩, rfl, hs⟩
    rw [perform_eq, hop]
    exact if_pos harbitrator
  | @unwritten intent state failure hop hwritten =>
    rw [← hs.files_eq] at hwritten ⊢
    refine ⟨{ s with files := (Marker.write s.files o.statePath state temp).2 },
      .error (.persistence o.statePath failure), ⟨0, fun horizon _ => ?_⟩, rfl, hs.token, rfl,
      hs.world⟩
    rw [perform_of_start? hop, startDeclared_of_error _ _ _ _ _ _ hwritten]
  | @unstarted intent state source hop hwritten hreply =>
    rw [← hs.files_eq] at hwritten ⊢
    obtain ⟨-, hkind, hworld⟩ := h.start hs.world
    rw [hreply] at hkind
    cases hanswer : (o.supervisor.start o.service s.world).1.answer with
    | ok done =>
      rw [hanswer] at hkind
      cases hkind
    | error source' =>
      rw [hanswer] at hkind
      obtain rfl : source'.kind = source := Except.error.inj hkind
      exact ⟨_, .error (.supervisor source'), ⟨_, fun horizon hle =>
        perform_of_error h hs hop hwritten hanswer hle⟩, rfl, hs.token, rfl, hworld⟩
  | waited hop hwritten hreply hleast hverdict =>
    rw [← hs.files_eq] at hwritten ⊢
    exact h.endsWith_of_verdict hs hop hwritten hreply hleast hverdict
  | stopped hop =>
    refine endsWith_of_answered s .stop (h.stop hs.world) hs.token hs.files_eq
      fun horizon hle => ?_
    rw [perform_eq, hop]
    exact (stop_eq ..).trans (by rw [call_of_isPlain (h.stop hs.world).isPlain hle])
  | queried hop =>
    refine endsWith_of_answered s .status (h.status hs.world) hs.token hs.files_eq
      fun horizon hle => ?_
    rw [perform_eq, hop]
    exact (status_eq ..).trans (by rw [call_of_isPlain (h.status hs.world).isPlain hle])

/-- **What comes about is what the replies dictate.** -/
theorem exists_dictates {s' : Scene σ} {result : Except OperationError String}
    (hends : o.EndsWith temp s op s' result) : ∃ st', r.Dictates o.service o.statePath temp op st
      (result.mapError OperationError.kind) st' ∧ s'.StandsAt At st' := by
  have hdictated : ∀ {kind st'}, r.Dictates o.service o.statePath temp op st kind st' →
      ∃ st', r.Dictates o.service o.statePath temp op st
        (result.mapError OperationError.kind) st' ∧ s'.StandsAt At st' := by
    intro kind st' hd
    obtain ⟨s₁, result₁, hends₁, rfl, hstands⟩ := h.endsWith_of_dictates hs hd
    obtain ⟨rfl, rfl⟩ := hends.unique hends₁
    exact ⟨st', hd, hstands⟩
  rcases op.start?_cases o.service with ⟨hop, harbitrator⟩ | hop | hop | ⟨intent, state, hop⟩
  · exact hdictated (.refused hop harbitrator)
  · exact hdictated (.stopped hop)
  · exact hdictated (.queried hop)
  · cases hwritten : (Marker.write st.files o.statePath state temp).1 with
    | error failure => exact hdictated (.unwritten hop hwritten)
    | ok done =>
      cases hreply : r.actions st.taken.actions with
      | error source => exact hdictated (.unstarted hop hwritten hreply)
      | ok done =>
        by_cases hdecides : ∃ k, r.verdict? (st.taken.acted.checked k) ≠ none
        · classical
          have hleast : ∀ i < Nat.find hdecides, r.verdict? (st.taken.acted.checked i) = none :=
            fun i hi => not_not.mp (Nat.find_min hdecides hi)
          obtain ⟨verdict, hverdict⟩ := Option.ne_none_iff_exists'.mp (Nat.find_spec hdecides)
          exact hdictated (.waited hop hwritten hreply hleast hverdict)
        · have hn : ∀ k, r.verdict? (st.taken.acted.checked k) = none := fun k =>
            not_not.mp fun hk => hdecides ⟨k, hk⟩
          rw [← hs.files_eq] at hwritten
          exact absurd hends (h.not_endsWith hs hop hwritten hreply hn)

end Follows

/-! ## Operations one after the other -/

/-- The operations end one after the other, each with its result.  Every operation comes with the
temporary file of its marker. -/
inductive Runs (o : Orchestrator σ) : Scene σ → List (Operation × Marker.TempFile) →
    List (Except OperationError String) → Scene σ → Prop
  | nil {s : Scene σ} : Runs o s [] [] s
  | cons {s s₁ s₂ : Scene σ} {op : Operation} {temp : Marker.TempFile}
      {ops : List (Operation × Marker.TempFile)} {result : Except OperationError String}
      {results : List (Except OperationError String)} :
    o.EndsWith temp s op s₁ result → Runs o s₁ ops results s₂ →
    Runs o s ((op, temp) :: ops) (result :: results) s₂

/-- The operations end one after the other with results of these kinds, and leave these files. -/
def ComesTo (o : Orchestrator σ) (s : Scene σ) (ops : List (Operation × Marker.TempFile))
    (kinds : List (Except OperationError.Kind String)) (files : FileTree) : Prop :=
  ∃ results s', o.Runs s ops results s' ∧
    results.map (·.mapError OperationError.kind) = kinds ∧ s'.files = files

section Two

variable {o : Orchestrator σ} {o' : Orchestrator τ} {r : Replies} {At : Taken → σ → Prop}
  {At' : Taken → τ → Prop} {s s₁ : Scene σ} {s' : Scene τ} {st : Standing}

/-- **An orchestrator follows another one that follows the same replies.** -/
theorem Follows.comesTo_of_runs (h : o.Follows r At) (h' : o'.Follows r At')
    (hservice : o'.service = o.service) (hpath : o'.statePath = o.statePath)
    (hs : s.StandsAt At st) (hs' : s'.StandsAt At' st) {ops : List (Operation × Marker.TempFile)}
    {results : List (Except OperationError String)} (hruns : o.Runs s ops results s₁) :
    o'.ComesTo s' ops (results.map (·.mapError OperationError.kind)) s₁.files := by
  induction hruns generalizing s' st with
  | nil => exact ⟨[], s', .nil, rfl, hs'.files_eq.trans hs.files_eq.symm⟩
  | @cons s s₁ s₂ op temp ops result results hends _ ih =>
    obtain ⟨st₁, hd, hs₁⟩ := h.exists_dictates hs hends
    rw [← hservice, ← hpath] at hd
    obtain ⟨s₁', result', hends', hkind, hs₁'⟩ := h'.endsWith_of_dictates hs' hd
    obtain ⟨results', s₂', hruns', hkinds, hfiles⟩ := ih hs₁ hs₁'
    exact ⟨result' :: results', s₂', .cons hends' hruns', by
      rw [List.map_cons, List.map_cons, hkind, hkinds], hfiles⟩

/-- **Two orchestrators that follow the same replies come to the same.** -/
theorem Follows.comesTo_iff (h : o.Follows r At) (h' : o'.Follows r At')
    (hservice : o'.service = o.service) (hpath : o'.statePath = o.statePath)
    (hs : s.StandsAt At st) (hs' : s'.StandsAt At' st) (ops : List (Operation × Marker.TempFile))
    (kinds : List (Except OperationError.Kind String)) (files : FileTree) :
    o.ComesTo s ops kinds files ↔ o'.ComesTo s' ops kinds files := by
  refine ⟨?_, ?_⟩
  · rintro ⟨results, s₁, hruns, rfl, rfl⟩
    exact h.comesTo_of_runs h' hservice hpath hs hs' hruns
  · rintro ⟨results, s₁, hruns, rfl, rfl⟩
    exact h'.comesTo_of_runs h hservice.symm hpath.symm hs' hs hruns

end Two

end Orchestrator

end Sidecar
