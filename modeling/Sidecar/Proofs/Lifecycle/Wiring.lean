import Mathlib
import Sidecar.Proofs.Config.Sound
import Sidecar.Proofs.Lifecycle.Following
import Sidecar.Proofs.Readiness
import Sidecar.Proofs.Supervisor.Monit

/-!
# Proofs/Lifecycle/Wiring — an orchestrator over HTTP is the one over its replies

Two servers answer from scripts: a monit daemon, with one script for the forms posted to the
service's page and one for the report, and the node.  `Servers.replies` reads the scripts as a
supervisor's and a probe's replies, with failures for requests that are too long to be sent, and
**the configured orchestrator follows them** (`Servers.follows`).  So it comes to what any
orchestrator comes to that is given these replies (`ofConfig_comesTo_iff`).
-/

namespace Sidecar

open Http (Answer Network Request)

/-! ## What an answer stands for -/

namespace Http.Answer

/-- What a supervisor replies to an action: **every status from 200 to 299 accepts it.** -/
def actionReply : Answer → Except SupervisorError.Kind Unit
  | .response r =>
    if 200 ≤ r.status ∧ r.status < 300 then .ok () else .error (.rejected r.status)
  | _ => .error .request

/-- What a supervisor replies when it is asked for a service's state. -/
def statusReply (service : String) : Answer → Except SupervisorError.Kind ProcessState
  | .response r =>
    if 200 ≤ r.status ∧ r.status < 300 then
      match Report.state? r.text service with
      | some state => .ok state
      | none => .error .unknownService
    else .error (.rejected r.status)
  | _ => .error .request

/-- What a probe replies: **only status 200 means that the node is ready.** -/
def readyReply : Answer → ProbeOutcome.Kind
  | .response r => if r.status = 200 then .ready else .rejected r.status
  | _ => .unreachable

/-- No request is redirected by the answer. -/
def IsDirect [Http.Resolver] (answer : Answer) : Prop :=
  ∀ r, answer = .response r → ∀ request, Http.redirect? request r = none

end Http.Answer

/-- Whether a request can be sent for the page that probes of an address ask for. -/
def Probe.canAsk [Url.Idna] (address : String) : Bool :=
  match Url.parse (urlText address) with
  | .error _ => false
  | .ok url => url.withoutCredentials.isSendable

/-! ## The servers -/

/-- Where a server listens. -/
structure Server where
  host : Url.Host
  port : Nat

/-- An address leads to the server. -/
def Server.IsAt (v : Server) (url : Url) : Prop := url.host = v.host ∧ url.effectivePort = v.port

instance (v : Server) (url : Url) : Decidable (v.IsAt url) :=
  inferInstanceAs (Decidable (_ ∧ _))

/-- **Every page of a server is at the server.** -/
theorem Server.isAt_withPage_iff (v : Server) (root : Url) (page : List Char) :
    v.IsAt (root.withPage page).withoutCredentials ↔ v.IsAt root := by
  rw [Url.withPage]
  rfl

/-- Two servers, and what they answer.  A script goes on for ever: **a list of replies is one, with
whatever comes after its end.** -/
structure Servers where
  monit : Server
  node : Server
  distinct : ¬ (monit.host = node.host ∧ monit.port = node.port)
  actions : Nat → Answer
  statuses : Nat → Answer
  readies : Nat → Answer

namespace Servers

variable (v : Servers)

/-- A page that is not there. -/
def missing : Answer := .response ⟨404, [], []⟩

/-- The network of the two servers.  **Each script is for one kind of request.** -/
def network (service : String) : Network Taken where
  exchange _ request t :=
    if v.monit.IsAt request.url then
      if request.method = .post ∧ request.url.target = "/" ++ service then
        (v.actions t.actions, t.acted)
      else if request.method = .get ∧ request.url.target = "/_status" then
        (v.statuses t.statuses, t.asked)
      else (missing, t)
    else if v.node.IsAt request.url then
      if request.method = .get then (v.readies t.readies, t.probed) else (missing, t)
    else (.fault .unreachable, t)

/-- What requests bring that a script answers: **a failure each, if they cannot be sent.** -/
def brought (canAsk : Bool) (script : Nat → Answer) (n : Nat) : Answer :=
  if canAsk then script n else .fault .unreachable

/-- The scripts as a supervisor's and a probe's replies. -/
def replies [Url.Idna] (c : Config) : Replies where
  actions n := (brought (c.monit.canAsk c.service) v.actions n).actionReply
  statuses n := (brought (c.monit.canAsk "_status") v.statuses n).statusReply c.service
  readies n := (brought (Probe.canAsk c.address) v.readies n).readyReply

/-- **The servers redirect nothing.** -/
structure IsDirect [Http.Resolver] : Prop where
  actions : ∀ n, (v.actions n).IsDirect
  statuses : ∀ n, (v.statuses n).IsDirect
  readies : ∀ n, (v.readies n).IsDirect

/-- The configuration's addresses are those of the servers. -/
structure IsNamedBy [Url.Idna] (c : Config) : Prop where
  hasPlainHost : c.monit.HasPlainHost
  monit : ∃ root, c.monit.root = .ok root ∧ v.monit.IsAt root
  node : ∃ url, Url.parse (Probe.urlText c.address) = .ok url ∧ v.node.IsAt url

variable {v}

/-- **The network of the servers redirects nothing.** -/
theorem isDirect_network [Http.Resolver] (h : v.IsDirect) (service : String) (request : Request) :
    (v.network service).IsDirect request := by
  intro timeout t r hr
  simp only [network] at hr
  split at hr
  · split at hr
    · exact h.actions _ r hr request
    · split at hr
      · exact h.statuses _ r hr request
      · cases hr
        rfl
  · split at hr
    · split at hr
      · exact h.readies _ r hr request
      · cases hr
        rfl
    · cases hr

section Exchange

variable {service : String} {request : Request} (timeout : Nat) (t : Taken)

/-- **A form for the service's page takes the next reply to an action.** -/
theorem exchange_action (hat : v.monit.IsAt request.url) (hmethod : request.method = .post)
    (htarget : request.url.target = "/" ++ service) :
    (v.network service).exchange timeout request t = (v.actions t.actions, t.acted) := by
  simp [network, hat, hmethod, htarget]

/-- **A request for the report takes the next report.** -/
theorem exchange_status (hat : v.monit.IsAt request.url) (hmethod : request.method = .get)
    (htarget : request.url.target = "/_status") :
    (v.network service).exchange timeout request t = (v.statuses t.statuses, t.asked) := by
  simp [network, hat, hmethod, htarget]

/-- **A request of the node takes the node's next reply.** -/
theorem exchange_ready (hat : v.node.IsAt request.url) (hmethod : request.method = .get) :
    (v.network service).exchange timeout request t = (v.readies t.readies, t.probed) := by
  have hother : ¬ v.monit.IsAt request.url := fun hmonit =>
    v.distinct ⟨hmonit.1.symm.trans hat.1, hmonit.2.symm.trans hat.2⟩
  simp [network, hat, hother, hmethod]

end Exchange

/-! ## What calls tell of what requests bring -/

section Kinds

variable {service : String}

/-- The answer of a server makes a plain call. -/
theorem isPlain_call (answer : Answer) (timeout : Nat) (url : Url) {α : Type}
    (f : Except Http.Failure Http.Response → α) : ((answer.call timeout url).map f).IsPlain := by
  cases answer with
  | response r => exact ⟨0, rfl⟩
  | fault fault => exact ⟨0, rfl⟩
  | silence => exact ⟨timeout, rfl⟩

theorem isSuccess_eq (status : Nat) :
    Http.isSuccess status = decide (200 ≤ status ∧ status < 300) := by
  rw [Http.isSuccess, Bool.eq_iff_iff, beq_iff_eq, decide_eq_true_eq]
  omega

/-- **An action's end is told by the answer.** -/
theorem acknowledged_kind (answer : Answer) (timeout : Nat) (url : Url) (action : Action) :
    (((answer.call timeout url).map (Monit.acknowledged action service)).answer).mapError
      SupervisorError.kind = answer.actionReply := by
  cases answer with
  | response r =>
    simp only [Http.Answer.call, Call.answer_map, Call.answer_now, Monit.acknowledged,
      isSuccess_eq, decide_eq_true_eq, Http.Answer.actionReply]
    split <;> rfl
  | fault fault => rfl
  | silence => rfl

/-- **The state is told by the answer.** -/
theorem reported_kind (answer : Answer) (timeout : Nat) (url : Url) :
    (((answer.call timeout url).map (Monit.reported service)).answer).mapError
      SupervisorError.kind = answer.statusReply service := by
  cases answer with
  | response r =>
    simp only [Http.Answer.call, Call.answer_map, Call.answer_now, Monit.reported,
      isSuccess_eq, decide_eq_true_eq, Http.Answer.statusReply]
    split
    · cases Report.state? r.text service <;> rfl
    · rfl
  | fault fault => rfl
  | silence => rfl

/-- **What a check finds is told by the answer.** -/
theorem outcome_kind (answer : Answer) (timeout : Nat) (url : Url) :
    ((answer.call timeout url).map Probe.outcome).answer.kind = answer.readyReply := by
  cases answer with
  | response r =>
    simp only [Http.Answer.call, Call.answer_map, Call.answer_now, Probe.outcome,
      Http.Answer.readyReply]
    split <;> rfl
  | fault fault => rfl
  | silence => rfl

end Kinds

/-! ## The configured orchestrator -/

section Replies

variable [Url.Idna] (c : Config) (n : Nat)

theorem replies_actions : (v.replies c).actions n
    = (brought (c.monit.canAsk c.service) v.actions n).actionReply := by
  rw [replies]

theorem replies_statuses : (v.replies c).statuses n
    = (brought (c.monit.canAsk "_status") v.statuses n).statusReply c.service := by
  rw [replies]

theorem replies_readies : (v.replies c).readies n
    = (brought (Probe.canAsk c.address) v.readies n).readyReply := by
  rw [replies]

end Replies

/-- A script tells the same where as much has been taken of it. -/
theorem brought_congr {canAsk : Bool} (script : Nat → Answer) {n n' : Nat}
    (h : canAsk = true → n = n') : brought canAsk script n = brought canAsk script n' := by
  cases canAsk with
  | true => rw [h rfl]
  | false => rfl

/-- **A call tells what a script brings**, and takes of it just what is sent for. -/
theorem gives_brought [Http.Resolver] {α κ : Type} {network : Network Taken} {request : Request}
    {timeout n : Nat} {canAsk : Bool} {script : Nat → Answer} {t next : Taken} {kind : α → κ}
    {reply : Answer → κ} {read : Except Http.Failure Http.Response → α} {After : Taken → Prop}
    (hcan : canAsk = request.url.isSendable) (hdirect : network.IsDirect request)
    (hexchange : network.exchange timeout request t = (script n, next))
    (hanswered : ∀ answer url, kind ((answer.call timeout url).map read).answer = reply answer)
    (hfailed : ∀ failure, kind (read (.error failure)) = reply (.fault .unreachable))
    (hnext : canAsk = true → After next) (hsame : canAsk = false → After t) :
    Gives kind (reply (brought canAsk script n)) After
      ((Http.send network timeout request t).1.map read,
        (Http.send network timeout request t).2) := by
  cases hsendable : request.url.isSendable with
  | true =>
    rw [hsendable] at hcan
    rw [Http.send_of_isDirect hdirect hsendable, hexchange, hcan]
    exact ⟨isPlain_call .., hanswered .., hnext hcan⟩
  | false =>
    rw [hsendable] at hcan
    rw [Http.send_of_not_isSendable hsendable, hcan]
    exact ⟨⟨0, rfl⟩, hfailed _, hsame hcan⟩

section Calls

variable [Url.Idna]

/-- **As much has been taken of the replies as of the scripts**, but for requests that cannot be
sent. -/
structure Keeps (c : Config) (t t' : Taken) : Prop where
  actions : c.monit.canAsk c.service = true → t.actions = t'.actions
  statuses : c.monit.canAsk "_status" = true → t.statuses = t'.statuses
  readies : Probe.canAsk c.address = true → t.readies = t'.readies

theorem Keeps.refl (c : Config) (t : Taken) : Keeps c t t :=
  ⟨fun _ => rfl, fun _ => rfl, fun _ => rfl⟩

variable [Http.Resolver] {c : Config} {t t' : Taken} (hnamed : v.IsNamedBy c)
  (hdirect : v.IsDirect) (hkeeps : Keeps c t t')
include hnamed hdirect hkeeps

/-- **Starting and stopping take from the script of the actions.** -/
theorem gives_act (hword : ∀ ch ∈ c.service.toList, Url.isWordChar ch = true) (action : Action) :
    Gives (·.mapError SupervisorError.kind) ((v.replies c).actions t.actions) (Keeps c t.acted)
      (Monit.act (v.network c.service) c.monit action c.service t') := by
  obtain ⟨root, hroot, hat⟩ := hnamed.monit
  let request := Monit.requestAt c.monit c.service (.postForm · "action" action.verb) root
  have hat' : v.monit.IsAt request.url := by
    rw [Monit.url_requestAt_postForm]
    exact (v.monit.isAt_withPage_iff root _).mpr hat
  have hcan : c.monit.canAsk c.service = request.url.isSendable := by
    rw [Monit.Account.canAsk, hroot, Monit.url_requestAt_postForm]
  have htarget : request.url.target = "/" ++ c.service := by
    rw [Monit.target_requestAt_postForm, Url.target_withPage_plain (.of_word hword)]
    simp
  have hreply : (v.replies c).actions t.actions
      = (brought (c.monit.canAsk c.service) v.actions t'.actions).actionReply := by
    rw [replies_actions, brought_congr v.actions hkeeps.actions]
  rw [Monit.act_eq, Monit.send_eq hnamed.hasPlainHost, hroot, hreply]
  exact gives_brought hcan (isDirect_network hdirect _ _) (exchange_action _ t' hat' rfl htarget)
    (fun _ _ => acknowledged_kind ..) (fun _ => rfl)
    (fun h => ⟨fun _ => congrArg (· + 1) (hkeeps.actions h), hkeeps.statuses, hkeeps.readies⟩)
    (fun h => ⟨fun h' => (Bool.eq_false_iff.mp h h').elim, hkeeps.statuses, hkeeps.readies⟩)

/-- **A query takes from the script of the reports.** -/
theorem gives_status : Gives (·.mapError SupervisorError.kind)
    ((v.replies c).statuses t.statuses) (Keeps c t.asked)
    ((Monit.supervisor (v.network c.service) c.monit).status c.service t') := by
  obtain ⟨root, hroot, hat⟩ := hnamed.monit
  let request := Monit.requestAt c.monit "_status" .get root
  have hat' : v.monit.IsAt request.url := by
    rw [Monit.url_requestAt_get]
    exact (v.monit.isAt_withPage_iff root _).mpr hat
  have hcan : c.monit.canAsk "_status" = request.url.isSendable := by
    rw [Monit.Account.canAsk, hroot, Monit.url_requestAt_get]
  have htarget : request.url.target = "/_status" := by
    have hword : ∀ ch ∈ "_status".toList, Url.isWordChar ch = true :=
      List.all_eq_true.mp (by decide)
    rw [Monit.target_requestAt_get, Url.target_withPage_plain (.of_word hword)]
    rfl
  have hreply : (v.replies c).statuses t.statuses
      = (brought (c.monit.canAsk "_status") v.statuses t'.statuses).statusReply c.service := by
    rw [replies_statuses, brought_congr v.statuses hkeeps.statuses]
  rw [Monit.status_eq, Monit.send_eq hnamed.hasPlainHost, hroot, hreply]
  exact gives_brought hcan (isDirect_network hdirect _ _) (exchange_status _ t' hat' rfl htarget)
    (fun _ _ => reported_kind ..) (fun _ => rfl)
    (fun h => ⟨hkeeps.actions, fun _ => congrArg (· + 1) (hkeeps.statuses h), hkeeps.readies⟩)
    (fun h => ⟨hkeeps.actions, fun h' => (Bool.eq_false_iff.mp h h').elim, hkeeps.readies⟩)

/-- **A probe takes from the node's script.** -/
theorem gives_ready (timeout : Nat) : Gives ProbeOutcome.kind ((v.replies c).readies t.readies)
    (Keeps c t.probed) ((Probe.http (v.network c.service) c.address timeout).check t') := by
  obtain ⟨url, hurl, hat⟩ := hnamed.node
  have hat' : v.node.IsAt (Request.get url).url := hat
  have hcan : Probe.canAsk c.address = (Request.get url).url.isSendable := by
    rw [Probe.canAsk, hurl]
    rfl
  have hreply : (v.replies c).readies t.readies
      = (brought (Probe.canAsk c.address) v.readies t'.readies).readyReply := by
    rw [replies_readies, brought_congr v.readies hkeeps.readies]
  rw [Probe.check_of_parsed _ _ _ hurl, hreply]
  exact gives_brought hcan (isDirect_network hdirect _ _) (exchange_ready _ t' hat' rfl)
    (fun _ _ => outcome_kind ..) (fun _ => rfl)
    (fun h => ⟨hkeeps.actions, hkeeps.statuses, fun _ => congrArg (· + 1) (hkeeps.readies h)⟩)
    (fun h => ⟨hkeeps.actions, hkeeps.statuses, fun h' => (Bool.eq_false_iff.mp h h').elim⟩)

end Calls

/-- **The configured orchestrator follows the replies that the scripts stand for.** -/
theorem follows [Url.Idna] [Http.Resolver] {c : Config} (hnamed : v.IsNamedBy c)
    (hdirect : v.IsDirect) (hword : ∀ ch ∈ c.service.toList, Url.isWordChar ch = true)
    (hsound : c.Sound) (hmax : c.readiness.maxWait = none) :
    (Orchestrator.ofConfig (v.network c.service) c).Follows (v.replies c) (Keeps c) where
  tick_pos := hsound.tick_pos
  maxWait := by simp only [Orchestrator.ofConfig, Config.waitSettings, hmax, Option.map_none]
  start := by
    intro t t' hkeeps
    simp only [Orchestrator.ofConfig, Monit.supervisor]
    exact gives_act hnamed hdirect hkeeps hword .start
  stop := by
    intro t t' hkeeps
    simp only [Orchestrator.ofConfig, Monit.supervisor]
    exact gives_act hnamed hdirect hkeeps hword .stop
  status := by
    intro t t' hkeeps
    simp only [Orchestrator.ofConfig]
    exact gives_status hnamed hdirect hkeeps
  probe := by
    intro t t' hkeeps
    simp only [Orchestrator.ofConfig]
    exact gives_ready hnamed hdirect hkeeps _

end Servers

namespace Orchestrator

section Wired

/-- A file with an account and an address on the own machine. -/
def wiredText : String :=
  "service_name: mysql
state_file_path: state.txt
galera_init_address: 127.0.0.1:8114
"
    ++ "monit:
  username: vcap
  password: secret
"

/-- What the file means. -/
def wired : Config :=
  ⟨"mysql", "state.txt", "127.0.0.1:8114", .default, ⟨"127.0.0.1", 2822, "vcap", "secret"⟩⟩

/-- Everything works, but the node cannot be reached at first. -/
def wiredServers : Servers where
  monit := ⟨.ipv4 0x7F000001, 2822⟩
  node := ⟨.ipv4 0x7F000001, 8114⟩
  distinct := by decide
  actions _ := .response ⟨202, [], []⟩
  statuses _ := .response
    ⟨200, [], Text.Utf8.encode "Process 'mysql'
  status  Running
".toList⟩
  readies n := if n = 0 then .fault .refused else .response ⟨200, [], []⟩

theorem parse_wiredText : Config.parse wiredText "sidecar.yml" = .ok wired := by
  decide +kernel

theorem isNamedBy_wired : wiredServers.IsNamedBy wired where
  hasPlainHost := by decide +kernel
  monit := ⟨⟨false, [], [], .ipv4 0x7F000001, some 2822, [[]], none, none⟩, by decide +kernel,
    by decide +kernel⟩
  node := ⟨⟨false, [], [], .ipv4 0x7F000001, some 8114, [[]], none, none⟩, by decide +kernel,
    by decide +kernel⟩

/-- **No answer without a header is a redirect.** -/
theorem isDirect_of_no_headers {status : Nat} {body : List UInt8} :
    Answer.IsDirect (.response ⟨status, [], body⟩) := by
  rintro r hr request
  cases hr
  rfl

theorem isDirect_wired : wiredServers.IsDirect where
  actions _ := isDirect_of_no_headers
  statuses _ := isDirect_of_no_headers
  readies n := by
    simp only [wiredServers]
    split
    · rintro r hr
      cases hr
    · exact isDirect_of_no_headers

/-- The orchestrator that is given the replies. -/
def given : Orchestrator Taken :=
  (wiredServers.replies wired).orchestrator "mysql" "state.txt" "127.0.0.1:8114" 1000

/-- The files of a machine on which nothing has happened. -/
def wiredScene : Scene Taken := ⟨0, .fresh, .empty [], ⟨0, 0, 0⟩, []⟩

/-- No reply has been taken. -/
def wiredStanding : Standing := ⟨⟨0, 0, 0⟩, .empty []⟩

/-- The files with the marker of a join. -/
def joinedFiles : FileTree := (Marker.write (.empty []) "state.txt" .clustered ".tmpAbC123").2

/-- What the replies dictate of a join: **the node is ready at the second check.** -/
theorem dictates_wired : (wiredServers.replies wired).Dictates "mysql" "state.txt" ".tmpAbC123"
    (.run .join) wiredStanding (.ok "join cluster successful") ⟨⟨1, 2, 2⟩, joinedFiles⟩ := by
  have hwritten : (Marker.write wiredStanding.files "state.txt" .clustered ".tmpAbC123").1
      = .ok () := by cbv
  have hreply : (wiredServers.replies wired).actions 0 = .ok () := by decide +kernel
  have hfirst : (wiredServers.replies wired).verdict? ⟨1, 0, 0⟩ = none := by decide +kernel
  have hsecond : (wiredServers.replies wired).verdict? ⟨1, 1, 1⟩ = some (.ok ()) := by
    decide +kernel
  have hafter : (wiredServers.replies wired).afterCheck ⟨1, 1, 1⟩ = ⟨1, 2, 2⟩ := by
    decide +kernel
  have hleast : ∀ i < 1, (wiredServers.replies wired).verdict?
      (wiredStanding.taken.acted.checked i) = none := by
    intro i hi
    obtain rfl : i = 0 := by omega
    exact hfirst
  have hop : (Operation.run .join).start? "mysql" = some (.join, .clustered) := rfl
  rw [← hafter]
  exact .waited hop hwritten hreply hleast hsecond

end Wired

end Orchestrator

end Sidecar
