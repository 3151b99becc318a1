import Mathlib
import Sidecar.Proofs.Config.Sound
import Sidecar.Proofs.Lifecycle.Agreement
import Sidecar.Proofs.Readiness
import Sidecar.Proofs.Supervisor.Monit
import Sidecar.Proofs.Url.Way
import Sidecar.Proofs.Wait.Unreached

/-!
# Proofs/Config/Address — what the configured address is asked for

A probe puts the address between `http://` and `/` and reads the result as a URL.  What it reads is
a server and a way behind it (`Names`), or nothing.  **The front page is asked for just if the way
leads home**, and no check asks for anything if there is no server to send to; yet an address is
accepted unless it is blank or holds `://` (`asks_front_page_iff`).
-/

namespace Sidecar

open Http (IsRedirected Network Request)

namespace Probe

/-! ## The server that an address names -/

/-- What counts of an address: **no tab and no line break, and no slash at its front.** -/
def counted (address : String) : List Char :=
  (address.toList.filter (!Url.isIgnored ·)).dropWhile Url.isSlash

/-- **Nothing of an address is padding**: it has a scheme before it and a slash behind it. -/
theorem clean_urlText (address : String) : Url.clean (urlText address).toList
    = "http://".toList ++ (address.toList.filter (!Url.isIgnored ·) ++ ['/']) := by
  have htext : (urlText address).toList = "http://".toList ++ (address.toList ++ ['/']) := by
    simp [urlText, String.toList_append]
  have hfront : ∀ cs, ("http://".toList ++ cs).dropWhile Url.isPadding = "http://".toList ++ cs :=
    fun cs => rfl
  have hback : ∀ cs : List Char,
      (cs ++ ['/']).reverse.dropWhile Url.isPadding = (cs ++ ['/']).reverse := fun cs => by
    rw [List.reverse_append]
    rfl
  rw [Url.clean, htext, hfront, ← List.append_assoc, hback, List.reverse_reverse,
    List.filter_append, List.filter_append, List.append_assoc]
  rfl

section Named

variable [Url.Idna]

/-- The address names a server, with a way behind it. -/
structure Names (address : String) (server : Url.Server) (way : List Char) : Prop where
  counted_eq : counted address = server.text ++ way
  ends : way.head?.all Url.endsAuthority = true

/-- **The slash at the end is one of those at the front** if nothing else is there. -/
theorem parse_urlText (address : String) : Url.parse (urlText address) = Url.parseAuthority false
    (if (counted address).isEmpty then [] else counted address ++ ['/']) := by
  have hscheme : Url.splitScheme (Url.clean (urlText address).toList) = some ("http".toList,
      "//".toList ++ (address.toList.filter (!Url.isIgnored ·) ++ ['/'])) := by
    rw [clean_urlText]
    exact Url.splitScheme_http _
  have hdrop : ("//".toList ++ (address.toList.filter (!Url.isIgnored ·) ++ ['/'])).dropWhile
      Url.isSlash = if (counted address).isEmpty then [] else counted address ++ ['/'] := by
    rw [List.dropWhile_append_of_pos (by simp [Url.isSlash]), List.dropWhile_append]
    rfl
  rw [Url.parse, hscheme]
  exact congrArg (Url.parseAuthority false) hdrop

/-- **The slash at the end belongs to the way**: no server has one. -/
theorem exists_way {cs tail : List Char} {server : Url.Server}
    (h : cs ++ ['/'] = server.text ++ tail) :
    ∃ way, tail = way ++ ['/'] ∧ cs = server.text ++ way := by
  rcases tail.eq_nil_or_concat' with rfl | ⟨way, last, rfl⟩
  -- with nothing behind the server, the slash would be its own
  · have hslash : '/' ∈ server.text := by
      rw [← List.append_nil server.text, ← h]
      exact List.mem_append_right cs List.mem_cons_self
    exact absurd (server.goes_on hslash) (by decide)
  · rw [← List.append_assoc] at h
    obtain ⟨hcs, hlast⟩ := List.append_inj' h rfl
    exact ⟨way, by rw [← hlast], hcs⟩

/-- **What a probe reads is the server that the address names**, and the way up to the slash. -/
theorem parse_urlText_iff {address : String} {url : Url} : Url.parse (urlText address) = .ok url ↔
    ∃ server way, Names address server way ∧ url = server.url false (way ++ ['/']) := by
  have hends : ∀ way : List Char, (way ++ ['/']).head?.all Url.endsAuthority
      = way.head?.all Url.endsAuthority := fun way => by
    cases way <;> rfl
  rw [parse_urlText]
  constructor
  · intro h
    obtain ⟨server, tail, htext, htail, hurl⟩ := Url.exists_server h
    split at htext
    · exact absurd (List.append_eq_nil_iff.mp htext.symm).1 server.text_ne_nil
    · obtain ⟨way, rfl, hcounted⟩ := exists_way htext
      exact ⟨server, way, ⟨hcounted, hends way ▸ htail⟩, hurl⟩
  · rintro ⟨server, way, hnames, rfl⟩
    have hne : ¬ (counted address).isEmpty = true := by
      simp [hnames.counted_eq, server.text_ne_nil]
    rw [if_neg hne, hnames.counted_eq, List.append_assoc]
    exact server.parseAuthority_append (hends way ▸ hnames.ends) false

/-! ## What a probe sends -/

/-- The page that a check asks a server for. -/
def page (server : Url.Server) (way : List Char) : Url :=
  (server.url false (way ++ ['/'])).withoutCredentials

/-- No request can be sent to the address: **it names no server, or only a page that no request can
carry.** -/
def IsDead (address : String) : Prop :=
  ∀ server way, Names address server way → (page server way).isSendable = false

/-- **What is no address is dead.** -/
theorem isDead_of_not_parsed {address : String} {fault : Url.Fault}
    (h : Url.parse (urlText address) = .error fault) : IsDead address := fun server way hnames => by
  cases h.symm.trans (parse_urlText_iff.mpr ⟨server, way, hnames, rfl⟩)

section Check

variable [Http.Resolver] {σ : Type} (network : Network σ) {address : String} (timeout : Nat) (s : σ)

/-- The requests that a check sends, in order. -/
def sent {σ : Type} (network : Network σ) (address : String) (timeout : Nat) (s : σ) :
    List Request :=
  ((http network.logged address timeout).check (s, [])).2.2

/-- **A check asks the server that the address names**, and no other unless it is redirected. -/
theorem exists_sent {server : Url.Server} {way : List Char} (h : Names address server way)
    (hsendable : (page server way).isSendable) :
    ∃ more, sent network address timeout s = .get (server.url false (way ++ ['/'])) :: more ∧
      (¬ IsRedirected network timeout (.get (server.url false (way ++ ['/']))) s → more = []) := by
  have hparse := parse_urlText_iff.mpr ⟨server, way, h, rfl⟩
  rw [sent, check_of_parsed _ _ _ hparse]
  exact Http.exists_log_send hsendable timeout s []

/-- **A dead address is unreachable**, and the world takes no note of the check. -/
theorem check_of_isDead (h : IsDead address) :
    ∃ reason, (http network address timeout).check s = (.now (.unreachable reason), s) := by
  cases hparse : Url.parse (urlText address) with
  | error fault => exact ⟨_, check_of_not_parsed network address timeout hparse s⟩
  | ok url =>
    obtain ⟨server, way, hnames, rfl⟩ := parse_urlText_iff.mp hparse
    rw [check_of_parsed network address timeout hparse, Http.send_of_not_isSendable (h _ _ hnames)]
    exact ⟨_, rfl⟩

/-- **Nothing is sent to a dead address.** -/
theorem sent_of_isDead (h : IsDead address) : sent network address timeout s = [] := by
  obtain ⟨reason, hcheck⟩ := check_of_isDead network.logged timeout (s, []) h
  rw [sent, hcheck]

/-- **A node at a dead address stays unreachable.** -/
theorem staysUnreachable_of_isDead (h : IsDead address) :
    Wait.StaysUnreachable (http network address timeout) := fun world => by
  obtain ⟨reason, hcheck⟩ := check_of_isDead network timeout world h
  exact ⟨reason, by rw [hcheck]⟩

end Check

end Named

end Probe

namespace Config

/-! ## Addresses that are accepted -/

/-- **An address is accepted unless it is blank or holds `://`.** -/
theorem flaw?_with_address {c : Config} (h : c.flaw? = none) (address : String) :
    { c with address }.flaw? = none ↔
      Text.isBlankText address = false ∧ ¬ "://".toList <:+: address.toList := by
  obtain ⟨hservice, -, -, htick, hprobe, hmax⟩ := (flaw?_eq_none_iff c).mp h
  rw [flaw?_eq_none_iff, ← Text.holds_iff_isInfix, Bool.not_eq_true]
  exact ⟨fun ⟨_, hblank, hscheme, _⟩ => ⟨hblank, hscheme⟩,
    fun ⟨hblank, hscheme⟩ => ⟨hservice, hblank, hscheme, htick, hprobe, hmax⟩⟩

/-- **The front page is asked for just if the address names a server and a way that leads home.**
An address is accepted unless it is blank or holds `://`.  A check of one that names a server sends
a GET to it, unless no request can carry the page, for the front page just if the way up to the
slash leads home, and sends nothing more unless it is redirected.  A check of a dead one sends
nothing and finds the node unreachable, so that a wait without a limit goes on for ever while the
service runs. -/
theorem asks_front_page_iff [Url.Idna] [Http.Resolver] {c : Config} (h : c.flaw? = none)
    (address : String) :
    ({ c with address }.flaw? = none ↔
      Text.isBlankText address = false ∧ ¬ "://".toList <:+: address.toList) ∧
    ((∃ url, Url.parse (Probe.urlText address) = .ok url) ↔
      ∃ server way, Probe.Names address server way) ∧
    ((∃ url, Url.parse (Probe.urlText address) = .ok url ∧ url.target = "/") ↔
      ∃ server way, Probe.Names address server way ∧ Url.LeadsHome (way ++ ['/'])) ∧
    ∀ {σ : Type} (network : Network σ) (timeout : Nat),
      (∀ server way, Probe.Names address server way → (Probe.page server way).isSendable →
        ∀ s, ∃ first more, Probe.sent network address timeout s = first :: more ∧
        first.method = .get ∧ first.url = Probe.page server way ∧ first.url.host = server.host ∧
        (first.url.target = "/" ↔ Url.LeadsHome (way ++ ['/'])) ∧
        (¬ IsRedirected network timeout first s → more = [])) ∧
      (Probe.IsDead address →
        (∀ s, Probe.sent network address timeout s = [] ∧ ∃ reason,
          (Probe.http network address timeout).check s = (.now (.unreachable reason), s)) ∧
        ∀ w : Scenario σ, w.probe = Probe.http network address timeout → 0 < w.settings.tick →
          w.settings.maxWait = none → w.token = .fresh →
          Wait.StaysRunning w.supervisor w.service → w.GoesOn) := by
  refine ⟨flaw?_with_address h address, ?_, ?_, fun network timeout =>
    ⟨?_, fun hdead => ⟨?_, ?_⟩⟩⟩
  · constructor
    · rintro ⟨url, hparse⟩
      obtain ⟨server, way, hnames, -⟩ := Probe.parse_urlText_iff.mp hparse
      exact ⟨server, way, hnames⟩
    · rintro ⟨server, way, hnames⟩
      exact ⟨_, Probe.parse_urlText_iff.mpr ⟨server, way, hnames, rfl⟩⟩
  · constructor
    · rintro ⟨url, hparse, htarget⟩
      obtain ⟨server, way, hnames, rfl⟩ := Probe.parse_urlText_iff.mp hparse
      exact ⟨server, way, hnames, (server.target_url_iff _ _).mp htarget⟩
    · rintro ⟨server, way, hnames, hhome⟩
      exact ⟨_, Probe.parse_urlText_iff.mpr ⟨server, way, hnames, rfl⟩,
        (server.target_url_iff _ _).mpr hhome⟩
  · intro server way hnames hsendable s
    obtain ⟨more, hsent, hmore⟩ := Probe.exists_sent network timeout s hnames hsendable
    exact ⟨_, more, hsent, rfl, rfl, rfl, server.target_url_iff false (way ++ ['/']), hmore⟩
  · exact fun s => ⟨Probe.sent_of_isDead network timeout s hdead,
      Probe.check_of_isDead network timeout s hdead⟩
  · intro w hprobe htick hlimit htoken hrunning
    exact w.goesOn_of_unreachable htick hlimit htoken hrunning
      (hprobe ▸ Probe.staysUnreachable_of_isDead network timeout hdead)

/-! ## Addresses that should be a host and a port -/

/-- A node of this machine, but for the address of its readiness endpoint. -/
def atAddress (address : String) : Config :=
  ⟨"mysql", "state.txt", address, .default, ⟨"127.0.0.1", 2822, "vcap", "secret"⟩⟩

/-- A server on the own machine. -/
def localServer : Url.Server where
  credentials := none
  hostText := "127.0.0.1".toList
  host := .ipv4 0x7F000001
  port := some "8114".toList
  credentials_go_on := by simp
  host_reads := by decide +kernel
  port_digits := by simp
  port_le := by simp [Nat.ofDigitChars]

/-- **A way that leads down and up again is home.** -/
theorem roundabout_asked :
    (atAddress "127.0.0.1:8114").flaw? = none ∧ (atAddress "127.0.0.1:8114/x/..").flaw? = none ∧
    ∃ url, Url.parse (Probe.urlText "127.0.0.1:8114/x/..") = .ok url ∧ url.target = "/" := by
  have hplain : (atAddress "127.0.0.1:8114").flaw? = none := by decide +kernel
  obtain ⟨haccepted, -, hasked, -⟩ := asks_front_page_iff hplain "127.0.0.1:8114/x/.."
  have hnames : Probe.Names "127.0.0.1:8114/x/.." localServer "/x/..".toList :=
    ⟨by decide +kernel, by decide +kernel⟩
  have hhome : Url.LeadsHome ("/x/..".toList ++ ['/']) :=
    ⟨"/x/../".toList, [], by decide +kernel, ⟨by simp, .inl rfl⟩, by decide +kernel⟩
  exact ⟨hplain, haccepted.mpr (by decide +kernel), hasked.mpr ⟨_, _, hnames, hhome⟩⟩

/-- What a monit reports whose service runs. -/
def runningReport : Http.Response :=
  ⟨200, [], Text.Utf8.encode "Process 'mysql'\n  status  Running\n".toList⟩

/-- A network where every answer is this report. -/
def runningMonit : Network Unit where
  exchange _ _ s := (.response runningReport, s)

/-- A daemon that reports a running service, whenever it is asked. -/
theorem staysRunning_runningMonit :
    Wait.StaysRunning (Monit.supervisor runningMonit (atAddress "").monit) "mysql" := by
  intro world
  have hplain : (atAddress "").monit.HasPlainHost := by decide +kernel
  have hroot : (atAddress "").monit.root
      = .ok ⟨false, [], [], .ipv4 0x7F000001, some 2822, [[]], none, none⟩ := by decide +kernel
  have hdirect : ∀ request, runningMonit.IsDirect request := by
    rintro request timeout s r hr
    cases hr
    rfl
  have hreported : Monit.reported "mysql" (.ok runningReport) = .ok .running := by decide +kernel
  have hsend := Monit.send_of_isDirect hplain hroot
    (hdirect (Monit.requestAt _ "_status" .get _)) (by decide +kernel) world
  rw [Monit.status_eq, hsend]
  exact ⟨hreported, rfl⟩

/-- **Addresses are accepted that are no host and port**: a node whose port is out of range is
awaited for ever, and one whose address has a path is asked for another page. -/
theorem misread_accepted :
    (¬ ∀ c : Config, c.flaw? = none →
      ∃ url, Url.parse (Probe.urlText c.address) = .ok url ∧ url.target = "/") ∧
    ((atAddress "127.0.0.1:99999").flaw? = none ∧
      Url.parse (Probe.urlText "127.0.0.1:99999") = .error .badPort ∧
      ((Orchestrator.ofConfig runningMonit (atAddress "127.0.0.1:99999")).waiting
        ⟨0, .fresh, .empty [], (), []⟩).GoesOn) ∧
    (atAddress "127.0.0.1:8114/ready").flaw? = none ∧ ∃ first,
      Probe.sent runningMonit "127.0.0.1:8114/ready" 1000 () = [first] ∧
        first.url.target = "/ready/" := by
  have hrange : (atAddress "127.0.0.1:99999").flaw? = none := by decide +kernel
  have hport : Url.parse (Probe.urlText "127.0.0.1:99999") = .error .badPort := by decide +kernel
  let page : Url := ⟨false, [], [], .ipv4 0x7F000001, some 8114, ["ready".toList, []], none, none⟩
  have hpage : Url.parse (Probe.urlText "127.0.0.1:8114/ready") = .ok page := by decide +kernel
  refine ⟨fun hall => ?_, ⟨hrange, hport, ?_⟩, by decide +kernel, .get page, ?_, by decide +kernel⟩
  · obtain ⟨url, hparse, -⟩ := hall _ hrange
    cases hport.symm.trans hparse
  · have htick : 0 < (atAddress "127.0.0.1:99999").waitSettings.tick := by decide
    have hprobe := Probe.staysUnreachable_of_isDead runningMonit
      Readiness.default.probeTimeout.millis (Probe.isDead_of_not_parsed hport)
    exact Scenario.goesOn_of_unreachable _ htick rfl rfl staysRunning_runningMonit hprobe
  · rw [Probe.sent, Probe.check_of_parsed _ _ _ hpage]
    rfl

end Config

end Sidecar
