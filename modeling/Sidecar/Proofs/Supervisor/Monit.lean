import Sidecar.Supervisor.Monit
import Sidecar.Proofs.Http.Client
import Sidecar.Proofs.Url.Page

/-!
# Proofs/Supervisor/Monit — the requests that drive a monit daemon

Every address that is asked is a page of the daemon's (`parse_page`), and it is the page of the
service's name **as an address is read**, not as it is written: `startPost?` is what a start posts.
-/

namespace Sidecar.Monit

open Http (Network Request posted)

/-! ## Pages -/

/-- A host that is an authority, and not a text with one in it. -/
def Account.HasPlainHost (a : Account) : Prop :=
  ∀ c ∈ a.host.toList, Url.endsAuthority c = false ∧ Url.isIgnored c = false

instance (a : Account) : Decidable a.HasPlainHost :=
  List.decidableBAll (fun c => Url.endsAuthority c = false ∧ Url.isIgnored c = false) a.host.toList

/-- The address of the daemon's front page. -/
def Account.root [Url.Idna] (a : Account) : Except Url.Fault Url := Url.parse (baseUrl a ++ "/")

/-- Whether a request can be sent for a page of the daemon's. -/
def Account.canAsk [Url.Idna] (a : Account) (page : String) : Bool :=
  match a.root with
  | .error _ => false
  | .ok root => (root.withPage page.toList).withoutCredentials.isSendable

variable {a : Account}

/-- **A plain host with a port is an authority.** -/
theorem isAuthority (h : a.HasPlainHost) :
    Url.IsAuthority (a.host.toList ++ ':' :: Nat.toDigits 10 a.port) := by
  have hcolon : Url.endsAuthority ':' = false ∧ Url.isIgnored ':' = false := by decide
  have hdigit : ∀ c : Char, c.isDigit → Url.endsAuthority c = false ∧ Url.isIgnored c = false := by
    intro c hc
    have hne : ∀ d : Char, d.isDigit = false → c ≠ d := by
      rintro d hd rfl
      rw [hd] at hc
      cases hc
    simp [Url.endsAuthority, Url.isSlash, Url.isIgnored, hne]
  have hplain : ∀ c ∈ a.host.toList ++ ':' :: Nat.toDigits 10 a.port,
      Url.endsAuthority c = false ∧ Url.isIgnored c = false := by
    intro c hc
    rcases List.mem_append.mp hc with hhost | hport
    · exact h c hhost
    · rcases List.mem_cons.mp hport with rfl | hport
      · exact hcolon
      · exact hdigit c (Nat.isDigit_of_mem_toDigits (by decide) (by decide) hport)
  exact ⟨by simp, fun c hc => (hplain c hc).1, fun c hc => (hplain c hc).2⟩

/-- **Every page is the daemon's.** -/
theorem parse_page [Url.Idna] (h : a.HasPlainHost) (page : String) :
    Url.parse s!"{baseUrl a}/{page}" = a.root.map (·.withPage page.toList) := by
  have hbase : (baseUrl a).toList
      = "http://".toList ++ (a.host.toList ++ ':' :: Nat.toDigits 10 a.port) := by
    change ("http://" ++ a.host ++ ":" ++ toString a.port).toList = _
    simp
  exact Url.parse_page hbase (isAuthority h) page

/-- The request that `build` makes of a page of the daemon at `root`. -/
def requestAt (a : Account) (page : String) (build : Url → Request) (root : Url) : Request :=
  (build (root.withPage page.toList)).withCredentials a.username a.password

/-- A form is posted to the page's address, **with the credentials taken out of it.** -/
theorem url_requestAt_postForm (a : Account) (page field value : String) (root : Url) :
    (requestAt a page (.postForm · field value) root).url
      = (root.withPage page.toList).withoutCredentials := by
  generalize hurl : root.withPage page.toList = url
  rw [requestAt, hurl]
  rfl

/-- **Whatever is posted is posted to the page itself.** -/
theorem target_requestAt_postForm (a : Account) (page field value : String) (root : Url) :
    (requestAt a page (.postForm · field value) root).url.target
      = (root.withPage page.toList).target := by
  rw [url_requestAt_postForm]
  rfl

/-- A page is asked for at its address, **with the credentials taken out of it.** -/
theorem url_requestAt_get (a : Account) (page : String) (root : Url) :
    (requestAt a page .get root).url = (root.withPage page.toList).withoutCredentials := by
  generalize hurl : root.withPage page.toList = url
  rw [requestAt, hurl]
  rfl

/-- **Whatever is asked for is the page itself.** -/
theorem target_requestAt_get (a : Account) (page : String) (root : Url) :
    (requestAt a page .get root).url.target = (root.withPage page.toList).target := by
  rw [url_requestAt_get]
  rfl

/-! ## What is sent -/

/-- The request that is sent for a page, if the page can be sent to. -/
def request? [Url.Idna] (a : Account) (page : String) (build : Url → Request) : Option Request :=
  match a.root with
  | .error _ => none
  | .ok root =>
    if (requestAt a page build root).url.isSendable then some (requestAt a page build root)
    else none

/-- The request that a start posts. -/
def startPost? [Url.Idna] (a : Account) (service : String) : Option Request :=
  request? a service (.postForm · "action" Action.start.verb)

/-- **A start posts to the service's page**, in the form in which an address is read. -/
theorem mem_startPost?_iff [Url.Idna] {service : String} {request : Request} :
    request ∈ startPost? a service ↔ ∃ root, a.root = .ok root ∧
      (root.withPage service.toList).withoutCredentials.isSendable ∧
      requestAt a service (.postForm · "action" Action.start.verb) root = request := by
  rw [startPost?, request?]
  cases a.root with
  | error fault => simp
  | ok root =>
    simp only [Except.ok.injEq, exists_eq_left', ← url_requestAt_postForm a service "action"
      Action.start.verb root]
    split <;> simp [*]

variable [Url.Idna] [Http.Resolver] {σ : Type} {network : Network σ}

/-- An action tells what its form brings. -/
theorem act_eq (network : Network σ) (a : Account) (action : Action) (service : String) (s : σ) :
    act network a action service s =
      ((send network a service (.postForm · "action" action.verb) s).1.map
          (acknowledged action service),
        (send network a service (.postForm · "action" action.verb) s).2) := by
  rw [act]

/-- A query tells what the report brings. -/
theorem status_eq (network : Network σ) (a : Account) (service : String) (s : σ) :
    (supervisor network a).status service s =
      ((send network a "_status" .get s).1.map (reported service),
        (send network a "_status" .get s).2) := by
  rw [supervisor]

/-- **Whatever is sent goes to a page of the daemon**, if the daemon has an address. -/
theorem send_eq (h : a.HasPlainHost) (page : String) (build : Url → Request) (s : σ) :
    send network a page build s = match a.root with
      | .error fault => (.now (.error (.notBuilt fault)), s)
      | .ok root => Http.send network timeout (requestAt a page build root) s := by
  rw [send, parse_page h]
  cases a.root <;> rfl

/-- **A request that is not redirected is one exchange with the daemon.** -/
theorem send_of_isDirect (h : a.HasPlainHost) {root : Url} (hroot : a.root = .ok root)
    {page : String} {build : Url → Request}
    (hdirect : network.IsDirect (requestAt a page build root))
    (hsendable : (requestAt a page build root).url.isSendable) (s : σ) :
    send network a page build s =
      ((network.exchange timeout (requestAt a page build root) s).1.call timeout
          (requestAt a page build root).url,
        (network.exchange timeout (requestAt a page build root) s).2) := by
  rw [send_eq h, hroot]
  exact Http.send_of_isDirect hdirect hsendable s

/-- **Nothing is posted for a page that is only read.** -/
theorem posted_send_get (h : a.HasPlainHost) {build : Url → Request}
    (hget : ∀ url, (build url).method = .get) (page : String) (s : σ × List Request) :
    posted (send network.logged a page build s).2.2 = posted s.2 := by
  rw [send_eq h]
  cases a.root with
  | error fault => rfl
  | ok root =>
    have hmethod : (requestAt a page build root).method = .get := hget _
    exact Http.posted_send_get hmethod s

/-- **What is posted is the form for the page**, once, where no redirect repeats it. -/
theorem posted_send_post (h : a.HasPlainHost) {build : Url → Request}
    (hpost : ∀ url, (build url).method = .post)
    (hdirect : ∀ request, request.method = .post → network.IsDirect request) (page : String)
    (s : σ × List Request) : posted (send network.logged a page build s).2.2
      = posted s.2 ++ (request? a page build).toList := by
  rw [send_eq h, request?]
  cases a.root with
  | error fault => exact (List.append_nil _).symm
  | ok root =>
    have hmethod : (requestAt a page build root).method = .post := hpost _
    dsimp only
    rw [Http.posted_send_post hmethod (hdirect _ hmethod)]
    split <;> rfl

end Sidecar.Monit
