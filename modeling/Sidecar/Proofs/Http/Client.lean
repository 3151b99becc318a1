import Sidecar.Http.Client

/-!
# Proofs/Http/Client — what a request brings, and what is sent for it

A request that is not redirected is sent once, and what it brings is what its server answers
(`send_of_isDirect`).  **Redirects of a GET are GETs**: whatever the servers answer to it, no form
is posted (`posted_send_get`).
-/

namespace Sidecar.Http

variable {σ : Type} {network : Network σ} {request : Request} {timeout : Nat}

/-! ## Requests that are not redirected -/

/-- The network answers a request itself: **no response to it is a redirect.** -/
def Network.IsDirect [Resolver] (network : Network σ) (request : Request) : Prop :=
  ∀ timeout s r, (network.exchange timeout request s).1 = .response r → redirect? request r = .none

/-- A network whose servers accept every request. -/
def Network.accepting : Network Unit where
  exchange _ _ s := (.response ⟨200, [], []⟩, s)

/-- A network that accepts everything redirects nothing. -/
theorem Network.isDirect_accepting [Resolver] (request : Request) : accepting.IsDirect request := by
  rintro timeout s r hr
  cases hr
  rfl

/-- What the caller gets of an answer from the server at `url`. -/
def Answer.call (timeout : Nat) (url : Url) : Answer → Call (Except Failure Response)
  | .response r => .now (.ok r)
  | .fault f => .now (.error (.notAnswered url f))
  | .silence => .after timeout (.error (.notAnswered url .timedOut))

/-- **What cannot be sent brings an error**, and reaches no server. -/
theorem send_of_not_isSendable [Resolver] (h : request.url.isSendable = false) (s : σ) :
    send network timeout request s = (.now (.error (.notSendable request.url)), s) := by
  rw [send, follow, h]
  rfl

/-- **A request that is not redirected is one exchange.** -/
theorem send_of_isDirect [Resolver] (hdirect : network.IsDirect request)
    (hsendable : request.url.isSendable) (s : σ) :
    send network timeout request s =
      ((network.exchange timeout request s).1.call timeout request.url,
        (network.exchange timeout request s).2) := by
  rw [send, follow, hsendable]
  rcases hexchange : network.exchange timeout request s with ⟨answer, s'⟩
  cases answer with
  | silence | fault f => rfl
  | response r =>
    have hend : redirect? request r = none := hdirect timeout s r (by rw [hexchange])
    simp only [hend]
    rfl

/-! ## What is sent -/

/-- The network that notes every request, the latest last. -/
def Network.logged (network : Network σ) : Network (σ × List Request) where
  exchange timeout request s :=
    ((network.exchange timeout request s.1).1,
      (network.exchange timeout request s.1).2, s.2 ++ [request])

/-- The requests that post a form. -/
def posted (log : List Request) : List Request := log.filter (·.method = .post)

/-- **An exchange notes its request.** -/
theorem log_of_exchange {s s' : σ × List Request} {answer : Answer}
    (h : network.logged.exchange timeout request s = (answer, s')) : s'.2 = s.2 ++ [request] :=
  (congrArg (·.2.2) h).symm

theorem posted_exchange_get (hget : request.method = .get) {s s' : σ × List Request}
    {answer : Answer} (h : network.logged.exchange timeout request s = (answer, s')) :
    posted s'.2 = posted s.2 := by
  simp [log_of_exchange h, posted, hget]

/-- An address is rewritten from an address. -/
theorem Destination.exists_of_map_eq_address {α β : Type} {f : α → β} {place : Destination α}
    {b : β} (h : .address b = place.map f) : ∃ a, b = f a := by
  cases place with
  | address a => exact ⟨a, Destination.address.inj h⟩
  | foreign text => cases h

variable [Resolver]

theorem Network.IsDirect.logged (h : network.IsDirect request) : network.logged.IsDirect request :=
  fun timeout s r hr => h timeout s.1 r hr

/-- **A redirect asks for a page, or for the request once more.** -/
theorem redirect?_cases {r : Response} {destination : Destination Request}
    (h : redirect? request r = some destination) : ∃ place : Destination Url,
      r.status ∈ [301, 302, 303] ∧ destination = place.map request.pageAt ∨
        r.status ∈ [307, 308] ∧ destination = place.map request.repeatedAt := by
  simp only [redirect?, Option.bind_eq_bind, Option.bind_eq_some_iff] at h
  obtain ⟨_, -, place, -, h⟩ := h
  split at h
  · exact ⟨place, .inl ⟨List.contains_iff_mem.mp ‹_›, (Option.some.inj h).symm⟩⟩
  · split at h
    · exact ⟨place, .inr ⟨List.contains_iff_mem.mp ‹_›, (Option.some.inj h).symm⟩⟩
    · cases h

/-- **The request that a redirect asks for is one for a page, or the request at another place.** -/
theorem next_of_redirect? {r : Response} {next : Request}
    (h : redirect? request r = some (.address next)) : ∃ url,
      r.status ∈ [301, 302, 303] ∧ next = request.pageAt url ∨
        r.status ∈ [307, 308] ∧ next = request.repeatedAt url := by
  obtain ⟨place, ⟨hstatus, hplace⟩ | ⟨hstatus, hplace⟩⟩ := redirect?_cases h
  · obtain ⟨url, hnext⟩ := Destination.exists_of_map_eq_address hplace
    exact ⟨url, .inl ⟨hstatus, hnext⟩⟩
  · obtain ⟨url, hnext⟩ := Destination.exists_of_map_eq_address hplace
    exact ⟨url, .inr ⟨hstatus, hnext⟩⟩

/-- **A GET is redirected to a GET.** -/
theorem method_of_redirect? {r : Response} {next : Request}
    (h : redirect? request r = some (.address next)) (hget : request.method = .get) :
    next.method = .get := by
  obtain ⟨url, ⟨-, rfl⟩ | ⟨-, rfl⟩⟩ := next_of_redirect? h
  · rfl
  · exact hget

/-- **Redirects of a page that is read post nothing.** -/
theorem posted_follow_get (followed : Nat) (hget : request.method = .get)
    (s : σ × List Request) :
    posted (follow network.logged timeout followed request s).2.2 = posted s.2 := by
  fun_induction follow network.logged timeout followed request s with
  | case1 => rfl
  | case2 followed request s _ s' hexchange => exact posted_exchange_get hget hexchange
  | case3 followed request s _ f s' hexchange => exact posted_exchange_get hget hexchange
  | case4 followed request s _ r s' hexchange => exact posted_exchange_get hget hexchange
  | case5 request s _ r s' hexchange => exact posted_exchange_get hget hexchange
  | case6 request s _ r s' hexchange => exact posted_exchange_get hget hexchange
  | case7 request s _ r s' hexchange followed next hnext ih =>
    rw [ih (method_of_redirect? hnext hget)]
    exact posted_exchange_get hget hexchange

/-- **A GET posts nothing, wherever it is redirected to.** -/
theorem posted_send_get (hget : request.method = .get) (s : σ × List Request) :
    posted (send network.logged timeout request s).2.2 = posted s.2 :=
  posted_follow_get redirectLimit hget s

/-- **A post that is not redirected is sent once**, if its address can be sent to at all. -/
theorem posted_send_post (hpost : request.method = .post) (hdirect : network.IsDirect request)
    (s : σ × List Request) :
    posted (send network.logged timeout request s).2.2 =
      posted s.2 ++ if request.url.isSendable then [request] else [] := by
  split
  · rename_i hsendable
    rw [send_of_isDirect hdirect.logged hsendable]
    simp [Network.logged, posted, hpost]
  · rename_i hnot
    rw [send_of_not_isSendable (Bool.eq_false_iff.mpr hnot), List.append_nil]

end Sidecar.Http
