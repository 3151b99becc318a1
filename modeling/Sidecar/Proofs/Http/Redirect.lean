import Sidecar.Proofs.Http.Client

/-!
# Proofs/Http/Redirect — where redirects lead

`own` is what the server brings to a request itself.  If that is a redirect, what is brought in the
end is the own result of another request: of the first one that is not redirected any more
(`send_of_leadsTo`), **unless there are more redirects than are followed, or one leads out of the
`http` family** (`send_of_broken_off`).
-/

namespace Sidecar.Http

variable {σ : Type} (network : Network σ) (timeout : Nat)

/-- What the server brings to a request itself, **redirect or not.** -/
def own (request : Request) (s : σ) : Except Failure Response :=
  if request.url.isSendable then
    ((network.exchange timeout request s).1.call timeout request.url).answer
  else .error (.notSendable request.url)

/-- The world once the server has been asked. -/
def worldAfter (request : Request) (s : σ) : σ := (network.exchange timeout request s).2

variable {network timeout} {request : Request} {s : σ}

/-! ## The own result -/

/-- **A request that cannot be sent fails.** -/
theorem own_of_not_isSendable (h : request.url.isSendable = false) :
    own network timeout request s = .error (.notSendable request.url) := by
  rw [own, h, if_neg Bool.false_ne_true]

/-- The own result of a request that is sent is its answer. -/
theorem own_of_isSendable (h : request.url.isSendable) {answer : Answer} {s' : σ}
    (hexchange : network.exchange timeout request s = (answer, s')) :
    own network timeout request s = (answer.call timeout request.url).answer := by
  rw [own, if_pos h, hexchange]

/-- **A server that answers has been asked.** -/
theorem exchange_of_own_ok {r : Response} (h : own network timeout request s = .ok r) :
    request.url.isSendable ∧
      network.exchange timeout request s = (.response r, worldAfter network timeout request s) := by
  rcases hexchange : network.exchange timeout request s with ⟨answer, s'⟩
  cases hsendable : request.url.isSendable with
  | false => cases (own_of_not_isSendable hsendable).symm.trans h
  | true =>
    have hanswer := (own_of_isSendable hsendable hexchange).symm.trans h
    cases answer with
    | response r' => simp [← Except.ok.inj hanswer, worldAfter, hexchange]
    | fault _ | silence => cases hanswer

variable [Resolver]

/-- **Only five statuses redirect.** -/
theorem status_of_redirect? {r : Response} {destination : Destination Request}
    (h : redirect? request r = some destination) : r.status ∈ [301, 302, 303, 307, 308] := by
  obtain ⟨_, ⟨hstatus, -⟩ | ⟨hstatus, -⟩⟩ := redirect?_cases h
  · exact List.mem_append_left [307, 308] hstatus
  · exact List.mem_append_right [301, 302, 303] hstatus

/-! ## Redirects -/

variable (network timeout)

/-- The request's own answer redirects it. -/
def Redirects (request : Request) (s : σ) (destination : Destination Request) : Prop :=
  ∃ r, own network timeout request s = .ok r ∧ redirect? request r = some destination

/-- The request's own answer asks for the `next` one. -/
def AsksFor (request : Request) (s : σ) (next : Request) : Prop :=
  Redirects network timeout request s (.address next)

/-- The request's own answer leads out of the `http` family. -/
def LeadsAway (request : Request) (s : σ) (text : String) : Prop :=
  Redirects network timeout request s (.foreign text)

/-- The request's own answer is a redirect: **it names a place, which may be out of reach.** -/
def IsRedirected (request : Request) (s : σ) : Prop :=
  ∃ destination, Redirects network timeout request s destination

/-- So many redirects lead from a request to another one. -/
inductive LeadsTo : Nat → Request → σ → Request → σ → Prop
  | self {request : Request} {s : σ} : LeadsTo 0 request s request s
  | redirect {n : Nat} {request next last : Request} {s t : σ} :
      AsksFor network timeout request s next →
      LeadsTo n next (worldAfter network timeout request s) last t →
      LeadsTo (n + 1) request s last t

/-- The redirects from a request cannot be followed to their end: **after `followed` of them there
is one more, or one leads away.** -/
def BreaksOff (followed n : Nat) (last : Request) (t : σ) : Prop :=
  IsRedirected network timeout last t ∧ n = followed ∨
    n < followed ∧ ∃ text, LeadsAway network timeout last t text

variable {network timeout} {last : Request} {t : σ} {n followed : Nat}

/-- **A success redirects nowhere.** -/
theorem not_isRedirected_of_success {r : Response} (hown : own network timeout request s = .ok r)
    (hsuccess : 200 ≤ r.status ∧ r.status < 300) : ¬ IsRedirected network timeout request s := by
  rintro ⟨_, r', hr', hnext⟩
  obtain rfl := Except.ok.inj (hown.symm.trans hr')
  have hstatus := status_of_redirect? hnext
  simp only [List.mem_cons, List.not_mem_nil, or_false] at hstatus
  omega

/-! ## Following -/

/-- **A request that is not redirected brings its own result.** -/
theorem follow_of_not_isRedirected (h : ¬ IsRedirected network timeout request s) :
    (follow network timeout followed request s).1.answer = own network timeout request s := by
  cases hsendable : request.url.isSendable with
  | false =>
    rw [own_of_not_isSendable hsendable, follow, hsendable]
    rfl
  | true =>
    rcases hexchange : network.exchange timeout request s with ⟨answer, s'⟩
    have hown := own_of_isSendable hsendable hexchange
    rw [hown, follow, hsendable, hexchange]
    cases answer with
    | fault f | silence => rfl
    | response r =>
      have hnone : redirect? request r = none :=
        Option.eq_none_iff_forall_ne_some.mpr fun destination hnext =>
          h ⟨destination, r, hown, hnext⟩
      simp only [hnone]
      rfl

/-- **A request that is redirected to another one is followed there.** -/
theorem follow_of_asksFor {next : Request} (h : AsksFor network timeout request s next) :
    follow network timeout (followed + 1) request s
      = follow network timeout followed next (worldAfter network timeout request s) := by
  obtain ⟨r, hown, hnext⟩ := h
  obtain ⟨hsendable, hexchange⟩ := exchange_of_own_ok hown
  rw [follow, hsendable, hexchange]
  simp only [hnext]
  rfl

/-- **A redirect beyond the limit is a failure.** -/
theorem follow_zero_of_isRedirected (h : IsRedirected network timeout request s) :
    (follow network timeout 0 request s).1.answer = .error (.tooManyRedirects request.url) := by
  obtain ⟨destination, r, hown, hnext⟩ := h
  obtain ⟨hsendable, hexchange⟩ := exchange_of_own_ok hown
  rw [follow, hsendable, hexchange]
  simp only [hnext]
  rfl

/-- **A redirect that leads away is a failure.** -/
theorem follow_of_leadsAway {text : String} (h : LeadsAway network timeout request s text) :
    (follow network timeout (followed + 1) request s).1.answer = .error (.otherScheme text) := by
  obtain ⟨r, hown, hnext⟩ := h
  obtain ⟨hsendable, hexchange⟩ := exchange_of_own_ok hown
  rw [follow, hsendable, hexchange]
  simp only [hnext]
  rfl

/-- **Following redirects is starting from where they lead.** -/
theorem LeadsTo.follow_eq (h : LeadsTo network timeout n request s last t) :
    follow network timeout (followed + n) request s = follow network timeout followed last t := by
  induction h with
  | self => rfl
  | redirect hasks _ ih => rw [← Nat.add_assoc, follow_of_asksFor hasks, ih]

/-- **A GET leads to GETs alone.** -/
theorem LeadsTo.method_eq_get (h : LeadsTo network timeout n request s last t)
    (hget : request.method = .get) : last.method = .get := by
  induction h with
  | self => exact hget
  | redirect hasks _ ih =>
    obtain ⟨_, -, hnext⟩ := hasks
    exact ih (method_of_redirect? hnext hget)

/-- **Redirects come to an end, or break off.** -/
theorem exists_leadsTo (network : Network σ) (timeout followed : Nat) (request : Request) (s : σ) :
    ∃ n last t, LeadsTo network timeout n request s last t ∧ n ≤ followed ∧
      (IsRedirected network timeout last t → BreaksOff network timeout followed n last t) := by
  induction followed generalizing request s with
  | zero => exact ⟨0, request, s, .self, Nat.le_refl _, fun h => .inl ⟨h, rfl⟩⟩
  | succ followed ih =>
    by_cases h : IsRedirected network timeout request s
    · obtain ⟨next | text, hnext⟩ := h
      · obtain ⟨n, last, t, hleads, hle, hlast⟩ := ih next (worldAfter network timeout request s)
        refine ⟨n + 1, last, t, .redirect hnext hleads, by omega, fun h => ?_⟩
        exact (hlast h).imp (fun ⟨h, hn⟩ => ⟨h, by rw [hn]⟩) fun ⟨hlt, haway⟩ => ⟨by omega, haway⟩
      · exact ⟨0, request, s, .self, Nat.zero_le _, fun _ =>
          .inr ⟨Nat.succ_pos followed, text, hnext⟩⟩
    · exact ⟨0, request, s, .self, Nat.zero_le _, fun hredirected => absurd hredirected h⟩

/-! ## Sending -/

/-- **What is brought is the own result of the request that redirects lead to.** -/
theorem send_of_leadsTo (h : LeadsTo network timeout n request s last t) (hle : n ≤ redirectLimit)
    (hlast : ¬ IsRedirected network timeout last t) :
    (send network timeout request s).1.answer = own network timeout last t := by
  obtain ⟨spare, hspare⟩ := Nat.exists_eq_add_of_le' hle
  rw [send, hspare, h.follow_eq, follow_of_not_isRedirected hlast]

/-- **Redirects that break off bring nothing.** -/
theorem send_of_broken_off (h : LeadsTo network timeout n request s last t)
    (hlast : BreaksOff network timeout redirectLimit n last t) :
    ∃ failure, (send network timeout request s).1.answer = .error failure := by
  rw [send]
  rcases hlast with ⟨hlast, rfl⟩ | ⟨hlt, text, haway⟩
  · have hfollow : follow network timeout (0 + redirectLimit) request s
        = follow network timeout 0 last t := h.follow_eq
    rw [Nat.zero_add] at hfollow
    exact ⟨_, by rw [hfollow, follow_zero_of_isRedirected hlast]⟩
  · obtain ⟨spare, hspare⟩ := Nat.exists_eq_add_of_lt hlt
    have hlimit : redirectLimit = spare + 1 + n := by omega
    exact ⟨_, by rw [hlimit, h.follow_eq, follow_of_leadsAway haway]⟩

/-! ## The requests that are sent -/

/-- **Requests are only added to the log.** -/
theorem exists_log_follow (network : Network σ) (timeout followed : Nat) (request : Request)
    (s : σ × List Request) :
    ∃ more, (follow network.logged timeout followed request s).2.2 = s.2 ++ more := by
  fun_induction follow network.logged timeout followed request s with
  | case1 => exact ⟨[], (List.append_nil _).symm⟩
  | case2 followed request s _ s' hexchange => exact ⟨[request], log_of_exchange hexchange⟩
  | case3 followed request s _ f s' hexchange => exact ⟨[request], log_of_exchange hexchange⟩
  | case4 followed request s _ r s' hexchange => exact ⟨[request], log_of_exchange hexchange⟩
  | case5 request s _ r s' hexchange => exact ⟨[request], log_of_exchange hexchange⟩
  | case6 request s _ r s' hexchange => exact ⟨[request], log_of_exchange hexchange⟩
  | case7 request s _ r s' hexchange followed next _ ih =>
    obtain ⟨more, hmore⟩ := ih
    exact ⟨request :: more, by rw [hmore, log_of_exchange hexchange, List.append_assoc]; rfl⟩

/-- **The request itself is sent first**, and nothing after it unless it is redirected. -/
theorem exists_log_send (hsendable : request.url.isSendable) (timeout : Nat) (s : σ)
    (log : List Request) :
    ∃ more, (send network.logged timeout request (s, log)).2.2 = log ++ request :: more ∧
      (¬ IsRedirected network timeout request s → more = []) := by
  rcases hexchange : network.exchange timeout request s with ⟨answer, s'⟩
  have hlogged : network.logged.exchange timeout request (s, log)
      = (answer, s', log ++ [request]) := by
    simp [Network.logged, hexchange]
  rw [send]
  generalize redirectLimit = followed
  rw [follow, hsendable, hlogged]
  cases answer with
  | silence | fault f => exact ⟨[], rfl, fun _ => rfl⟩
  | response r =>
    cases hnext : redirect? request r with
    | none =>
      simp only [hnext]
      exact ⟨[], rfl, fun _ => rfl⟩
    | some destination =>
      have hredirected : IsRedirected network timeout request s :=
        ⟨destination, r, own_of_isSendable hsendable hexchange, hnext⟩
      simp only [hnext]
      rcases followed with _ | followed
      · exact ⟨[], rfl, fun _ => rfl⟩
      · cases destination with
        | foreign text => exact ⟨[], rfl, fun _ => rfl⟩
        | address next =>
          obtain ⟨more, hmore⟩ :=
            exists_log_follow network timeout followed next (s', log ++ [request])
          rw [List.append_assoc] at hmore
          exact ⟨more, hmore, fun hnot => absurd hredirected hnot⟩

end Sidecar.Http
