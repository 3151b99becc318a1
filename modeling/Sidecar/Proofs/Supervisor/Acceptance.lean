import Sidecar.Proofs.Http.Form
import Sidecar.Proofs.Supervisor.Monit

/-!
# Proofs/Supervisor/Acceptance — whose answer says that an action is done

An action is a form that is posted to the service's page, and what is told of it is what an answer
says (`Acknowledges`): done for a success, a rejection with any other status, a failure for want of
an answer.  **The answer is that of the last server that redirects lead to**
(`done_by_last_answer`), and so the daemon's own whenever that is no redirect.  But that last server
has been posted the form only if every redirect repeats it: a daemon that accepts no form may be
told of as if it had (`redirected_start_done`).
-/

namespace Sidecar.Monit

open Http (BreaksOff Failure IsRedirected LeadsAway LeadsBy LeadsTo Network Request Response own
  redirectLimit)

/-! ## What is told of an answer -/

/-- What is told of an action is what the result of an exchange says. -/
structure Acknowledges (action : Action) (service : String) (result : Except Failure Response)
    (told : Except SupervisorError Unit) : Prop where
  done_iff : told = .ok () ↔ ∃ r, result = .ok r ∧ 200 ≤ r.status ∧ r.status < 300
  rejected_iff : ∀ status, told = .error (.rejected action service status) ↔
    ∃ r, result = .ok r ∧ r.status = status ∧ ¬ (200 ≤ status ∧ status < 300)
  failed_iff : ∀ failure, told = .error (.request action service failure) ↔
    result = .error failure

theorem isSuccess_iff (status : Nat) :
    Http.isSuccess status = true ↔ 200 ≤ status ∧ status < 300 := by
  rw [Http.isSuccess, beq_iff_eq]
  omega

/-- **What is told of an action acknowledges what was answered.** -/
theorem acknowledges_acknowledged (action : Action) (service : String)
    (result : Except Failure Response) :
    Acknowledges action service result (acknowledged action service result) := by
  cases result with
  | error failure =>
    exact ⟨by simp [acknowledged], by simp [acknowledged], by simp [acknowledged]⟩
  | ok r =>
    by_cases h : Http.isSuccess r.status = true
    · have hrange := (isSuccess_iff r.status).mp h
      refine ⟨by simp [acknowledged, h, hrange], fun status => ?_, by simp [acknowledged, h]⟩
      simp only [acknowledged, h, if_true, reduceCtorEq, Except.ok.injEq, false_iff]
      rintro ⟨_, rfl, rfl, hnot⟩
      exact hnot hrange
    · have hrange := mt (isSuccess_iff r.status).mpr h
      refine ⟨by simpa [acknowledged, h] using hrange, fun status => ?_, by
        simp [acknowledged, h]⟩
      simp only [acknowledged, h, if_false, Except.error.injEq, SupervisorError.rejected.injEq,
        Except.ok.injEq, true_and, Bool.false_eq_true]
      constructor
      · rintro rfl
        exact ⟨r, rfl, rfl, hrange⟩
      · rintro ⟨_, rfl, hstatus, -⟩
        exact hstatus

/-! ## What is posted -/

section Told

variable {σ : Type} (network : Network σ) (a : Account) (action : Action) (service : String)

/-- The text that is read as the address of a service's page. -/
def pageText : String := s!"{baseUrl a}/{service}"

/-- The request that an action makes of a page. -/
def order (url : Url) : Request :=
  (Request.postForm url "action" action.verb).withCredentials a.username a.password

/-- **An action posts a form.** -/
theorem isForm_order (url : Url) : (order a action url).IsForm "action" action.verb :=
  ⟨rfl, rfl, rfl⟩

variable [Url.Idna] [Http.Resolver]

/-- What is told of an action in the end. -/
def told (s : σ) : Except SupervisorError Unit := (act network a action service s).1.answer

variable {network a action service} {url : Url} {last : Request} {s t : σ}

/-- **A page without an address is not asked for.** -/
theorem told_of_not_parsed {fault : Url.Fault} (h : Url.parse (pageText a service) = .error fault) :
    told network a action service s = .error (.request action service (.notBuilt fault)) := by
  have hsend : send network a service (.postForm · "action" action.verb) s
      = (.now (.error (.notBuilt fault)), s) := by
    rw [pageText] at h
    rw [send, h]
  rw [told, act_eq, hsend]
  rfl

/-- What is told is what the result of the exchange says. -/
theorem told_of_parsed (h : Url.parse (pageText a service) = .ok url) :
    told network a action service s =
      acknowledged action service (Http.send network timeout (order a action url) s).1.answer := by
  have hsend : send network a service (.postForm · "action" action.verb) s
      = Http.send network timeout (order a action url) s := by
    rw [pageText] at h
    rw [send, h]
    rfl
  rw [told, act_eq, hsend, Call.answer_map]

/-- **The own result of the request that redirects lead to is told.** -/
theorem acknowledges_of_leadsTo (h : Url.parse (pageText a service) = .ok url) {n : Nat}
    (hleads : LeadsTo network timeout n (order a action url) s last t) (hle : n ≤ redirectLimit)
    (hlast : ¬ IsRedirected network timeout last t) :
    Acknowledges action service (own network timeout last t)
      (told network a action service s) := by
  rw [told_of_parsed h, Http.send_of_leadsTo hleads hle hlast]
  exact acknowledges_acknowledged _ _ _

/-- **Where redirects break off the action has failed.** -/
theorem told_of_broken_off (h : Url.parse (pageText a service) = .ok url) {n : Nat}
    (hleads : LeadsTo network timeout n (order a action url) s last t)
    (hlast : BreaksOff network timeout redirectLimit n last t) :
    ∃ failure, told network a action service s = .error (.request action service failure) := by
  obtain ⟨failure, hfailure⟩ := Http.send_of_broken_off hleads hlast
  rw [told_of_parsed h, hfailure]
  exact ⟨failure, rfl⟩

/-! ## Whose answer is told -/

variable (network a action service s)

/-- **The last request tells**, unless its redirects break off. -/
theorem exists_last_told (h : Url.parse (pageText a service) = .ok url) :
    ∃ n last t, LeadsTo network timeout n (order a action url) s last t ∧ n ≤ redirectLimit ∧
      (¬ IsRedirected network timeout last t ∧
          Acknowledges action service (own network timeout last t)
            (told network a action service s) ∨
        BreaksOff network timeout redirectLimit n last t ∧
          ∃ failure, told network a action service s
            = .error (.request action service failure)) := by
  obtain ⟨n, last, t, hleads, hle, hlast⟩ :=
    Http.exists_leadsTo network timeout redirectLimit (order a action url) s
  refine ⟨n, last, t, hleads, hle, ?_⟩
  by_cases hredirected : IsRedirected network timeout last t
  · exact .inr ⟨hlast hredirected, told_of_broken_off h hleads (hlast hredirected)⟩
  · exact .inl ⟨hredirected, acknowledges_of_leadsTo h hleads hle hredirected⟩

/-- **An action is done if the last server that it is redirected to says so.**  The daemon's own
answer to the form is told if it is no redirect; else that of the request to which at most ten
redirects lead, and the action has failed if the last of ten is a redirect still or an earlier one
leads out of the `http` family.  So it is done just if the last request is answered with a success;
**that request posts the form if every redirect on the way repeats it, with status 307 or 308, and
only then**. -/
theorem done_by_last_answer :
    (∀ fault, Url.parse (pageText a service) = .error fault →
      told network a action service s = .error (.request action service (.notBuilt fault))) ∧
    ∀ url, Url.parse (pageText a service) = .ok url →
      (order a action url).IsForm "action" action.verb ∧
      (¬ IsRedirected network timeout (order a action url) s →
        Acknowledges action service (own network timeout (order a action url) s)
          (told network a action service s)) ∧
      (IsRedirected network timeout (order a action url) s → ∃ r,
        own network timeout (order a action url) s = .ok r ∧
          r.status ∈ [301, 302, 303, 307, 308]) ∧
      (∃ n last t, LeadsTo network timeout n (order a action url) s last t ∧ n ≤ redirectLimit ∧
        (¬ IsRedirected network timeout last t ∧
            Acknowledges action service (own network timeout last t)
              (told network a action service s) ∨
          (IsRedirected network timeout last t ∧ n = redirectLimit ∨
              n < redirectLimit ∧ ∃ text, LeadsAway network timeout last t text) ∧
            ∃ failure, told network a action service s
              = .error (.request action service failure))) ∧
      (told network a action service s = .ok () ↔ ∃ statuses last t r,
        LeadsBy network timeout statuses (order a action url) s last t ∧
          statuses.length ≤ redirectLimit ∧ own network timeout last t = .ok r ∧
          200 ≤ r.status ∧ r.status < 300) ∧
      ∀ statuses last t, LeadsBy network timeout statuses (order a action url) s last t →
        (last.IsForm "action" action.verb ↔ ∀ status ∈ statuses, status ∈ [307, 308]) := by
  refine ⟨fun fault h => told_of_not_parsed h, fun url h => ⟨isForm_order a action url,
    fun hown => acknowledges_of_leadsTo h .self (Nat.zero_le _) hown, ?_,
    exists_last_told network a action service s h,
    ⟨fun hdone => ?_, ?_⟩,
    fun statuses last t hleads => hleads.isForm_iff (isForm_order a action url)⟩⟩
  · rintro ⟨destination, r, hr, hnext⟩
    exact ⟨r, hr, Http.status_of_redirect? hnext⟩
  · obtain ⟨n, last, t, hleads, hle, ⟨-, htells⟩ | ⟨-, failure, hfailure⟩⟩ :=
      exists_last_told network a action service s h
    · obtain ⟨r, hr, hsuccess⟩ := htells.done_iff.mp hdone
      obtain ⟨statuses, rfl, hby⟩ := hleads.exists_statuses
      exact ⟨statuses, last, t, r, hby, hle, hr, hsuccess⟩
    · cases hfailure.symm.trans hdone
  · rintro ⟨statuses, last, t, r, hleads, hle, hr, hsuccess⟩
    exact (acknowledges_of_leadsTo h hleads.leadsTo hle
      (Http.not_isRedirected_of_success hr hsuccess)).done_iff.mpr ⟨r, hr, hsuccess⟩

end Told

/-! ## A daemon that redirects -/

/-- A daemon that answers every form with a redirect to a page. -/
def movedDaemon : Network Unit where
  exchange _ request s :=
    (.response (if request.method = .post then ⟨302, [("Location", "/moved")], []⟩
      else ⟨200, [], []⟩), s)

/-- The account of its user. -/
def vcap : Account := ⟨"127.0.0.1", 2822, "vcap", "secret"⟩

/-- The page of its service. -/
def mysqlPage : Url :=
  ⟨false, [], [], .ipv4 0x7F000001, some 2822, ["mysql".toList], none, none⟩

/-- **A start may be told to be done though the daemon has accepted no form**: its own answer is a
redirect, and what is answered with a success is no form. -/
theorem redirected_start_done :
    Url.parse (pageText vcap "mysql") = .ok mysqlPage ∧
    own movedDaemon timeout (order vcap .start mysqlPage) () =
      .ok ⟨302, [("Location", "/moved")], []⟩ ∧
    (∀ request r, request.IsForm "action" "start" →
      own movedDaemon timeout request () = .ok r → ¬ (200 ≤ r.status ∧ r.status < 300)) ∧
    told movedDaemon vcap .start "mysql" () = .ok () := by
  have hparse : Url.parse (pageText vcap "mysql") = .ok mysqlPage := by decide +kernel
  refine ⟨hparse, by decide +kernel, fun request r hform hown => ?_, ?_⟩
  · obtain ⟨-, hexchange⟩ := Http.exchange_of_own_ok hown
    simp only [movedDaemon, hform.method, if_true, Prod.mk.injEq, Http.Answer.response.injEq]
      at hexchange
    obtain rfl := hexchange.1
    decide
  · rw [told_of_parsed hparse]
    decide +kernel

end Sidecar.Monit
