import Mathlib
import Sidecar.Readiness
import Sidecar.Proofs.Http.Redirect

/-!
# Proofs/Readiness — whose answer makes a node ready

A probe tells what an answer is: 200 is ready, any other status a rejection, no answer at all
unreachable (`Tells`).  **The answer is that of the last server that redirects lead to**
(`told_by_last_answer`), and so the node's own whenever that is no redirect; a redirect of the node
to a page of another server makes it ready (`redirected_ready`).
-/

namespace Sidecar.Probe

open Http (BreaksOff Failure IsRedirected LeadsAway LeadsTo Network Request Response own
  redirectLimit)

/-- An outcome is what the result of an exchange says: **ready for status 200 alone**, rejected with
any other status, unreachable for want of an answer. -/
structure Tells (result : Except Failure Response) (o : ProbeOutcome) : Prop where
  ready_iff : o = .ready ↔ ∃ r, result = .ok r ∧ r.status = 200
  rejected_iff : ∀ status, (∃ reason, o = .rejected status reason) ↔
    ∃ r, result = .ok r ∧ r.status = status ∧ status ≠ 200
  unreachable_iff : (∃ reason, o = .unreachable reason) ↔ ∃ failure, result = .error failure

/-- **What a check finds tells what was answered.** -/
theorem tells_outcome (result : Except Failure Response) : Tells result (outcome result) := by
  cases result with
  | error failure => exact ⟨by simp [outcome], by simp [outcome], by simp [outcome]⟩
  | ok r =>
    by_cases h : r.status = 200
    · refine ⟨by simp [outcome, h], fun status => ?_, by simp [outcome, h]⟩
      simp [outcome, h, eq_comm]
    · refine ⟨by simp [outcome, h], fun status => ?_, by simp [outcome, h]⟩
      simp only [outcome, if_neg h, ProbeOutcome.rejected.injEq, Except.ok.injEq]
      constructor
      · rintro ⟨_, rfl, -⟩
        exact ⟨r, rfl, rfl, h⟩
      · rintro ⟨_, rfl, rfl, -⟩
        exact ⟨_, rfl, rfl⟩

section Told

variable [Url.Idna] [Http.Resolver] {σ : Type} (network : Network σ) (address : String)
  (timeout : Nat)

/-! ## What a probe sends -/

/-- **A text that is no address is not probed.** -/
theorem check_of_not_parsed {fault : Url.Fault} (h : Url.parse (urlText address) = .error fault)
    (s : σ) : (http network address timeout).check s
      = (.now (.unreachable (Failure.notBuilt fault).message), s) := by
  rw [http]
  simp only [h]
  rfl

/-- A check of an address that can be read is one request for its front page. -/
theorem check_of_parsed {url : Url} (h : Url.parse (urlText address) = .ok url) (s : σ) :
    (http network address timeout).check s =
      ((Http.send network timeout (.get url) s).1.map outcome,
        (Http.send network timeout (.get url) s).2) := by
  rw [http]
  simp only [h]

/-- What a probe brings, whatever it has been redirected to. -/
def found (s : σ) : ProbeOutcome := ((http network address timeout).check s).1.answer

variable {network address timeout} {url : Url} {last : Request} {s t : σ} {n : Nat}

/-- **A probe tells the own result of the request that redirects lead to.** -/
theorem tells_of_leadsTo (h : Url.parse (urlText address) = .ok url)
    (hleads : LeadsTo network timeout n (.get url) s last t) (hle : n ≤ redirectLimit)
    (hlast : ¬ IsRedirected network timeout last t) :
    Tells (own network timeout last t) (found network address timeout s) := by
  rw [found, check_of_parsed network address timeout h, Call.answer_map,
    Http.send_of_leadsTo hleads hle hlast]
  exact tells_outcome _

/-- **Where redirects break off the node counts as unreachable.** -/
theorem found_of_broken_off (h : Url.parse (urlText address) = .ok url)
    (hleads : LeadsTo network timeout n (.get url) s last t)
    (hlast : BreaksOff network timeout redirectLimit n last t) :
    ∃ reason, found network address timeout s = .unreachable reason := by
  obtain ⟨failure, hfailure⟩ := Http.send_of_broken_off hleads hlast
  rw [found, check_of_parsed network address timeout h, Call.answer_map, hfailure]
  exact ⟨_, rfl⟩

/-! ## Whose answer is told -/

variable (network address timeout s)

/-- **A probe tells the answer of the last server that it is redirected to.**  The address is asked
by a GET of its root page, and its own answer is told if that is no redirect; else that of the
request to which at most ten redirects lead.  If the last of ten is a redirect still, or an earlier
one leads out of the `http` family, the node counts as unreachable.  A text that is no address is
unreachable too. -/
theorem told_by_last_answer :
    (∀ fault, Url.parse (urlText address) = .error fault → ∃ reason,
      (http network address timeout).check s = (.now (.unreachable reason), s)) ∧
    ∀ url, Url.parse (urlText address) = .ok url →
      (¬ IsRedirected network timeout (.get url) s →
        Tells (own network timeout (.get url) s) (found network address timeout s)) ∧
      (IsRedirected network timeout (.get url) s → ∃ r,
        own network timeout (.get url) s = .ok r ∧ r.status ∈ [301, 302, 303, 307, 308]) ∧
      ∃ n last t, LeadsTo network timeout n (.get url) s last t ∧ n ≤ redirectLimit ∧
        last.method = .get ∧
        (¬ IsRedirected network timeout last t ∧
            Tells (own network timeout last t) (found network address timeout s) ∨
          (IsRedirected network timeout last t ∧ n = redirectLimit ∨
              n < redirectLimit ∧ ∃ text, LeadsAway network timeout last t text) ∧
            ∃ reason, found network address timeout s = .unreachable reason) := by
  refine ⟨fun fault h => ⟨_, check_of_not_parsed network address timeout h s⟩, fun url h => ?_⟩
  refine ⟨fun hown => tells_of_leadsTo h .self (Nat.zero_le _) hown, ?_, ?_⟩
  · rintro ⟨destination, r, hr, hnext⟩
    exact ⟨r, hr, Http.status_of_redirect? hnext⟩
  · obtain ⟨n, last, t, hleads, hle, hlast⟩ :=
      Http.exists_leadsTo network timeout redirectLimit (.get url) s
    refine ⟨n, last, t, hleads, hle, hleads.method_eq_get rfl, ?_⟩
    by_cases hredirected : IsRedirected network timeout last t
    · exact .inr ⟨hlast hredirected, found_of_broken_off h hleads (hlast hredirected)⟩
    · exact .inl ⟨hredirected, tells_of_leadsTo h hleads hle hredirected⟩

end Told

/-! ## A node that redirects -/

/-- A node whose root page redirects to a page that is there. -/
def movedNode : Network Unit where
  exchange _ request s :=
    (.response (if request.url.segments = [[]] then ⟨302, [("Location", "/ok")], []⟩
      else ⟨200, [], []⟩), s)

/-- The address of its root page. -/
def movedUrl : Url := ⟨false, [], [], .ipv4 0x7F000001, some 8114, [[]], none, none⟩

/-- **A node whose own answer is a redirect may be told to be ready.** -/
theorem redirected_ready :
    Url.parse (urlText "127.0.0.1:8114") = .ok movedUrl ∧
    own movedNode 1000 (.get movedUrl) () = .ok ⟨302, [("Location", "/ok")], []⟩ ∧
    found movedNode "127.0.0.1:8114" 1000 () = .ready ∧
    ¬ Tells (own movedNode 1000 (.get movedUrl) ())
      (found movedNode "127.0.0.1:8114" 1000 ()) := by
  have hparse : Url.parse (urlText "127.0.0.1:8114") = .ok movedUrl := by decide +kernel
  have hown : own movedNode 1000 (.get movedUrl) () = .ok ⟨302, [("Location", "/ok")], []⟩ := by
    decide +kernel
  have hfound : found movedNode "127.0.0.1:8114" 1000 () = .ready := by
    rw [found, check_of_parsed _ _ _ hparse]
    decide +kernel
  refine ⟨hparse, hown, hfound, fun htells => ?_⟩
  obtain ⟨r, hr, hstatus⟩ := htells.ready_iff.mp hfound
  rw [hown] at hr
  rw [← Except.ok.inj hr] at hstatus
  cases hstatus

end Sidecar.Probe
