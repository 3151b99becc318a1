import Sidecar.Proofs.Http.Redirect

/-!
# Proofs/Http/Form — which redirects repeat a form

A redirect asks either for the page alone or for the whole request again, and it is its status that
says which.  So **the request that redirects lead to posts the form just if every one of them
repeats it** (`LeadsBy.isForm_iff`); after any other it is a GET with nothing in it.
-/

namespace Sidecar.Http

variable [Resolver] {σ : Type} (network : Network σ) (timeout : Nat)

/-- Redirects with these statuses, the first one first, lead from a request to another one. -/
inductive LeadsBy : List Nat → Request → σ → Request → σ → Prop
  | self {request : Request} {s : σ} : LeadsBy [] request s request s
  | redirect {statuses : List Nat} {request next last : Request} {s t : σ} {r : Response} :
      own network timeout request s = .ok r → redirect? request r = some (.address next) →
      LeadsBy statuses next (worldAfter network timeout request s) last t →
      LeadsBy (r.status :: statuses) request s last t

variable {network timeout} {request last : Request} {s t : σ} {statuses : List Nat}

/-- Redirects with statuses are redirects. -/
theorem LeadsBy.leadsTo (h : LeadsBy network timeout statuses request s last t) :
    LeadsTo network timeout statuses.length request s last t := by
  induction h with
  | self => exact .self
  | redirect hown hnext _ ih => exact .redirect ⟨_, hown, hnext⟩ ih

/-- **Every redirect has a status.** -/
theorem LeadsTo.exists_statuses {n : Nat} (h : LeadsTo network timeout n request s last t) :
    ∃ statuses, statuses.length = n ∧ LeadsBy network timeout statuses request s last t := by
  induction h with
  | self => exact ⟨[], rfl, .self⟩
  | redirect hasks _ ih =>
    obtain ⟨r, hown, hnext⟩ := hasks
    obtain ⟨statuses, rfl, hleads⟩ := ih
    exact ⟨r.status :: statuses, rfl, .redirect hown hnext hleads⟩

/-! ## Forms -/

/-- A request that posts one form field. -/
structure Request.IsForm (field value : String) (request : Request) : Prop where
  method : request.method = .post
  contentType : request.contentType = some "application/x-www-form-urlencoded"
  body : request.body = field ++ "=" ++ value

/-- **The form is still posted just if every redirect repeats the request.** -/
theorem LeadsBy.isForm_iff {field value : String}
    (h : LeadsBy network timeout statuses request s last t) (hform : request.IsForm field value) :
    last.IsForm field value ↔ ∀ status ∈ statuses, status ∈ [307, 308] := by
  induction h with
  | self => simp [hform]
  | @redirect statuses request next last s t r _ hnext hleads ih =>
    rw [List.forall_mem_cons]
    obtain ⟨url, ⟨hstatus, rfl⟩ | ⟨hstatus, rfl⟩⟩ := next_of_redirect? hnext
    · have hlast : last.method = .get := hleads.leadsTo.method_eq_get rfl
      have hnot : r.status ∉ [307, 308] := by
        simp only [List.mem_cons, List.not_mem_nil, or_false] at hstatus ⊢
        omega
      exact iff_of_false (fun hlastForm => by cases hlast.symm.trans hlastForm.method)
        fun hall => hnot hall.1
    · have hnextForm : (request.repeatedAt url).IsForm field value :=
        ⟨hform.method, hform.contentType, hform.body⟩
      rw [ih hnextForm]
      exact (and_iff_right hstatus).symm

end Sidecar.Http
