import Mathlib
import Sidecar.Config
import Sidecar.Proofs.Lifecycle.Agreement
import Sidecar.Proofs.Supervisor.Monit

/-!
# Proofs/Lifecycle/Arbitrator — what a bootstrap posts to the arbitrator's page

A bootstrap is refused by the name that the configuration gives to the service; what it posts goes
to the page that the name is read as.  `posted_bootstrap` tells all that a bootstrap posts: nothing,
or what a start posts.  **No plain name but the arbitrator's own leads to its page**, but names that
are not plain do (`arbitrator_told_iff`).
-/

namespace Sidecar

open Http (Network Request posted)

/-- The page of the arbitrator. -/
def arbitratorPage : String := "/" ++ arbitratorService

/-- The scene before anything is sent. -/
def Scene.logged {σ : Type} (s : Scene σ) : Scene (σ × List Request) :=
  { s with world := (s.world, []) }

namespace Orchestrator

/-! ## The calls of a bootstrap -/

section Calls

variable {σ : Type} {o : Orchestrator σ} {horizon : Nat} {temp : Marker.TempFile} {s : Scene σ}

/-- Whether a bootstrap gets as far as its start call: **its service has not the arbitrator's
name**, and its marker is written. -/
def Seeds (o : Orchestrator σ) (files : FileTree) (temp : Marker.TempFile) : Prop :=
  isArbitrator o.service = false ∧
    (Marker.write files o.statePath .needsBootstrap temp).1 = .ok ()

/-- **A bootstrap that starts the service seeds.** -/
theorem Starts.seeds {intent : Intent} {state : DeclaredState}
    (h : o.Starts temp s .bootstrap intent state) : o.Seeds s.files temp := by
  obtain ⟨hintent, hdeclared, hallowed, hwritten⟩ := h
  cases hintent
  cases hdeclared
  exact ⟨Bool.eq_false_iff.mpr fun harbitrator => hallowed ⟨rfl, harbitrator⟩, hwritten⟩

/-- **A bootstrap makes no call, or starts the service and then only checks it.** -/
theorem kinds_bootstrap {files : FileTree} {kinds : List Call.Kind} {result : Result}
    (h : o.Agreed horizon temp s .bootstrap files kinds result) :
    (kinds = [] ∧ ¬ o.Seeds s.files temp) ∨
      ∃ queries : List Wait.Query, kinds = .start :: queries.map Call.Kind.ofQuery ∧
        o.Seeds s.files temp := by
  cases h with
  | refused hrefused =>
    refine .inl ⟨rfl, fun hseeds => ?_⟩
    exact absurd hrefused.2 (by simp [hseeds.1])
  | unwritten hdeclared _ hfailed =>
    cases hdeclared
    refine .inl ⟨rfl, fun hseeds => ?_⟩
    rw [hseeds.2] at hfailed
    cases hfailed
  | unstarted h => exact .inr ⟨[], rfl, h.seeds⟩
  | unanswered h => exact .inr ⟨[], rfl, h.seeds⟩
  | unchecked h => exact .inr ⟨[], rfl, h.seeds⟩
  | checked h => exact .inr ⟨_, rfl, h.seeds⟩
  | stopped hintent => cases hintent
  | queried hintent => cases hintent

end Calls

/-! ## What is posted -/

/-- A plain name that leads to the arbitrator's page is the arbitrator's. -/
theorem eq_arbitratorService_of_plain {service : String} (h : Url.IsPlainName service.toList)
    {root : Url} (htarget : (root.withPage service.toList).target = arbitratorPage) :
    service = arbitratorService := by
  rw [Url.target_withPage_plain h] at htarget
  have hcs := congrArg String.toList htarget
  rw [String.toList_ofList, arbitratorPage, String.toList_append] at hcs
  exact String.toList_inj.mp (List.cons.inj hcs).2

section Posted

variable [Url.Idna] [Http.Resolver] {σ : Type} {network : Network σ} {c : Config}

/-- The requests that a bootstrap sends, from the first to the last. -/
def bootstrapLog (network : Network σ) (c : Config) (horizon : Nat) (temp : Marker.TempFile)
    (s : Scene σ) :
    List Request :=
  ((ofConfig network.logged c).bootstrap horizon temp s.logged).1.world.2

/-- **Checking the node posts nothing.** -/
theorem posted_query (h : c.monit.HasPlainHost) (query : Wait.Query) (world : σ × List Request) :
    posted ((ofConfig network.logged c).worldAfter world (Call.Kind.ofQuery query)).2
      = posted world.2 := by
  cases query with
  | status =>
    simp only [worldAfter, Call.Kind.ofQuery, ofConfig, Monit.status_eq]
    have hget : ∀ url, (Request.get url).method = .get := fun _ => rfl
    rw [Monit.posted_send_get h hget]
  | probe =>
    simp only [worldAfter, Call.Kind.ofQuery, ofConfig, Probe.http]
    split
    · rfl
    · exact Http.posted_send_get rfl world

/-- **Queries post nothing.** -/
theorem posted_queries (h : c.monit.HasPlainHost) (queries : List Wait.Query)
    (world : σ × List Request) :
    posted ((queries.map Call.Kind.ofQuery).foldl (ofConfig network.logged c).worldAfter world).2
      = posted world.2 := by
  induction queries generalizing world with
  | nil => rfl
  | cons query queries ih =>
    rw [List.map_cons, List.foldl_cons, ih, posted_query h]

/-- **A bootstrap posts what a start posts, or nothing.** -/
theorem mem_posted_bootstrap_iff (h : c.monit.HasPlainHost)
    (hdirect : ∀ request, request.method = .post → network.IsDirect request) (horizon : Nat)
    (temp : Marker.TempFile) (s : Scene σ) (request : Request) :
    request ∈ posted (bootstrapLog network c horizon temp s) ↔
      (ofConfig network c).Seeds s.files temp ∧
        request ∈ Monit.startPost? c.monit c.service := by
  obtain ⟨files, kinds, hmakes, hagreed⟩ :=
    (ofConfig network.logged c).agreed_perform horizon temp s.logged .bootstrap
  have hlog : bootstrapLog network c horizon temp s
      = (kinds.foldl (ofConfig network.logged c).worldAfter s.logged.world).2 :=
    congrArg Prod.snd hmakes.world_eq
  rw [hlog]
  rcases kinds_bootstrap hagreed with ⟨rfl, hnot⟩ | ⟨queries, rfl, hseeds⟩
  · refine ⟨fun hmem => ?_, fun h => absurd h.1 hnot⟩
    cases hmem
  · have hstart : posted ((ofConfig network.logged c).worldAfter s.logged.world .start).2
        = [] ++ (Monit.startPost? c.monit c.service).toList := by
      simp only [worldAfter, ofConfig, Monit.supervisor, Monit.act_eq]
      have hpost : ∀ url, (Request.postForm url "action" Action.start.verb).method = .post :=
        fun _ => rfl
      rw [Monit.posted_send_post h hpost hdirect]
      rfl
    rw [List.foldl_cons, posted_queries h, hstart, List.nil_append, Option.mem_toList]
    exact ⟨fun hmem => ⟨hseeds, hmem⟩, fun hmem => hmem.2⟩

/-- The posts of a bootstrap reach the arbitrator's page. -/
def TellsArbitrator (network : Network σ) (c : Config) (horizon : Nat) (temp : Marker.TempFile)
    (s : Scene σ) : Prop :=
  ∃ request ∈ posted (bootstrapLog network c horizon temp s), request.url.target = arbitratorPage

/-- **The arbitrator is told by the name that is read as its page**, whatever is written. -/
theorem tellsArbitrator_iff (h : c.monit.HasPlainHost)
    (hdirect : ∀ request, request.method = .post → network.IsDirect request) (horizon : Nat)
    (temp : Marker.TempFile) (s : Scene σ) :
    TellsArbitrator network c horizon temp s ↔ (ofConfig network c).Seeds s.files temp ∧
      ∃ root, c.monit.root = .ok root ∧
        (root.withPage c.service.toList).withoutCredentials.isSendable ∧
        (root.withPage c.service.toList).target = arbitratorPage := by
  simp only [TellsArbitrator, mem_posted_bootstrap_iff h hdirect, Monit.mem_startPost?_iff]
  constructor
  · rintro ⟨request, ⟨hseeds, root, hroot, hsendable, rfl⟩, htarget⟩
    rw [Monit.target_requestAt_postForm] at htarget
    exact ⟨hseeds, root, hroot, hsendable, htarget⟩
  · rintro ⟨hseeds, root, hroot, hsendable, htarget⟩
    rw [← Monit.target_requestAt_postForm c.monit] at htarget
    exact ⟨_, ⟨hseeds, root, hroot, hsendable, rfl⟩, htarget⟩

/-- **When the arbitrator is told to seed a cluster**: its name is refused before anything happens,
and no other plain name leads to its page, but any name does that is read as its page and written in
another way. -/
theorem arbitrator_told_iff (h : c.monit.HasPlainHost)
    (hdirect : ∀ request, request.method = .post → network.IsDirect request) (horizon : Nat)
    (temp : Marker.TempFile) (s : Scene σ) :
    (TellsArbitrator network c horizon temp s ↔ (ofConfig network c).Seeds s.files temp ∧
      ∃ root, c.monit.root = .ok root ∧
        (root.withPage c.service.toList).withoutCredentials.isSendable ∧
        (root.withPage c.service.toList).target = arbitratorPage) ∧
    (Url.IsPlainName c.service.toList → ¬ TellsArbitrator network c horizon temp s) ∧
    (c.service = arbitratorService → (ofConfig network c).bootstrap horizon temp s =
      (s, .returned (.error (.invalidIntent arbitratorService .bootstrap)))) := by
  have htold := tellsArbitrator_iff h hdirect horizon temp s
  refine ⟨htold, fun hplain htells => ?_, fun hname => ?_⟩
  · obtain ⟨hseeds, root, -, -, htarget⟩ := htold.mp htells
    have hname : c.service = arbitratorService := eq_arbitratorService_of_plain hplain htarget
    have hother : isArbitrator c.service = false := hseeds.1
    rw [hname] at hother
    cases hother
  · have hservice : (ofConfig network c).service = arbitratorService := hname
    rw [bootstrap, hservice]
    rfl

end Posted

/-! ## A name that is read as the arbitrator's -/

section Padded

/-- A configuration for the arbitrator's name with a space after it. -/
def padded : Config :=
  ⟨"garbd ", "state.txt", "127.0.0.1:8114", .default, ⟨"127.0.0.1", 2822, "vcap", "secret"⟩⟩

/-- The address of its monit daemon. -/
def paddedRoot : Url := ⟨false, [], [], .ipv4 0x7F000001, some 2822, [[]], none, none⟩

/-- The arbitrator is told to seed a cluster, by a name with a space after it. -/
theorem padded_tells :
    padded.flaw? = none ∧ padded.monit.HasPlainHost ∧
    TellsArbitrator .accepting padded 60000 ".tmpAbC123" ⟨0, .fresh, .empty [], (), []⟩ := by
  have hplain : padded.monit.HasPlainHost := by decide +kernel
  have hroot : padded.monit.root = .ok paddedRoot := by decide +kernel
  obtain ⟨htold, -⟩ := arbitrator_told_iff hplain
    (fun request _ => Network.isDirect_accepting request) 60000 ".tmpAbC123"
    ⟨0, .fresh, .empty [], (), []⟩
  exact ⟨by decide +kernel, hplain, htold.mpr ⟨⟨rfl, by cbv⟩, paddedRoot, hroot, by decide +kernel,
    by decide +kernel⟩⟩

end Padded

end Orchestrator

end Sidecar
