import Mathlib
import Sidecar.Config.File
import Sidecar.Proofs.Yaml.Entries

/-!
# Proofs/Config/Records — the records of a configuration file, read from outlines

A record is read when its outline has the right fields and each of their values is accepted
(`read_isOk_iff`), **in whatever order they stand**, and what is read is what the outline says, with
the defaults of the fields that are left out (`describes_of_read`).  Both rest on what one
assignment does: it changes its own field alone (`assign_keeps`), and that to what its value says
(`assign_sets`).
-/

namespace Sidecar.Config

open Yaml (Document Node Outline)
open Yaml.Outline (Content)

variable {d : Document} {node : Node}

theorem require_eq_ok_iff {α : Type} {name : String} {given : Option α} {a : α} :
    require name given = .ok a ↔ given = some a := by
  cases given <;> simp [require]

theorem duration_eq_ok_iff {text : String} {span : Duration} :
    duration text = .ok span ↔ Duration.parse text = .ok span := mapError_eq_ok_iff

/-! ## Readiness -/

namespace Readiness

/-- What the outline of a readiness record says of each of its fields. -/
structure Describes (r : Outline) (x : Readiness) : Prop where
  tickInterval : Outline.Tells (r.text? "tick_interval")
    (fun text span => Duration.parse text = .ok span) (.ofSeconds 1) x.tickInterval
  probeTimeout : Outline.Tells (r.text? "probe_timeout")
    (fun text span => Duration.parse text = .ok span) (.ofSeconds 1) x.probeTimeout
  maxWait : Outline.Tells (r.text? "max_wait")
    (fun text limit => ∃ span, Duration.parse text = .ok span ∧ limit = some span) none x.maxWait

/-- A text stands for a duration. -/
def IsSpan (text : String) : Prop := ∃ span, Duration.parse text = .ok span

/-- An outline from which a readiness record can be read. -/
structure IsValid (r : Outline) : Prop where
  fields : r.HasFields fields
  span : ∀ name text, r.text? name = some text → IsSpan text

section Assign

variable {c : Content} {text name : String} {x next : Readiness}

/-- **Each field's text is read as a duration.** -/
theorem assign_of_shows (hnode : node.Shows c.items) (hc : c.text? = some text) (name : String)
    (x : Readiness) : assign d name node x = do
      let span ← duration text
      return if name = "tick_interval" then { x with tickInterval := span }
        else if name = "probe_timeout" then { x with probeTimeout := span }
        else { x with maxWait := some span } := by
  rw [assign, Document.text_of_shows hnode hc, Document.text?_of_shows hnode hc]
  split_ifs <;> rfl

/-- **A setting is assigned just if its text is a duration.** -/
theorem assign_isOk_iff (hnode : node.Shows c.items) (hc : c.text? = some text) (name : String)
    (x : Readiness) : (∃ next, assign d name node x = .ok next) ↔ IsSpan text := by
  simp [assign_of_shows hnode hc, bind_eq_ok_iff, duration_eq_ok_iff, IsSpan]

/-- **A field becomes the duration that its text stands for.** -/
theorem assign_sets (hnode : node.Shows c.items) (hc : c.text? = some text)
    (h : assign d name node x = .ok next) :
    (name = "tick_interval" → Duration.parse text = .ok next.tickInterval) ∧
    (name = "probe_timeout" → Duration.parse text = .ok next.probeTimeout) ∧
    (name = "max_wait" → ∃ span, Duration.parse text = .ok span ∧ next.maxWait = some span) := by
  rw [assign_of_shows hnode hc] at h
  obtain ⟨span, hspan, h⟩ := bind_eq_ok_iff.mp h
  rw [duration_eq_ok_iff] at hspan
  obtain rfl := Except.ok.inj h
  exact ⟨fun hname => by simpa [hname], fun hname => by simpa [hname],
    fun hname => by simpa [hname]⟩

/-- **An assignment changes its own field alone.** -/
theorem assign_keeps (hname : name ∈ fields) (h : assign d name node x = .ok next) :
    (name ≠ "tick_interval" → next.tickInterval = x.tickInterval) ∧
    (name ≠ "probe_timeout" → next.probeTimeout = x.probeTimeout) ∧
    (name ≠ "max_wait" → next.maxWait = x.maxWait) := by
  unfold assign at h
  split_ifs at h with htick hprobe
  · simp only [bind_eq_ok_iff, pure_eq_ok, Except.ok.injEq] at h
    obtain ⟨_, -, span, -, rfl⟩ := h
    simp [htick]
  · simp only [bind_eq_ok_iff, pure_eq_ok, Except.ok.injEq] at h
    obtain ⟨_, -, span, -, rfl⟩ := h
    simp [hprobe]
  · have hmax : name = "max_wait" := by simp_all [fields]
    obtain ⟨text, -, h⟩ := bind_eq_ok_iff.mp h
    cases text with
    | none =>
      obtain rfl := Except.ok.inj h
      simp [hmax]
    | some text =>
      obtain ⟨span, -, h⟩ := bind_eq_ok_iff.mp h
      obtain rfl := Except.ok.inj h
      simp [hmax]

end Assign

section Read

variable {r : Outline} (hnode : node.Shows (Content.group r).items)
  (hkind : r.HasKind Content.text? fields)

include hnode hkind

/-- **Readiness settings are read just if they are valid.** -/
theorem read_isOk_iff : (∃ x, read d node = .ok x) ↔ IsValid r := by
  obtain ⟨es, hes, hrecord⟩ := Document.record_eq_ok_iff hnode
  let IsRead (_ : String) (c : Content) : Prop := ∀ text, c.text? = some text → IsSpan text
  have hassign : ∀ e ∈ r.entries, e.1.name ∈ fields → ∀ node x, Node.Shows node e.2.items →
      ((∃ next, assign d e.1.name node x = .ok next) ↔ IsRead e.1.name e.2) := by
    intro e he hname node x hnode
    obtain ⟨text, htext⟩ := hkind e he hname
    simpa [IsRead, htext] using assign_isOk_iff hnode htext e.1.name x
  have hentries : (∃ x, d.readEntries fields (assign d) [] .default es = .ok x) ↔ _ :=
    Document.readOutline_isOk_iff IsRead hes hassign
  have hread (x : Readiness) : read d node = .ok x
      ↔ d.readEntries fields (assign d) [] .default es = .ok x := by
    rw [read, hrecord]
    simp
  simp only [hread, hentries]
  constructor
  · rintro ⟨hfields, hspan⟩
    refine ⟨hfields, fun name text h => ?_⟩
    obtain ⟨c, hc, htext⟩ := Option.bind_eq_some_iff.mp h
    exact hspan name c hc text htext
  · rintro ⟨hfields, hspan⟩
    exact ⟨hfields, fun name c hc text htext =>
      hspan name text (Option.bind_eq_some_iff.mpr ⟨c, hc, htext⟩)⟩

/-- **What is read is what the outline says.** -/
theorem describes_of_read {x : Readiness} (h : read d node = .ok x) : Describes r x := by
  obtain ⟨es, hes, hrecord⟩ := Document.record_eq_ok_iff hnode
  obtain ⟨_, hentries, hx⟩ := (hrecord ..).mp h
  obtain rfl := Except.ok.inj hx
  have htext {name : String} (hname : name ∈ fields) : r.HasKind Content.text? [name] :=
    fun e he hsame => hkind e he (by simp_all)
  exact {
    tickInterval := Document.readOutline_get tickInterval "tick_interval" Content.text? _
      (fun _ hname hne _ _ _ h => (assign_keeps hname h).1 hne) (htext (by decide))
      (fun _ _ _ _ _ _ _ hc hnode h => (assign_sets hnode hc h).1 rfl) hes hentries
    probeTimeout := Document.readOutline_get probeTimeout "probe_timeout" Content.text? _
      (fun _ hname hne _ _ _ h => (assign_keeps hname h).2.1 hne) (htext (by decide))
      (fun _ _ _ _ _ _ _ hc hnode h => (assign_sets hnode hc h).2.1 rfl) hes hentries
    maxWait := Document.readOutline_get maxWait "max_wait" Content.text? _
      (fun _ hname hne _ _ _ h => (assign_keeps hname h).2.2 hne) (htext (by decide))
      (fun _ _ _ _ _ _ _ hc hnode h => (assign_sets hnode hc h).2.2 rfl) hes hentries }

end Read

end Readiness

/-! ## The account at monit -/

namespace Account

/-- The values in the outline of an account are of the kinds that its fields have. -/
structure IsForm (m : Outline) : Prop where
  texts : m.HasKind Content.text? ["host", "username", "password"]
  number : m.HasKind Content.number? ["port"]

/-- An outline from which an account can be read. -/
structure IsValid (m : Outline) : Prop where
  fields : m.HasFields fields
  port : ∀ n, m.number? "port" = some n → n ≤ 65535
  username : ∃ text, m.text? "username" = some text
  password : ∃ text, m.text? "password" = some text

/-- What the outline of an account says of each of its fields. -/
structure Describes (m : Outline) (a : Monit.Account) : Prop where
  host : a.host = (m.text? "host").getD "127.0.0.1"
  port : a.port = (m.number? "port").getD 2822
  username : m.text? "username" = some a.username
  password : m.text? "password" = some a.password

section Assign

variable {c : Content} {text name : String} {a next : Draft}

theorem assign_text (hnode : node.Shows c.items) (hc : c.text? = some text) (hname : name ≠ "port")
    (a : Draft) : assign d name node a
      = .ok (if name = "host" then { a with host := text }
        else if name = "username" then { a with username := some text }
        else { a with password := some text }) := by
  rw [assign, Document.text_of_shows hnode hc]
  split_ifs <;> rfl

/-- **A port is assigned if it fits in sixteen bits.** -/
theorem assign_port {n : Nat} (hnode : node.Shows c.items) (hc : c.number? = some n) :
    assign d "port" node a = .ok next ↔ n ≤ 65535 ∧ next = { a with port := n } := by
  have hhost : "port" ≠ "host" := by decide
  rw [assign, if_neg hhost, if_pos rfl]
  simp only [bind_eq_ok_iff, Document.word16_eq_ok_iff hnode hc, pure_eq_ok, Except.ok.injEq]
  constructor
  · rintro ⟨_, ⟨rfl, hn⟩, rfl⟩
    exact ⟨hn, rfl⟩
  · rintro ⟨hn, rfl⟩
    exact ⟨n, ⟨rfl, hn⟩, rfl⟩

/-- **A field becomes its text.** -/
theorem assign_sets (hnode : node.Shows c.items) (hc : c.text? = some text) (hname : name ≠ "port")
    (h : assign d name node a = .ok next) :
    (name = "host" → next.host = text) ∧ (name = "username" → next.username = some text) ∧
    (name = "password" → next.password = some text) := by
  rw [assign_text hnode hc hname] at h
  obtain rfl := Except.ok.inj h
  exact ⟨fun hname => by simp [hname], fun hname => by simp [hname], fun hname => by simp [hname]⟩

/-- **An assignment changes its own field alone.** -/
theorem assign_keeps (hname : name ∈ fields) (h : assign d name node a = .ok next) :
    (name ≠ "host" → next.host = a.host) ∧ (name ≠ "port" → next.port = a.port) ∧
    (name ≠ "username" → next.username = a.username) ∧
    (name ≠ "password" → next.password = a.password) := by
  unfold assign at h
  split_ifs at h with hhost hport husername <;>
    obtain ⟨value, -, h⟩ := bind_eq_ok_iff.mp h <;> obtain rfl := Except.ok.inj h
  · simp [hhost]
  · simp [hport]
  · simp [husername]
  · have hpassword : name = "password" := by simp_all [fields]
    simp [hpassword]

end Assign

/-- **An account needs a user and a password**, and nothing else. -/
theorem finish_eq_ok_iff {draft : Draft} {a : Monit.Account} : finish draft = .ok a ↔
    draft.username = some a.username ∧ draft.password = some a.password ∧
      a.host = draft.host ∧ a.port = draft.port := by
  simp only [finish, bind_eq_ok_iff, require_eq_ok_iff, pure_eq_ok, Except.ok.injEq]
  constructor
  · rintro ⟨_, husername, _, hpassword, rfl⟩
    exact ⟨husername, hpassword, rfl, rfl⟩
  · rintro ⟨husername, hpassword, hhost, hport⟩
    exact ⟨_, husername, _, hpassword, by rw [← hhost, ← hport]⟩

section Entries

variable {m : Outline} (hform : IsForm m) {es : List Yaml.Entry}
  (hes : List.Forall₂ Yaml.Entry.Shows m.entries es)

include hform hes

/-- The entries of an account are read if the port fits. -/
theorem entries_isOk_iff : (∃ a, d.readEntries fields (assign d) [] .default es = .ok a) ↔
    m.HasFields fields ∧ ∀ n, m.number? "port" = some n → n ≤ 65535 := by
  let IsRead (name : String) (c : Content) : Prop :=
    ∀ n, name = "port" → c.number? = some n → n ≤ 65535
  have hassign : ∀ e ∈ m.entries, e.1.name ∈ fields → ∀ node a, Node.Shows node e.2.items →
      ((∃ next, assign d e.1.name node a = .ok next) ↔ IsRead e.1.name e.2) := by
    intro e he hname node a hnode
    by_cases hport : e.1.name = "port"
    · obtain ⟨n, hn⟩ := hform.number e he (by simp [hport])
      rw [hport]
      simp [assign_port hnode hn, IsRead, hn]
    · obtain ⟨text, htext⟩ := hform.texts e he (by simp_all [fields])
      simp [assign_text hnode htext hport, IsRead, hport]
  rw [Document.readOutline_isOk_iff IsRead hes hassign]
  refine and_congr_right fun _ => ⟨fun h n hn => ?_, fun h name c hc n hname hn => ?_⟩
  · obtain ⟨c, hc, hn⟩ := Option.bind_eq_some_iff.mp hn
    exact h _ c hc n rfl hn
  · subst hname
    exact h n (Option.bind_eq_some_iff.mpr ⟨c, hc, hn⟩)

/-- **The draft holds what the outline says.** -/
theorem entries_tell {a : Draft} (h : d.readEntries fields (assign d) [] .default es = .ok a) :
    a.host = (m.text? "host").getD "127.0.0.1" ∧ a.port = (m.number? "port").getD 2822 ∧
    m.text? "username" = a.username ∧ m.text? "password" = a.password := by
  have htext {name : String} (hname : name ∈ ["host", "username", "password"]) :
      m.HasKind Content.text? [name] := fun e he hsame => hform.texts e he (by simp_all)
  have hhost := Document.readOutline_get Draft.host "host" Content.text?
    (fun text host => host = text) (fun _ hname hne _ _ _ h => (assign_keeps hname h).1 hne)
    (htext (by decide))
    (fun _ _ _ _ _ _ _ hc hnode h => (assign_sets hnode hc (by decide) h).1 rfl) hes h
  have hport := Document.readOutline_get Draft.port "port" Content.number? (fun n port => port = n)
    (fun _ hname hne _ _ _ h => (assign_keeps hname h).2.1 hne) hform.number
    (fun _ _ _ _ _ _ _ hc hnode h => by rw [((assign_port hnode hc).mp h).2]) hes h
  have husername := Document.readOutline_get Draft.username "username" Content.text?
    (fun text username => username = some text)
    (fun _ hname hne _ _ _ h => (assign_keeps hname h).2.2.1 hne) (htext (by decide))
    (fun _ _ _ _ _ _ _ hc hnode h => (assign_sets hnode hc (by decide) h).2.1 rfl) hes h
  have hpassword := Document.readOutline_get Draft.password "password" Content.text?
    (fun text password => password = some text)
    (fun _ hname hne _ _ _ h => (assign_keeps hname h).2.2.2 hne) (htext (by decide))
    (fun _ _ _ _ _ _ _ hc hnode h => (assign_sets hnode hc (by decide) h).2.2 rfl) hes h
  exact ⟨Outline.tells_eq_iff.mp hhost, Outline.tells_eq_iff.mp hport,
    Outline.tells_some_iff.mp husername, Outline.tells_some_iff.mp hpassword⟩

end Entries

section Read

variable {m : Outline} (hnode : node.Shows (Content.group m).items) (hform : IsForm m)

include hnode hform

/-- **An account is read just if it is valid.** -/
theorem read_isOk_iff : (∃ a, read d node = .ok a) ↔ IsValid m := by
  obtain ⟨es, hes, hrecord⟩ := Document.record_eq_ok_iff hnode
  constructor
  · rintro ⟨a, h⟩
    obtain ⟨draft, hentries, hfinish⟩ := (hrecord ..).mp h
    obtain ⟨hfields, hport⟩ := (entries_isOk_iff hform hes).mp ⟨draft, hentries⟩
    obtain ⟨-, -, husername, hpassword⟩ := entries_tell hform hes hentries
    obtain ⟨hu, hp, -⟩ := finish_eq_ok_iff.mp hfinish
    exact ⟨hfields, hport, ⟨_, husername.trans hu⟩, ⟨_, hpassword.trans hp⟩⟩
  · rintro ⟨hfields, hport, ⟨username, hu⟩, ⟨password, hp⟩⟩
    obtain ⟨draft, hentries⟩ := (entries_isOk_iff (d := d) hform hes).mpr ⟨hfields, hport⟩
    obtain ⟨-, -, husername, hpassword⟩ := entries_tell hform hes hentries
    exact ⟨⟨draft.host, draft.port, username, password⟩, (hrecord ..).mpr ⟨draft, hentries,
      finish_eq_ok_iff.mpr ⟨husername.symm.trans hu, hpassword.symm.trans hp, rfl, rfl⟩⟩⟩

/-- **What is read is what the outline says.** -/
theorem describes_of_read {a : Monit.Account} (h : read d node = .ok a) : Describes m a := by
  obtain ⟨es, hes, hrecord⟩ := Document.record_eq_ok_iff hnode
  obtain ⟨draft, hentries, hfinish⟩ := (hrecord ..).mp h
  obtain ⟨hhost, hport, husername, hpassword⟩ := entries_tell hform hes hentries
  obtain ⟨hu, hp, hh, hq⟩ := finish_eq_ok_iff.mp hfinish
  exact ⟨hh.trans hhost, hq.trans hport, husername.trans hu, hpassword.trans hp⟩

end Read

end Account

/-! ## The whole record -/

/-- The values in the outline of a configuration are of the kinds that its fields have; **what
stands under any other key may be of any kind.** -/
structure IsForm (o : Outline) : Prop where
  texts : o.HasKind Content.text? ["service_name", "state_file_path", "galera_init_address"]
  readiness : ∀ e ∈ o.entries, e.1.name = "readiness" → ∃ r, e.2.group? = some r ∧
    r.HasKind Content.text? Readiness.fields
  monit : ∀ e ∈ o.entries, e.1.name = "monit" → ∃ m, e.2.group? = some m ∧ Account.IsForm m

/-- An outline from which a configuration can be read. -/
structure IsReadable (o : Outline) : Prop where
  fields : o.HasFields fields
  service : ∃ text, o.text? "service_name" = some text
  statePath : ∃ text, o.text? "state_file_path" = some text
  address : ∃ text, o.text? "galera_init_address" = some text
  readiness : ∀ r, o.group? "readiness" = some r → Readiness.IsValid r
  monit : ∃ m, o.group? "monit" = some m ∧ Account.IsValid m

/-- What the outline of a configuration says of each of its fields. -/
structure Describes (o : Outline) (c : Config) : Prop where
  service : o.text? "service_name" = some c.service
  statePath : o.text? "state_file_path" = some c.statePath
  address : o.text? "galera_init_address" = some c.address
  readiness : Outline.Tells (o.group? "readiness") Readiness.Describes .default c.readiness
  monit : ∃ m, o.group? "monit" = some m ∧ Account.Describes m c.monit

section Assign

variable {c : Content} {text name : String} {a next : Draft}

theorem assign_text (hnode : node.Shows c.items) (hc : c.text? = some text)
    (hname : name ∈ ["service_name", "state_file_path", "galera_init_address"]) (a : Draft) :
    assign d name node a = .ok (if name = "service_name" then { a with service := some text }
      else if name = "state_file_path" then { a with statePath := some text }
      else { a with address := some text }) := by
  simp only [List.mem_cons, List.not_mem_nil, or_false] at hname
  rw [assign, Document.text_of_shows hnode hc, Document.text_of_shows hnode hc]
  obtain rfl | rfl | rfl := hname <;> rfl

theorem assign_readiness (a : Draft) : assign d "readiness" node a = do
    return { a with readiness := some (← Readiness.read d node) } := by
  simp [assign]

theorem assign_monit (a : Draft) : assign d "monit" node a = do
    return { a with monit := some (← Account.read d node) } := by
  simp [assign]

/-- **A field for a text becomes its text.** -/
theorem assign_sets (hnode : node.Shows c.items) (hc : c.text? = some text)
    (hname : name ∈ ["service_name", "state_file_path", "galera_init_address"])
    (h : assign d name node a = .ok next) :
    (name = "service_name" → next.service = some text) ∧
    (name = "state_file_path" → next.statePath = some text) ∧
    (name = "galera_init_address" → next.address = some text) := by
  rw [assign_text hnode hc hname] at h
  obtain rfl := Except.ok.inj h
  exact ⟨fun hname => by simp [hname], fun hname => by simp [hname], fun hname => by simp [hname]⟩

/-- **An assignment changes its own field alone.** -/
theorem assign_keeps (hname : name ∈ fields) (h : assign d name node a = .ok next) :
    (name ≠ "service_name" → next.service = a.service) ∧
    (name ≠ "state_file_path" → next.statePath = a.statePath) ∧
    (name ≠ "galera_init_address" → next.address = a.address) ∧
    (name ≠ "readiness" → next.readiness = a.readiness) ∧
    (name ≠ "monit" → next.monit = a.monit) := by
  unfold assign at h
  split_ifs at h with hservice hpath haddress hreadiness <;>
    obtain ⟨value, -, h⟩ := bind_eq_ok_iff.mp h <;> obtain rfl := Except.ok.inj h
  · simp [hservice]
  · simp [hpath]
  · simp [haddress]
  · simp [hreadiness]
  · have hmonit : name = "monit" := by simp_all [fields]
    simp [hmonit]

end Assign

/-- **A configuration needs its four fields**; the settings may be left out. -/
theorem finish_eq_ok_iff {draft : Draft} {c : Config} : finish draft = .ok c ↔
    draft.service = some c.service ∧ draft.statePath = some c.statePath ∧
      draft.address = some c.address ∧ draft.monit = some c.monit ∧
      c.readiness = draft.readiness.getD .default := by
  simp only [finish, bind_eq_ok_iff, require_eq_ok_iff, pure_eq_ok, Except.ok.injEq]
  constructor
  · rintro ⟨_, hservice, _, hpath, _, haddress, _, hmonit, rfl⟩
    exact ⟨hservice, hpath, haddress, hmonit, rfl⟩
  · rintro ⟨hservice, hpath, haddress, hmonit, hreadiness⟩
    exact ⟨_, hservice, _, hpath, _, haddress, _, hmonit, by rw [← hreadiness]⟩

/-- What stands under a key, if that is a mapping. -/
theorem shows_group {c : Content} {body : Outline} (hnode : node.Shows c.items)
    (hc : c.group? = some body) : node.Shows (Content.group body).items := by
  obtain rfl := Content.group?_eq_some_iff.mp hc
  exact hnode

section Entries

variable {o : Outline} (hform : IsForm o) {es : List Yaml.Entry}
  (hes : List.Forall₂ Yaml.Entry.Shows o.entries es)

include hform hes

/-- The entries of a configuration are read if its groups are valid. -/
theorem entries_isOk_iff : (∃ a, d.readEntries fields (assign d) [] .empty es = .ok a) ↔
    o.HasFields fields ∧ (∀ r, o.group? "readiness" = some r → Readiness.IsValid r) ∧
      ∀ m, o.group? "monit" = some m → Account.IsValid m := by
  let IsRead (name : String) (c : Content) : Prop := ∀ body, c.group? = some body →
    (name = "readiness" → Readiness.IsValid body) ∧ (name = "monit" → Account.IsValid body)
  have hassign : ∀ e ∈ o.entries, e.1.name ∈ fields → ∀ node a, Node.Shows node e.2.items →
      ((∃ next, assign d e.1.name node a = .ok next) ↔ IsRead e.1.name e.2) := by
    intro e he hname node a hnode
    by_cases hreadiness : e.1.name = "readiness"
    · obtain ⟨r, hr, hkind⟩ := hform.readiness e he hreadiness
      have hread := Readiness.read_isOk_iff (d := d) (shows_group hnode hr) hkind
      rw [hreadiness, assign_readiness]
      simpa [bind_eq_ok_iff, IsRead, hr] using hread
    · by_cases hmonit : e.1.name = "monit"
      · obtain ⟨m, hm, hkind⟩ := hform.monit e he hmonit
        have hread := Account.read_isOk_iff (d := d) (shows_group hnode hm) hkind
        rw [hmonit, assign_monit]
        simpa [bind_eq_ok_iff, IsRead, hm] using hread
      · have htexts : e.1.name ∈ ["service_name", "state_file_path", "galera_init_address"] := by
          simp_all [fields]
        obtain ⟨text, htext⟩ := hform.texts e he htexts
        rw [assign_text hnode htext htexts]
        simp [IsRead, hreadiness, hmonit]
  rw [Document.readOutline_isOk_iff IsRead hes hassign]
  refine and_congr_right fun _ => ⟨fun h => ⟨fun r hr => ?_, fun m hm => ?_⟩, ?_⟩
  · obtain ⟨c, hc, hr⟩ := Option.bind_eq_some_iff.mp hr
    exact (h _ c hc r hr).1 rfl
  · obtain ⟨c, hc, hm⟩ := Option.bind_eq_some_iff.mp hm
    exact (h _ c hc m hm).2 rfl
  · rintro ⟨hreadiness, hmonit⟩ name c hc body hbody
    constructor
    · rintro rfl
      exact hreadiness body (Option.bind_eq_some_iff.mpr ⟨c, hc, hbody⟩)
    · rintro rfl
      exact hmonit body (Option.bind_eq_some_iff.mpr ⟨c, hc, hbody⟩)

section Tell

variable {a : Draft} (h : d.readEntries fields (assign d) [] .empty es = .ok a)

include h

/-- **The draft holds the texts that the outline says.** -/
theorem entries_tell_texts : o.text? "service_name" = a.service ∧
    o.text? "state_file_path" = a.statePath ∧ o.text? "galera_init_address" = a.address := by
  have htext {name : String}
      (hname : name ∈ ["service_name", "state_file_path", "galera_init_address"]) :
      o.HasKind Content.text? [name] := fun e he hsame => hform.texts e he (by simp_all)
  have hservice := Document.readOutline_get Draft.service "service_name" Content.text?
    (fun text service => service = some text)
    (fun _ hname hne _ _ _ h => (assign_keeps hname h).1 hne) (htext (by decide))
    (fun _ _ _ _ _ _ _ hc hnode h => (assign_sets hnode hc (by decide) h).1 rfl) hes h
  have hpath := Document.readOutline_get Draft.statePath "state_file_path" Content.text?
    (fun text statePath => statePath = some text)
    (fun _ hname hne _ _ _ h => (assign_keeps hname h).2.1 hne) (htext (by decide))
    (fun _ _ _ _ _ _ _ hc hnode h => (assign_sets hnode hc (by decide) h).2.1 rfl) hes h
  have haddress := Document.readOutline_get Draft.address "galera_init_address" Content.text?
    (fun text address => address = some text)
    (fun _ hname hne _ _ _ h => (assign_keeps hname h).2.2.1 hne) (htext (by decide))
    (fun _ _ _ _ _ _ _ hc hnode h => (assign_sets hnode hc (by decide) h).2.2 rfl) hes h
  exact ⟨Outline.tells_some_iff.mp hservice, Outline.tells_some_iff.mp hpath,
    Outline.tells_some_iff.mp haddress⟩

/-- **…and the readiness record**, if there is one. -/
theorem entries_tell_readiness : Outline.Tells (o.group? "readiness")
    (fun r x => ∃ y, x = some y ∧ Readiness.Describes r y) none a.readiness := by
  have hkind : o.HasKind Content.group? ["readiness"] := fun e he hname => by
    obtain ⟨r, hr, -⟩ := hform.readiness e he (by simpa using hname)
    exact ⟨r, hr⟩
  refine Document.readOutline_get Draft.readiness "readiness" Content.group? _
    (fun _ hname hne _ _ _ h => (assign_keeps hname h).2.2.2.1 hne) hkind ?_ hes h
  intro e he hname r node a next hr hnode h
  obtain ⟨r', hr', hkind⟩ := hform.readiness e he hname
  obtain rfl : r = r' := Option.some.inj (hr.symm.trans hr')
  rw [assign_readiness] at h
  obtain ⟨x, hx, h⟩ := bind_eq_ok_iff.mp h
  rw [← Except.ok.inj h]
  exact ⟨x, rfl, Readiness.describes_of_read (shows_group hnode hr) hkind hx⟩

/-- **…and the account.** -/
theorem entries_tell_monit : Outline.Tells (o.group? "monit")
    (fun m x => ∃ y, x = some y ∧ Account.Describes m y) none a.monit := by
  have hkind : o.HasKind Content.group? ["monit"] := fun e he hname => by
    obtain ⟨m, hm, -⟩ := hform.monit e he (by simpa using hname)
    exact ⟨m, hm⟩
  refine Document.readOutline_get Draft.monit "monit" Content.group? _
    (fun _ hname hne _ _ _ h => (assign_keeps hname h).2.2.2.2 hne) hkind ?_ hes h
  intro e he hname m node a next hm hnode h
  obtain ⟨m', hm', hkind⟩ := hform.monit e he hname
  obtain rfl : m = m' := Option.some.inj (hm.symm.trans hm')
  rw [assign_monit] at h
  obtain ⟨x, hx, h⟩ := bind_eq_ok_iff.mp h
  rw [← Except.ok.inj h]
  exact ⟨x, rfl, Account.describes_of_read (shows_group hnode hm) hkind hx⟩

end Tell

end Entries

section Read

variable {o : Outline} (hnode : node.Shows (Content.group o).items) (hform : IsForm o)

include hnode hform

/-- **A configuration is read just if it is readable.** -/
theorem read_isOk_iff : (∃ c, read d node = .ok c) ↔ IsReadable o := by
  obtain ⟨es, hes, hrecord⟩ := Document.record_eq_ok_iff hnode
  constructor
  · rintro ⟨c, h⟩
    obtain ⟨draft, hentries, hfinish⟩ := (hrecord ..).mp h
    obtain ⟨hfields, hreadiness, hmonit⟩ := (entries_isOk_iff hform hes).mp ⟨draft, hentries⟩
    obtain ⟨hservice, hpath, haddress⟩ := entries_tell_texts hform hes hentries
    have haccount := entries_tell_monit hform hes hentries
    obtain ⟨hs, hp, ha, hm, -⟩ := finish_eq_ok_iff.mp hfinish
    refine ⟨hfields, ⟨_, hservice.trans hs⟩, ⟨_, hpath.trans hp⟩, ⟨_, haddress.trans ha⟩,
      hreadiness, ?_⟩
    cases hgroup : o.group? "monit" with
    | none => simp [Outline.Tells, hgroup, hm] at haccount
    | some m => exact ⟨m, rfl, hmonit m hgroup⟩
  · rintro ⟨hfields, ⟨service, hs⟩, ⟨path, hp⟩, ⟨address, ha⟩, hreadiness, ⟨m, hm, hvalid⟩⟩
    obtain ⟨draft, hentries⟩ := (entries_isOk_iff (d := d) hform hes).mpr
      ⟨hfields, hreadiness, fun m' hm' => Option.some.inj (hm.symm.trans hm') ▸ hvalid⟩
    obtain ⟨hservice, hpath, haddress⟩ := entries_tell_texts hform hes hentries
    have hmonit := entries_tell_monit hform hes hentries
    rw [hm] at hmonit
    obtain ⟨account, haccount, -⟩ := hmonit
    have hfinish : finish draft
        = .ok ⟨service, path, address, draft.readiness.getD .default, account⟩ :=
      finish_eq_ok_iff.mpr ⟨hservice.symm.trans hs, hpath.symm.trans hp, haddress.symm.trans ha,
        haccount, rfl⟩
    exact ⟨_, (hrecord ..).mpr ⟨draft, hentries, hfinish⟩⟩

/-- **What is read is what the outline says.** -/
theorem describes_of_read {c : Config} (h : read d node = .ok c) : Describes o c := by
  obtain ⟨es, hes, hrecord⟩ := Document.record_eq_ok_iff hnode
  obtain ⟨draft, hentries, hfinish⟩ := (hrecord ..).mp h
  obtain ⟨hservice, hpath, haddress⟩ := entries_tell_texts hform hes hentries
  have hreadiness := entries_tell_readiness hform hes hentries
  have hmonit := entries_tell_monit hform hes hentries
  obtain ⟨hs, hp, ha, hm, hr⟩ := finish_eq_ok_iff.mp hfinish
  refine ⟨hservice.trans hs, hpath.trans hp, haddress.trans ha, ?_, ?_⟩
  · cases hgroup : o.group? "readiness" with
    | none =>
      rw [hgroup] at hreadiness
      rw [hr, hreadiness]
      rfl
    | some r =>
      rw [hgroup] at hreadiness
      obtain ⟨x, hx, hdescribes⟩ := hreadiness
      rw [hr, hx]
      exact hdescribes
  · cases hgroup : o.group? "monit" with
    | none => simp [Outline.Tells, hgroup, hm] at hmonit
    | some m =>
      rw [hgroup] at hmonit
      obtain ⟨account, haccount, hdescribes⟩ := hmonit
      obtain rfl := Option.some.inj (hm.symm.trans haccount)
      exact ⟨m, rfl, hdescribes⟩

end Read

end Sidecar.Config
