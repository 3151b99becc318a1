import Mathlib
import Sidecar.Proofs.Config.Records
import Sidecar.Proofs.Config.Sound
import Sidecar.Proofs.Yaml.BrokenOff

/-!
# Proofs/Config/Form — which configuration files are accepted

A `Form` is a file that is one block mapping with an entry a line.  **It is accepted exactly when
its outline describes a configuration that can be used**, and is read as what it describes
(`Form.parse_text`); whether it is refused as malformed or for a flaw depends on nothing but the
outline either.  The order of the keys does not matter: `IsValid` and `Describes` only ask what
stands under a key.

A text whose keys are too long to be scanned breaks off, but then it holds no configuration: each of
the keys that one may have is short enough (`length_key_le`).
-/

namespace Sidecar.Config

open Yaml (Document Node Outline)
open Yaml.Outline (Content)

/-! ## Outlines without a flaw -/

/-- An outline of a configuration that can be used. -/
structure IsValid (o : Outline) : Prop extends IsReadable o where
  service_not_blank : ∀ text, o.text? "service_name" = some text → Text.isBlankText text = false
  address_not_blank : ∀ text, o.text? "galera_init_address" = some text →
    Text.isBlankText text = false
  no_scheme : ∀ text, o.text? "galera_init_address" = some text → ¬ "://".toList <:+: text.toList
  no_zero : ∀ r, o.group? "readiness" = some r → ∀ name text, r.text? name = some text →
    Duration.parse text ≠ .ok (.ofMillis 0)

section Zero

variable {given : Option String}

theorem isZero_eq_false_iff {span : Duration} (h : Outline.Tells given
    (fun text span => Duration.parse text = .ok span) (.ofSeconds 1) span) :
    span.isZero = false ↔ ∀ text, given = some text → Duration.parse text ≠ .ok (.ofMillis 0) := by
  cases given with
  | none =>
    obtain rfl : span = .ofSeconds 1 := h
    exact ⟨fun _ text htext => (nomatch htext), fun _ => rfl⟩
  | some text =>
    have hparse : Duration.parse text = .ok span := h
    simp [hparse, ← Duration.isZero_iff]

theorem any_isZero_eq_false_iff {limit : Option Duration} (h : Outline.Tells given
    (fun text limit => ∃ span, Duration.parse text = .ok span ∧ limit = some span) none limit) :
    limit.any (·.isZero) = false ↔
      ∀ text, given = some text → Duration.parse text ≠ .ok (.ofMillis 0) := by
  cases given with
  | none =>
    obtain rfl : limit = none := h
    simp
  | some text =>
    obtain ⟨span, hparse, rfl⟩ := h
    simp [hparse, ← Duration.isZero_iff]

end Zero

/-- **No setting is zero** just if none is written so. -/
theorem Readiness.no_zero_iff {r : Outline} {x : Readiness} (hvalid : IsValid r)
    (hdescribes : Describes r x) :
    (x.tickInterval.isZero = false ∧ x.probeTimeout.isZero = false ∧
      x.maxWait.any (·.isZero) = false) ↔
    ∀ name text, r.text? name = some text → Duration.parse text ≠ .ok (.ofMillis 0) := by
  rw [isZero_eq_false_iff hdescribes.tickInterval, isZero_eq_false_iff hdescribes.probeTimeout,
    any_isZero_eq_false_iff hdescribes.maxWait]
  constructor
  · rintro ⟨htick, hprobe, hmax⟩ name text h
    obtain ⟨c, hc, -⟩ := Option.bind_eq_some_iff.mp h
    have hname := hvalid.fields.known name (Outline.mem_names_of_lookup hc)
    simp only [fields, List.mem_cons, List.not_mem_nil, or_false] at hname
    obtain rfl | rfl | rfl := hname
    · exact htick text h
    · exact hprobe text h
    · exact hmax text h
  · intro h
    exact ⟨h "tick_interval", h "probe_timeout", h "max_wait"⟩

/-- **A configuration has no flaw just if its outline is valid.** -/
theorem flawless_iff {o : Outline} {c : Config} (hreadable : IsReadable o)
    (hdescribes : Describes o c) : c.flaw? = none ↔ IsValid o := by
  have hzero : (c.readiness.tickInterval.isZero = false ∧ c.readiness.probeTimeout.isZero = false ∧
      c.readiness.maxWait.any (·.isZero) = false) ↔
      ∀ r, o.group? "readiness" = some r → ∀ name text, r.text? name = some text →
        Duration.parse text ≠ .ok (.ofMillis 0) := by
    have hreadiness := hdescribes.readiness
    cases hr : o.group? "readiness" with
    | none =>
      rw [hr] at hreadiness
      have hdefault : c.readiness = .default := hreadiness
      rw [hdefault]
      exact ⟨fun _ r hr => (nomatch hr), fun _ => ⟨rfl, rfl, rfl⟩⟩
    | some r =>
      rw [hr] at hreadiness
      rw [Readiness.no_zero_iff (hreadable.readiness r hr) hreadiness]
      simp
  rw [flaw?_eq_none_iff, hzero, ← Bool.not_eq_true (Text.holds _ _), Text.holds_iff_isInfix]
  constructor
  · rintro ⟨hservice, haddress, hscheme, hzero⟩
    refine ⟨hreadable, fun text h => ?_, fun text h => ?_, fun text h => ?_, hzero⟩
    · rwa [← Option.some.inj (hdescribes.service.symm.trans h)]
    · rwa [← Option.some.inj (hdescribes.address.symm.trans h)]
    · rwa [← Option.some.inj (hdescribes.address.symm.trans h)]
  · intro h
    exact ⟨h.service_not_blank _ hdescribes.service, h.address_not_blank _ hdescribes.address,
      h.no_scheme _ hdescribes.address, h.no_zero⟩

/-! ## Keys that can be scanned -/

section Keys

variable {o : Outline} {known : List String}

/-- **Every key that is known is within reach of its colon.** -/
theorem length_le_of_mem (hknown : ∀ name ∈ known, name.length ≤ Yaml.Scanner.keyReach)
    {k : Yaml.Key} (hk : k.name ∈ known) : k.chars.length ≤ Yaml.Scanner.keyReach := by
  have hname := hknown k.name hk
  rwa [Yaml.Key.name, String.length_ofList] at hname

/-- **A mapping without mappings in it has no other keys** than its own. -/
theorem length_le_of_flat (hknown : ∀ name ∈ known, name.length ≤ Yaml.Scanner.keyReach)
    (hfields : o.HasFields known) (hflat : ∀ e ∈ o.entries, e.2.group? = none) :
    ∀ k ∈ o.allKeys, k.chars.length ≤ Yaml.Scanner.keyReach := by
  intro k hk
  obtain ⟨e, he, rfl | ⟨body, hbody, -⟩⟩ := Outline.mem_allKeys hk
  · exact length_le_of_mem hknown (hfields.mem he)
  · simp [hflat e he] at hbody

theorem length_le_of_readiness (hkind : o.HasKind Content.text? Readiness.fields)
    (h : Readiness.IsValid o) : ∀ k ∈ o.allKeys, k.chars.length ≤ Yaml.Scanner.keyReach := by
  refine length_le_of_flat (by decide) h.fields fun e he => ?_
  obtain ⟨text, htext⟩ := hkind e he (h.fields.mem he)
  exact Content.group?_eq_none_of_text htext

theorem length_le_of_account (hkind : Account.IsForm o) (h : Account.IsValid o) :
    ∀ k ∈ o.allKeys, k.chars.length ≤ Yaml.Scanner.keyReach := by
  refine length_le_of_flat (by decide) h.fields fun e he => ?_
  have hname := h.fields.mem he
  by_cases hport : e.1.name = "port"
  · obtain ⟨n, hn⟩ := hkind.number e he (by simp [hport])
    exact Content.group?_eq_none_of_number hn
  · obtain ⟨text, htext⟩ := hkind.texts e he (by simp_all [Account.fields])
    exact Content.group?_eq_none_of_text htext

/-- **The keys of a readable configuration are not too long.** -/
theorem length_key_le (hform : IsForm o) (h : IsReadable o) :
    ∀ k ∈ o.allKeys, k.chars.length ≤ Yaml.Scanner.keyReach := by
  intro k hk
  obtain ⟨e, he, rfl | ⟨body, hbody, hk⟩⟩ := Outline.mem_allKeys hk
  · exact length_le_of_mem (by decide) (h.fields.mem he)
  · have hlookup : o.lookup e.1.name = some e.2 :=
      (Outline.lookup_eq_some_iff h.fields.nodup).mpr ⟨e, he, rfl, rfl⟩
    have hgroup : o.group? e.1.name = some body := by
      rw [Outline.group?, hlookup]
      exact hbody
    by_cases hreadiness : e.1.name = "readiness"
    · obtain ⟨r, hr, hkind⟩ := hform.readiness e he hreadiness
      obtain rfl := Option.some.inj (hbody.symm.trans hr)
      exact length_le_of_readiness hkind (h.readiness body (hreadiness ▸ hgroup)) k hk
    · by_cases hmonit : e.1.name = "monit"
      · obtain ⟨m, hm, hkind⟩ := hform.monit e he hmonit
        obtain rfl := Option.some.inj (hbody.symm.trans hm)
        obtain ⟨m, hm, hvalid⟩ := h.monit
        obtain rfl := Option.some.inj ((hmonit ▸ hgroup).symm.trans hm)
        exact length_le_of_account hkind hvalid k hk
      -- The other fields hold texts, so that no mapping stands under their keys.
      · have hname := h.fields.mem he
        obtain ⟨text, htext⟩ := hform.texts e he (by simp_all [fields])
        rw [Content.group?_eq_none_of_text htext] at hbody
        cases hbody

end Keys

/-! ## Forms -/

/-- A document that is a mapping with an entry a line, `key: value`. -/
structure Form where
  outline : Outline
  /-- How far the lines of the mapping are indented. -/
  column : Nat
  /-- What stands behind the last line. -/
  ending : List Char
  isEnding : Yaml.IsEnding ending
  ne_nil : outline ≠ .nil
  isFilled : outline.IsFilled
  isForm : IsForm outline

namespace Form

/-- The text that a form is written as. -/
def text (f : Form) : String := f.outline.written f.column f.ending

variable (f : Form)

theorem shows_of_keys
    (hkeys : ∀ k ∈ f.outline.allKeys, k.chars.length ≤ Yaml.Scanner.keyReach) :
    (Document.ofText f.text).fault = none ∧ (Document.ofText f.text).isFollowed = false ∧
      Node.Shows (Document.ofText f.text).items (Content.group f.outline).items := by
  obtain ⟨placed, hdocument, hplaced⟩ :=
    Document.ofText_written f.isFilled f.ne_nil hkeys f.isEnding f.column
  rw [text, hdocument]
  exact ⟨rfl, rfl, by rw [Node.Shows, hplaced]; exact List.prefix_rfl⟩

theorem keys_of_readOnly {c : Config} (h : Document.readOnly f.text read = .ok c) :
    ∀ k ∈ f.outline.allKeys, k.chars.length ≤ Yaml.Scanner.keyReach := by
  obtain ⟨-, hfault, -⟩ := Document.readOnly_eq_ok_iff.mp h
  by_contra hlong
  exact Document.fault_written f.isFilled (by simpa using hlong) f.isEnding f.column hfault

/-- **A form is read just if its outline is readable.** -/
theorem readOnly_isOk_iff : (∃ c, Document.readOnly f.text read = .ok c) ↔
    IsReadable f.outline := by
  constructor
  · rintro ⟨c, h⟩
    obtain ⟨-, -, hshows⟩ := f.shows_of_keys (f.keys_of_readOnly h)
    exact (read_isOk_iff hshows f.isForm).mp ⟨c, (Document.readOnly_eq_ok_iff.mp h).1⟩
  · intro h
    obtain ⟨hfault, hfollowed, hshows⟩ := f.shows_of_keys (length_key_le f.isForm h)
    obtain ⟨c, hc⟩ := (read_isOk_iff (d := Document.ofText f.text) hshows f.isForm).mpr h
    exact ⟨c, Document.readOnly_eq_ok_iff.mpr ⟨hc, hfault, hfollowed⟩⟩

/-- **What is read is what the outline describes.** -/
theorem describes_of_readOnly {c : Config} (h : Document.readOnly f.text read = .ok c) :
    Describes f.outline c := by
  obtain ⟨-, -, hshows⟩ := f.shows_of_keys (f.keys_of_readOnly h)
  exact describes_of_read hshows f.isForm (Document.readOnly_eq_ok_iff.mp h).1

/-! ### A small form, with its keys in another order than usual -/

/-- A key by its name. -/
def key (name : String) (h : name.toList ≠ [] ∧ name.toList.all Yaml.isKeyChar) : Yaml.Key :=
  ⟨name.toList, h.1, List.all_eq_true.mp h.2⟩

/-- A text without escapes. -/
def raw (text : String) (h : text.toList.all Yaml.isQuotable) : List Yaml.Piece :=
  text.toList.pmap .raw (List.all_eq_true.mp h)

/-- An account whose password ends with a quotation mark. -/
def smallAccount : Outline :=
  .text (key "password" (by decide +kernel))
    (raw "s3" (by decide +kernel) ++ [.letter '"' '"' rfl]) <|
  .number (key "port" (by decide +kernel)) 65535 <|
  .text (key "username" (by decide +kernel)) (raw "admin" (by decide +kernel)) .nil

/-- What a configuration must say, the account apart. -/
def smallTexts : Outline :=
  .text (key "galera_init_address" (by decide +kernel)) (raw "[::1]:8114" (by decide +kernel)) <|
  .text (key "state_file_path" (by decide +kernel)) (raw "/tmp/state.txt" (by decide +kernel)) <|
  .text (key "service_name" (by decide +kernel)) (raw "mysql" (by decide +kernel)) .nil

/-- The least that a file has to tell. -/
def smallOutline : Outline := .group (key "monit" (by decide +kernel)) 1 smallAccount smallTexts

theorem isForm_small : IsForm smallOutline where
  texts := Outline.hasKind_iff.mpr (by decide +kernel)
  readiness e he hname := by
    have hnone : "readiness" ∉ smallOutline.names := by decide +kernel
    exact absurd (List.mem_map.mpr ⟨e, he, hname⟩) hnone
  monit e he hname := by
    have hnone : "monit" ∉ smallTexts.names := by decide +kernel
    obtain rfl | he := List.mem_cons.mp he
    · exact ⟨smallAccount, rfl, Outline.hasKind_iff.mpr (by decide +kernel),
        Outline.hasKind_iff.mpr (by decide +kernel)⟩
    · exact absurd (List.mem_map.mpr ⟨e, he, hname⟩) hnone

/-- A form that leaves everything to the defaults. -/
def small : Form where
  outline := smallOutline
  column := 0
  ending := ['\n']
  isEnding := .inr rfl
  ne_nil := nofun
  isFilled := ⟨nofun, trivial, trivial⟩
  isForm := isForm_small

/-! ### What is accepted -/

/-- A form is read as the configuration that it describes, if that can be used. -/
theorem parse_cases (path : String) :
    (∃ c, parse f.text path = .ok c ∧ IsValid f.outline ∧ Describes f.outline c) ∨
    (∃ flaw, parse f.text path = .error (.flawed flaw) ∧ IsReadable f.outline ∧
      ¬ IsValid f.outline) ∨
    ∃ e, parse f.text path = .error (.malformed path e) ∧ ¬ IsReadable f.outline := by
  cases hread : Document.readOnly f.text read with
  | error e =>
    refine .inr (.inr ⟨e, by rw [parse, hread]; rfl, fun h => ?_⟩)
    obtain ⟨c, hc⟩ := f.readOnly_isOk_iff.mpr h
    rw [hread] at hc
    cases hc
  | ok c =>
    have hreadable : IsReadable f.outline := f.readOnly_isOk_iff.mp ⟨c, hread⟩
    have hdescribes : Describes f.outline c := f.describes_of_readOnly hread
    have hflawless := flawless_iff hreadable hdescribes
    cases hflaw : c.flaw? with
    | none =>
      refine .inl ⟨c, ?_, hflawless.mp hflaw, hdescribes⟩
      rw [parse, hread]
      simp [Except.mapError, hflaw]
    | some flaw =>
      refine .inr (.inl ⟨flaw, ?_, hreadable, fun h => ?_⟩)
      · rw [parse, hread]
        simp [Except.mapError, hflaw]
      · rw [hflawless.mpr h] at hflaw
        cases hflaw

/-- **A form is accepted exactly when it describes a valid configuration**, and is read as that; it
is refused for a flaw exactly when it can be read and not be used, and as malformed exactly when it
cannot be read. -/
theorem parse_text (f : Form) (path : String) :
    ((∃ c, parse f.text path = .ok c) ↔ IsValid f.outline) ∧
    (∀ c, parse f.text path = .ok c → Describes f.outline c) ∧
    ((∃ flaw, parse f.text path = .error (.flawed flaw)) ↔
      IsReadable f.outline ∧ ¬ IsValid f.outline) ∧
    ((∃ e, parse f.text path = .error (.malformed path e)) ↔ ¬ IsReadable f.outline) := by
  obtain ⟨c, hparse, hvalid, hdescribes⟩ | ⟨flaw, hparse, hreadable, hinvalid⟩ |
    ⟨e, hparse, hunreadable⟩ := f.parse_cases path
  · simp [hparse, hvalid, hvalid.toIsReadable, hdescribes]
  · simp [hparse, hreadable, hinvalid]
  · have hinvalid : ¬ IsValid f.outline := fun h => hunreadable h.toIsReadable
    simp [hparse, hunreadable, hinvalid]

/-- **The small form is accepted.** -/
theorem small_accepted : small.text =
    "monit:\n  password: \"s3\\\"\"\n  port: 65535\n  username: \"admin\"\n"
      ++ "galera_init_address: \"[::1]:8114\"\nstate_file_path: \"/tmp/state.txt\"\n"
      ++ "service_name: \"mysql\"\n" ∧
    ∃ c, parse small.text "sidecar.yml" = .ok c := by
  have haccount : Account.IsValid smallAccount := by
    refine ⟨⟨by decide +kernel, by decide +kernel⟩, ?_, ⟨_, rfl⟩, ⟨_, rfl⟩⟩
    rintro n ⟨⟩
    exact le_rfl
  refine ⟨by decide +kernel, (parse_text small _).1.mpr ?_⟩
  exact {
    fields := ⟨by decide +kernel, by decide +kernel⟩
    service := ⟨_, rfl⟩
    statePath := ⟨_, rfl⟩
    address := ⟨_, rfl⟩
    readiness := fun r hr => (nomatch hr)
    monit := ⟨_, rfl, haccount⟩
    service_not_blank := fun text h => Option.some.inj h ▸ by decide +kernel
    address_not_blank := fun text h => Option.some.inj h ▸ by decide +kernel
    no_scheme := fun text h => Option.some.inj h ▸ by decide +kernel
    no_zero := fun r hr => (nomatch hr) }

end Form

end Sidecar.Config
