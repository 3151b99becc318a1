import Mathlib
import Sidecar.Proofs.Peel
import Sidecar.Proofs.Url.Host

/-!
# Proofs/Url/Server — the servers that addresses name

An authority is read just if it names a `Server`: a host that can be read, with a port of at most
65535 behind it or none, and with credentials before it or none.  **What follows the server changes
nothing about it** (`parseAuthority_append`), and nothing else is read (`exists_server`).
-/

namespace Sidecar.Url

/-! ## Credentials, host and port -/

theorem splitUserInfo_of_not_mem {cs : List Char} (h : '@' ∉ cs) : splitUserInfo cs = (none, cs) :=
  if_neg (by simpa using h)

/-- **The last `@` ends the credentials.** -/
theorem splitUserInfo_append (user : List Char) {after : List Char} (h : '@' ∉ after) :
    splitUserInfo (user ++ '@' :: after) = (some user, after) := by
  have hafter : ((user ++ '@' :: after).reverse.takeWhile (· ≠ '@')).reverse = after := by
    rw [List.reverse_append, List.reverse_cons, List.append_assoc,
      List.takeWhile_append_of_pos (by simpa using fun c hc => ne_of_mem_of_not_mem hc h)]
    simp
  have hcontains : (user ++ '@' :: after).contains '@' = true := by simp
  have hlength : (user ++ '@' :: after).length - after.length - 1 = user.length := by
    rw [List.length_append, List.length_cons]
    omega
  rw [splitUserInfo, if_pos hcontains]
  simp only [hafter, hlength, List.take_left]

/-- **An address has credentials before its last `@`, or none.** -/
theorem exists_last_at (cs : List Char) :
    '@' ∉ cs ∨ ∃ user after, cs = user ++ '@' :: after ∧ '@' ∉ after := by
  by_cases h : '@' ∈ cs
  · obtain ⟨front, back, hsplit, hfront⟩ := List.eq_append_cons_of_mem (List.mem_reverse.mpr h)
    refine .inr ⟨back.reverse, front.reverse, ?_, by simpa using hfront⟩
    rw [← List.reverse_reverse cs, hsplit]
    simp
  · exact .inl h

/-- What may follow a host: nothing, or a colon and a port. -/
def IsPortText (cs : List Char) : Prop := cs = [] ∨ ∃ port, cs = ':' :: port

theorem splitHost_portText {cs : List Char} (h : IsPortText cs) :
    splitHost false cs = ([], cs) := by
  rcases h with rfl | ⟨port, rfl⟩ <;> rfl

/-- **Nothing is lost where the host ends.** -/
theorem splitHost_parts (inBrackets : Bool) (cs : List Char) :
    (splitHost inBrackets cs).1 ++ (splitHost inBrackets cs).2 = cs ∧
      IsPortText (splitHost inBrackets cs).2 := by
  fun_induction splitHost inBrackets cs with
  | case1 => exact ⟨rfl, .inl rfl⟩
  | case2 inBrackets c cs hcolon =>
    obtain rfl : c = ':' := of_decide_eq_true ((Bool.and_eq_true _ _).mp hcolon).1
    exact ⟨rfl, .inr ⟨cs, rfl⟩⟩
  | case3 inBrackets c cs _ _ host rest hsplit ih =>
    rw [hsplit] at ih
    exact ⟨congrArg (c :: ·) ih.1, ih.2⟩

/-- **A colon ends a host**, unless it is in brackets. -/
theorem splitHost_plain {cs rest : List Char} (h : ∀ c ∈ cs, c ≠ ':' ∧ c ≠ '[')
    (hrest : IsPortText rest) : splitHost false (cs ++ rest) = (cs, rest) := by
  induction cs with
  | nil => exact splitHost_portText hrest
  | cons c cs ih =>
    obtain ⟨hcolon, hbracket⟩ := h c List.mem_cons_self
    simp [splitHost, hcolon, hbracket, ih fun d hd => h d (List.mem_cons_of_mem c hd)]

/-- **Within brackets a colon ends no host.** -/
theorem splitHost_inside {cs rest : List Char} (h : ∀ c ∈ cs, c ≠ ']') (hrest : IsPortText rest) :
    splitHost true (cs ++ ']' :: rest) = (cs ++ [']'], rest) := by
  induction cs with
  | nil => simp [splitHost, splitHost_portText hrest]
  | cons c cs ih =>
    have hbracket := h c List.mem_cons_self
    simp [splitHost, hbracket, ih fun d hd => h d (List.mem_cons_of_mem c hd)]

namespace Host

theorem of_endsAuthority {c : Char} (h : endsAuthority c = true ∨ c = '@') :
    isDelimiter c = true ∧ isAddressChar c = false := by
  obtain (((rfl | rfl) | rfl) | rfl) | rfl :
      (((c = '/' ∨ c = '\\') ∨ c = '?') ∨ c = '#') ∨ c = '@' := by
    simpa [endsAuthority, isSlash] using h
  all_goals decide +kernel

theorem goes_on_of_isAddressChar {c : Char} (h : isAddressChar c = true) :
    endsAuthority c = false ∧ c ≠ '@' := by
  rw [← Bool.not_eq_true, ← not_or]
  intro hends
  rw [(of_endsAuthority hends).2] at h
  cases h

namespace IsHostText

variable {cs : List Char}

/-- **The text of a host is told from the port behind it.** -/
theorem splitHost_append (h : IsHostText cs) {rest : List Char} (hrest : IsPortText rest) :
    splitHost false (cs ++ rest) = (cs, rest) := by
  cases h with
  | name hname =>
    refine splitHost_plain (fun c hc => ⟨?_, ?_⟩) hrest
    · rintro rfl
      exact absurd (hname _ hc) (by decide)
    · rintro rfl
      exact absurd (hname _ hc) (by decide)
  | @bracketed inner hinner =>
    have hinside : splitHost true (inner ++ ']' :: rest) = (inner ++ [']'], rest) := by
      refine splitHost_inside ?_ hrest
      rintro _ hc rfl
      exact absurd (hinner _ hc) (by decide)
    simp [splitHost, hinside]

/-- **No host ends the authority** or the credentials. -/
theorem goes_on (h : IsHostText cs) {c : Char} (hc : c ∈ cs) :
    endsAuthority c = false ∧ c ≠ '@' := by
  cases h with
  | name hname =>
    rw [← Bool.not_eq_true, ← not_or]
    intro hends
    exact absurd (of_endsAuthority hends).1 (Bool.eq_false_iff.mp (hname c hc))
  | @bracketed inner hinner =>
    rcases List.mem_append.mp hc with hc | hc
    · rcases List.mem_cons.mp hc with rfl | hc
      · decide
      · exact goes_on_of_isAddressChar (hinner c hc)
    · obtain rfl := List.mem_singleton.mp hc
      decide

end IsHostText

end Host

/-! ## Servers -/

/-- A server as an address names it. -/
structure Server [Idna] where
  credentials : Option (List Char)
  hostText : List Char
  host : Host
  port : Option (List Char)
  credentials_go_on : ∀ user ∈ credentials, ∀ c ∈ user, endsAuthority c = false
  host_reads : Host.parse hostText = .ok host
  port_digits : ∀ digits ∈ port, ∀ c ∈ digits, c.isDigit = true
  port_le : ∀ digits ∈ port, Nat.ofDigitChars 10 digits 0 ≤ 65535

namespace Server

variable [Idna] (w : Server)

/-- The port as it is written, with its colon. -/
def portText : List Char := (w.port.map (':' :: ·)).getD []

/-- What the server is asked through: **the port, unless it is the scheme's own.** -/
def port? (isSecure : Bool) : Option Nat :=
  let value := Nat.ofDigitChars 10 (w.port.getD []) 0
  if (w.port.getD []).isEmpty || value = defaultPort isSecure then none else some value

/-- What is written of a server between the slashes. -/
def text : List Char := (w.credentials.map (· ++ ['@'])).getD [] ++ (w.hostText ++ w.portText)

/-- The address of the server, with what follows it in the text. -/
def url (isSecure : Bool) (tail : List Char) : Url where
  isSecure
  username := Percent.encode Percent.inUserInfo ((w.credentials.getD []).takeWhile (· ≠ ':'))
  password := Percent.encode Percent.inUserInfo
    (((w.credentials.getD []).dropWhile (· ≠ ':')).drop 1)
  host := w.host
  port := w.port? isSecure
  segments := segmentsFrom [] ((splitTail tail).1.drop 1)
  query := (splitTail tail).2.1
  fragment := (splitTail tail).2.2

theorem isPortText_portText : IsPortText w.portText := by
  rw [portText]
  cases w.port with
  | none => exact .inl rfl
  | some digits => exact .inr ⟨digits, rfl⟩

/-- **A server's host holds no delimiter.** -/
theorem isHostText : Host.IsHostText w.hostText := Host.isHostText_of_parse w.host_reads

theorem hostText_ne_nil : w.hostText ≠ [] := by
  intro hnil
  have hreads := w.host_reads
  rw [hnil] at hreads
  cases hreads

theorem text_ne_nil : w.text ≠ [] := fun hnil =>
  w.hostText_ne_nil (List.append_eq_nil_iff.mp (List.append_eq_nil_iff.mp hnil).2).1

theorem goes_on_portText {c : Char} (hc : c ∈ w.portText) : endsAuthority c = false ∧ c ≠ '@' := by
  obtain ⟨digits, hdigits, hmem⟩ : ∃ digits ∈ w.port, c ∈ ':' :: digits := by
    rw [portText] at hc
    cases hport : w.port with
    | none => simp [hport] at hc
    | some digits => exact ⟨digits, rfl, by simpa [hport] using hc⟩
  rcases List.mem_cons.mp hmem with rfl | hmem
  · decide
  · exact Host.goes_on_of_isAddressChar
      (Host.isAddressChar_of_isDigit (w.port_digits digits hdigits c hmem))

/-- **A port is read as it is written.** -/
theorem parsePort_portText (isSecure : Bool) :
    parsePort isSecure (w.portText.drop 1) = .ok (w.port? isSecure) := by
  have hdigits : (w.portText.drop 1) = w.port.getD [] := by
    rw [portText]
    cases w.port <;> rfl
  have hall : (w.port.getD []).all Char.isDigit = true := by
    cases hport : w.port with
    | none => rfl
    | some digits => exact List.all_eq_true.mpr (w.port_digits digits hport)
  have hle : ¬ 65535 < Nat.ofDigitChars 10 (w.port.getD []) 0 := by
    cases hport : w.port with
    | none => decide
    | some digits => exact Nat.not_lt.mpr (w.port_le digits hport)
  rw [hdigits, parsePort, port?]
  simp only [hall, hle, Bool.not_true, decide_false, Bool.or_false, Bool.false_eq_true, if_false]
  split <;> rfl

/-- **The credentials end at the last at sign.** -/
theorem splitUserInfo_text : splitUserInfo w.text = (w.credentials, w.hostText ++ w.portText) := by
  have hat : '@' ∉ w.hostText ++ w.portText := fun hc =>
    (List.mem_append.mp hc).elim (fun hc => (w.isHostText.goes_on hc).2 rfl)
      fun hc => (w.goes_on_portText hc).2 rfl
  rw [text]
  cases w.credentials with
  | none => exact splitUserInfo_of_not_mem hat
  | some user =>
    rw [Option.map_some, Option.getD_some, List.append_assoc]
    exact splitUserInfo_append user hat

/-- **Nothing in a server's text ends it.** -/
theorem goes_on {c : Char} (hc : c ∈ w.text) : endsAuthority c = false := by
  rcases List.mem_append.mp hc with hc | hc
  · cases hcredentials : w.credentials with
    | none => simp [hcredentials] at hc
    | some user =>
      rw [hcredentials, Option.map_some, Option.getD_some] at hc
      rcases List.mem_append.mp hc with hc | hc
      · exact w.credentials_go_on user hcredentials c hc
      · obtain rfl := List.mem_singleton.mp hc
        decide
  · rcases List.mem_append.mp hc with hc | hc
    · exact (w.isHostText.goes_on hc).1
    · exact (w.goes_on_portText hc).1

/-- **A server is read, whatever follows it.** -/
theorem parseAuthority_append {tail : List Char} (h : tail.head?.all endsAuthority = true)
    (isSecure : Bool) : parseAuthority isSecure (w.text ++ tail) = .ok (w.url isSecure tail) := by
  have hgoes : ∀ c ∈ w.text, (!endsAuthority c) = true := fun c hc => by rw [w.goes_on hc]; rfl
  have htake : (w.text ++ tail).takeWhile (!endsAuthority ·) = w.text := by
    rw [List.takeWhile_append_of_pos hgoes]
    cases tail with
    | nil => simp
    | cons c tail => simpa using h
  have hdrop : (w.text ++ tail).dropWhile (!endsAuthority ·) = tail := by
    rw [List.dropWhile_append_of_pos hgoes]
    cases tail with
    | nil => rfl
    | cons c tail => simpa using h
  have hhost : splitHost false (w.hostText ++ w.portText) = (w.hostText, w.portText) :=
    w.isHostText.splitHost_append w.isPortText_portText
  simp only [parseAuthority, htake, hdrop, w.splitUserInfo_text, hhost, List.isEmpty_iff,
    w.hostText_ne_nil, if_false, w.host_reads, w.parsePort_portText]
  rfl

end Server

/-- **A port that is read is a number of 16 bits.** -/
theorem of_parsePort {isSecure : Bool} {cs : List Char} {port : Option Nat}
    (h : parsePort isSecure cs = .ok port) :
    (∀ c ∈ cs, c.isDigit = true) ∧ Nat.ofDigitChars 10 cs 0 ≤ 65535 := by
  rw [parsePort] at h
  split at h
  · cases h
  · rename_i hnumber
    simpa using hnumber

/-- **Credentials and their `@` stand before the host**, or nothing does. -/
theorem splitUserInfo_parts (cs : List Char) : ∃ credentials hostPort,
    splitUserInfo cs = (credentials, hostPort) ∧
      cs = (credentials.map (· ++ ['@'])).getD [] ++ hostPort := by
  rcases exists_last_at cs with hnone | ⟨user, after, rfl, hafter⟩
  · exact ⟨none, cs, splitUserInfo_of_not_mem hnone, rfl⟩
  · exact ⟨some user, after, splitUserInfo_append user hafter, by simp⟩

theorem IsPortText.exists_digits {cs : List Char} (h : IsPortText cs) :
    ∃ digits : Option (List Char),
      cs = (digits.map (':' :: ·)).getD [] ∧ cs.drop 1 = digits.getD [] := by
  rcases h with rfl | ⟨digits, rfl⟩
  · exact ⟨none, rfl, rfl⟩
  · exact ⟨some digits, rfl, rfl⟩

theorem all_head?_dropWhile (cs : List Char) :
    (cs.dropWhile (!endsAuthority ·)).head?.all endsAuthority = true := by
  have hhead := List.head?_dropWhile_not (!endsAuthority ·) cs
  cases htail : (cs.dropWhile (!endsAuthority ·)).head? with
  | none => rfl
  | some c => simpa [htail] using hhead

/-- **Nothing is read but a server and what follows it.** -/
theorem exists_server [Idna] {isSecure : Bool} {cs : List Char} {url : Url}
    (h : parseAuthority isSecure cs = .ok url) : ∃ (w : Server) (tail : List Char),
      cs = w.text ++ tail ∧ tail.head?.all endsAuthority = true ∧ url = w.url isSecure tail := by
  obtain ⟨credentials, hostPort, hsplit, htext⟩ :=
    splitUserInfo_parts (cs.takeWhile (!endsAuthority ·))
  obtain ⟨hhostPort, hportText⟩ := splitHost_parts false hostPort
  rcases hhost : splitHost false hostPort with ⟨hostText, portText⟩
  rw [hhost] at hhostPort hportText
  simp only [parseAuthority, hsplit, hhost] at h
  split at h
  · cases h
  simp only [bind_eq_ok_iff] at h
  obtain ⟨host, hreads, port, hport, h⟩ := h
  obtain ⟨digits, rfl, hdigits⟩ := hportText.exists_digits
  have hnumber := of_parsePort hport
  rw [hdigits] at hnumber
  have hgoes : ∀ c ∈ cs.takeWhile (!endsAuthority ·), endsAuthority c = false := fun c hc => by
    simpa using List.mem_takeWhile_imp hc
  -- the parts that were read make a server: what it asks of them is what the reader has checked
  let w : Server :=
    { credentials, hostText, host, port := digits
      credentials_go_on := by
        rintro user rfl c hc
        exact hgoes c (by simp [htext, hc])
      host_reads := hreads
      port_digits := by
        rintro digits rfl
        exact hnumber.1
      port_le := by
        rintro digits rfl
        exact hnumber.2 }
  have hw : w.text = cs.takeWhile (!endsAuthority ·) := by
    rw [htext, ← hhostPort]
    rfl
  have hport? : w.port? isSecure = port :=
    Except.ok.inj ((w.parsePort_portText isSecure).symm.trans hport)
  refine ⟨w, cs.dropWhile (!endsAuthority ·), ?_, all_head?_dropWhile cs, ?_⟩
  · rw [hw, List.takeWhile_append_dropWhile]
  · rw [← Except.ok.inj h, Server.url, hport?]

end Sidecar.Url
