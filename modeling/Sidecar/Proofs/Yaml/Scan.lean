import Mathlib
import Sidecar.Proofs.Yaml.Scalar

/-!
# Proofs/Yaml/Scan — the scanner on lines that begin with keys

The scanner goes through an outline line by line.  Between two lines it is `Ready`, and behind a
key's colon it is `AtValue`; **each entry takes it to the next line and lets the entry's tokens go**
(`Ready.entry`).  A key whose colon is too far behind it is none, and there the scanner comes upon a
fault (`Ready.key_breaks`).
-/

namespace Sidecar.Yaml.Scanner

/-! ## Rounds -/

/-- A scanner lets tokens go and comes to another state, **in no more rounds than it reads
characters.** -/
def Yields (s : Scanner) (ts : List Token) (s' : Scanner) : Prop :=
  ∃ n, n + s'.cursor.rest.length ≤ s.cursor.rest.length ∧
    ∀ fuel, tokens (n + fuel) s = (ts ++ (tokens fuel s').1, (tokens fuel s').2)

theorem Yields.refl (s : Scanner) : s.Yields [] s := ⟨0, by simp, fun fuel => by simp⟩

/-- **Tokens are yielded one after the other.** -/
theorem Yields.trans {s₁ s₂ s₃ : Scanner} {ts ts' : List Token} (h : s₁.Yields ts s₂)
    (h' : s₂.Yields ts' s₃) : s₁.Yields (ts ++ ts') s₃ := by
  obtain ⟨n, hn, hs⟩ := h
  obtain ⟨n', hn', hs'⟩ := h'
  exact ⟨n + n', by omega, fun fuel => by rw [Nat.add_assoc, hs, hs']; simp⟩

/-- The state in which the next token is read, some of those that are held having been let go. -/
def letGo (s : Scanner) (n : Nat) : Scanner :=
  { s with held := s.held.drop n, released := s.released + n }

/-- **One round.** -/
theorem Yields.round {s s' : Scanner} {out : List Token} (hkeys : s.expireKeys = .ok s)
    (hout : s.ready s.released s.held = out) (hended : s.isEnded = false)
    (hfetch : (s.letGo out.length).fetch = .ok s')
    (hrest : s'.cursor.rest.length < s.cursor.rest.length) : s.Yields out s' := by
  refine ⟨1, by omega, fun fuel => ?_⟩
  rw [letGo] at hfetch
  rw [Nat.add_comm, tokens]
  simp only [hkeys, hout, if_neg (Bool.eq_false_iff.mp hended), hfetch]

/-- A scanner comes upon a fault, **in at most one round more than there are characters**, and what
it lets go before is no more than tokens of these kinds. -/
def Breaks (s : Scanner) (ks : List Token.Kind) : Prop :=
  ∃ n ts e, n ≤ s.cursor.rest.length + 1 ∧ (∀ fuel, tokens (n + fuel) s = (ts, some e)) ∧
    ts.map Token.kind <+: ks

/-- A scanner that breaks off later breaks off, with the tokens between. -/
theorem Yields.breaks {s s' : Scanner} {ts : List Token} {ks : List Token.Kind}
    (h : s.Yields ts s') (h' : s'.Breaks ks) : s.Breaks (ts.map Token.kind ++ ks) := by
  obtain ⟨n, hn, hs⟩ := h
  obtain ⟨n', ts', e, hn', hs', hkinds⟩ := h'
  refine ⟨n + n', ts ++ ts', e, by omega, fun fuel => by rw [Nat.add_assoc, hs, hs'], ?_⟩
  rw [List.map_append]
  exact (List.prefix_append_right_inj _).mpr hkinds

/-- **A round that ends in a fault.** -/
theorem Breaks.round {s s' : Scanner} {out : List Token} {e : SyntaxError}
    (hkeys : s.expireKeys = .ok s') (hout : s'.ready s'.released s'.held = out)
    (hended : s'.isEnded = false) (hfetch : (s'.letGo out.length).fetch = .error e) :
    s.Breaks (out.map Token.kind) := by
  refine ⟨1, out, e, by omega, fun fuel => ?_, List.prefix_rfl⟩
  rw [letGo] at hfetch
  rw [Nat.add_comm, tokens]
  simp only [hkeys, hout, if_neg (Bool.eq_false_iff.mp hended), hfetch]

/-- **A key that has become too long breaks the scan off at once.** -/
theorem Breaks.atOnce {s : Scanner} {e : SyntaxError} (hkeys : s.expireKeys = .error e)
    (ks : List Token.Kind) : s.Breaks ks := by
  refine ⟨1, [], e, by omega, fun fuel => ?_, List.nil_prefix⟩
  rw [Nat.add_comm, tokens]
  simp only [hkeys]

/-! ## Without simple keys -/

/-- No simple key may have begun, and no flow collection is open. -/
structure IsFree (s : Scanner) : Prop where
  key : s.key = none
  outerKeys : s.outerKeys = []

namespace IsFree

variable {s : Scanner} (h : s.IsFree)

include h

theorem inFlow : s.inFlow = false := by simp [Scanner.inFlow, h.outerKeys]

theorem expireKeys : s.expireKeys = .ok s := by
  obtain ⟨cursor, indent, outerIndents, keyAllowed, key, outerKeys, held, released, isEnded⟩ := s
  obtain ⟨rfl, rfl⟩ := h
  rfl

theorem dropKey : s.dropKey = .ok s := by rw [Scanner.dropKey, h.key]

/-- All tokens are ready where no key is pending. -/
theorem ready (number : Nat) (ts : List Token) : s.ready number ts = ts := by
  induction ts generalizing number with
  | nil => rfl
  | cons t ts ih => simp [Scanner.ready, mayBeginKey, h.key, h.outerKeys, ih]

/-- **One round of the scanner lets its tokens go and fetches the next ones.** -/
theorem round {s' : Scanner} (hended : s.isEnded = false)
    (hfetch : (s.letGo s.held.length).fetch = .ok s')
    (hrest : s'.cursor.rest.length < s.cursor.rest.length) : s.Yields s.held s' :=
  .round h.expireKeys (h.ready _ _) hended hfetch hrest

end IsFree

/-! ## Between tokens -/

theorem length_gap_le (inFlow keyAllowed inComment : Bool) (p : Position) (cs : List Char) :
    (gap inFlow keyAllowed inComment p cs).1.rest.length ≤ cs.length := by
  fun_induction gap inFlow keyAllowed inComment p cs with
  | case1 => exact Nat.le_refl _
  | _ => simp_all <;> omega

/-- **Blocks further in are closed**, each by a token. -/
theorem closeBlocks_append {column : Int} (p : Position) {closed : List Int}
    (hclosed : ∀ c ∈ closed, column < c) {i : Int} {rest : List Int} (hi : i ≤ column)
    {indent : Int} {outer : List Int} (hstack : indent :: outer = closed ++ i :: rest) :
    closeBlocks column p indent outer = (closed.map fun _ => ⟨.blockEnd, p, p⟩, i, rest) := by
  induction closed generalizing indent outer with
  | nil =>
    obtain ⟨rfl, rfl⟩ := List.cons.inj hstack
    cases outer with
    | nil => rfl
    | cons o outer => simp [closeBlocks, Int.not_lt.mpr hi]
  | cons c closed ih =>
    obtain ⟨rfl, houter⟩ := List.cons.inj hstack
    obtain ⟨hc, hclosed⟩ := List.forall_mem_cons.mp hclosed
    cases outer with
    | nil => simp at houter
    | cons o outer =>
      rw [closeBlocks, if_pos hc, ih hclosed houter]
      rfl

/-- **What is closed is the upper part of the stack.** -/
theorem exists_closeBlocks (column : Int) (p : Position) (indent : Int) (outer : List Int) :
    ∃ closed i rest, indent :: outer = closed ++ i :: rest ∧
      closeBlocks column p indent outer = (closed.map fun _ => ⟨.blockEnd, p, p⟩, i, rest) := by
  induction outer generalizing indent with
  | nil => exact ⟨[], indent, [], rfl, rfl⟩
  | cons o outer ih =>
    by_cases hlt : column < indent
    · obtain ⟨closed, i, rest, hstack, hclose⟩ := ih o
      exact ⟨indent :: closed, i, rest, by simp [hstack],
        by rw [closeBlocks, if_pos hlt, hclose]; rfl⟩
    · exact ⟨[], indent, o :: outer, rfl, by rw [closeBlocks, if_neg hlt]; rfl⟩

/-- The columns of open blocks, the innermost first, above the one that stands for no block. -/
def IsStack (stack : List Int) : Prop := ∃ columns : List Nat, stack = columns.map (↑) ++ [-1]

theorem IsStack.of_append {upper stack : List Int} (h : IsStack (upper ++ stack))
    (hne : stack ≠ []) : IsStack stack := by
  induction upper with
  | nil => exact h
  | cons c upper ih =>
    obtain ⟨columns, hcolumns⟩ := h
    cases columns with
    | nil =>
      obtain ⟨-, hnil⟩ := List.cons.inj hcolumns
      exact absurd (List.append_eq_nil_iff.mp hnil).2 hne
    | cons n columns => exact ih ⟨columns, (List.cons.inj hcolumns).2⟩

/-- **All blocks are further in than no block at all.** -/
theorem IsStack.closeBlocks {indent : Int} {outer : List Int} (h : IsStack (indent :: outer))
    (p : Position) : closeBlocks (-1) p indent outer
      = (outer.map fun _ => ⟨.blockEnd, p, p⟩, -1, []) := by
  obtain ⟨columns, hcolumns⟩ := h
  have hopen : ∀ c ∈ columns.map (fun n : Nat => (n : Int)), -1 < c := by
    intro c hc
    obtain ⟨n, -, rfl⟩ := List.mem_map.mp hc
    omega
  rw [closeBlocks_append p hopen le_rfl hcolumns]
  have hlength : columns.length = outer.length := by
    simpa using (congrArg List.length hcolumns).symm
  rw [List.map_const', List.map_const', List.length_map, hlength]

theorem IsStack.push {stack : List Int} (h : IsStack stack) (n : Nat) : IsStack (n :: stack) := by
  obtain ⟨columns, rfl⟩ := h
  exact ⟨n :: columns, rfl⟩

/-- The state at a token: over the gap before it, with the blocks closed that it is outside of. -/
def arrive (s : Scanner) (p : Position) (cs : List Char) (keyAllowed : Bool) (closed : List Int)
    (i : Int) (rest : List Int) : Scanner :=
  { s with
    cursor := ⟨p, cs⟩, keyAllowed, indent := i, outerIndents := rest
    held := s.held ++ closed.map fun _ => ⟨.blockEnd, p, p⟩ }

/-- **Where no key is pending, a fetch closes the deeper blocks** and takes what stands there. -/
theorem IsFree.fetch {s : Scanner} (h : s.IsFree) {p : Position} {c : Char} {cs : List Char}
    {keyAllowed : Bool}
    (hgap : gap false s.keyAllowed false s.position s.cursor.rest = (⟨p, c :: cs⟩, keyAllowed))
    {closed : List Int} (hclosed : ∀ c ∈ closed, (p.column : Int) < c) {i : Int} {rest : List Int}
    (hi : i ≤ p.column) (hstack : s.indent :: s.outerIndents = closed ++ i :: rest) :
    s.fetch = (s.arrive p (c :: cs) keyAllowed closed i rest).fetchAt c cs := by
  have hnext : s.toNextToken = { s with cursor := ⟨p, c :: cs⟩, keyAllowed } := by
    rw [toNextToken, h.inFlow, hgap]
  have hfree : IsFree { s with cursor := ⟨p, c :: cs⟩, keyAllowed } := ⟨h.key, h.outerKeys⟩
  rw [Scanner.fetch, hnext, hfree.expireKeys, ok_bind]
  simp only [unindent, hfree.inFlow, position, closeBlocks_append p hclosed hi hstack,
    Bool.false_eq_true, if_false]
  rfl

/-! ## Keys -/

/-- **A simple character begins a plain scalar.** -/
theorem fetchAt_simple {s : Scanner} {c : Char} (hc : isSimple c) {cs : List Char}
    (hcursor : s.cursor.rest = c :: cs) : s.fetchAt c cs = s.fetchPlain := by
  have hne {d : Char} (hd : isSimple d = false) : c ≠ d := ne_of_isSimple hc hd
  have hmark : s.cursor.atDocumentMark = false := by
    have := atDocumentMark_of_isSimple hc s.cursor.position cs
    rwa [← hcursor] at this
  simp (disch := decide) [fetchAt, hmark, hne, startsPlain, isSpaceTabOrBreak,
    isSpaceOrTab_of_isSimple hc, isBreak_of_isSimple hc, isIndicator_of_isSimple hc]

/-- A scanner behind what may have been a simple key, at its colon. -/
structure AtColon (s : Scanner) (ks : List Token.Kind) (k : SimpleKey) (name : List Char)
    (stack : List Int) (more : List Char) : Prop where
  key : s.key = some k
  outerKeys : s.outerKeys = []
  isEnded : s.isEnded = false
  keyAllowed : s.keyAllowed = false
  held : ∃ ends token, s.held = ends ++ [token] ∧ ends.map Token.kind = ks ∧
    token.kind = .scalar name .plain ∧ s.released + ends.length = k.token
  cursor : s.cursor = ⟨k.position.plus name.length, ':' :: more⟩
  stack : s.indent :: s.outerIndents = stack
  isStack : IsStack (s.indent :: s.outerIndents)

/-- **A key is read as a scalar**, and may turn out to be one. -/
theorem IsFree.fetchPlain_key {s : Scanner} (h : s.IsFree) (hended : s.isEnded = false)
    (hstack : IsStack (s.indent :: s.outerIndents)) (hallowed : s.keyAllowed) {name : List Char}
    (hname : ∀ c ∈ name, isSimple c)
    {more : List Char} (hmore : atGap more) (hcursor : s.cursor.rest = name ++ ':' :: more) :
    ∃ s' isRequired, s.fetchPlain = .ok s' ∧
      s'.AtColon (s.held.map Token.kind) ⟨isRequired, s.nextToken, s.position⟩ name
        (s.indent :: s.outerIndents) more := by
  obtain ⟨token, hkind, hread⟩ := Plain.read_key hname hmore (s.indent + 1) s.position
  have hcursor' : s.cursor = ⟨s.position, name ++ ':' :: more⟩ := by
    rw [← hcursor]
    rfl
  let k : SimpleKey := ⟨s.indent == (s.position.column : Int), s.nextToken, s.position⟩
  have hnote : s.noteKey = .ok { s with key := some k } := by
    rw [noteKey, if_pos hallowed, h.dropKey, h.inFlow]
    rfl
  have hflow : ({ s with key := some k } : Scanner).inFlow = false := h.inFlow
  refine ⟨{ s with
      key := some k, held := s.held ++ [token], keyAllowed := false
      cursor := ⟨s.position.plus name.length, ':' :: more⟩ }, _, ?_,
    rfl, h.outerKeys, hended, rfl, ⟨s.held, token, rfl, rfl, hkind, rfl⟩, rfl, rfl, hstack⟩
  rw [Scanner.fetchPlain, hnote, ok_bind, hflow]
  simp only [hcursor', hread]
  rfl

/-- A scanner behind a colon, in front of the key's value. -/
structure AtValue (s : Scanner) (ks : List Token.Kind) (stack : List Int) (rest : List Char) :
    Prop where
  free : s.IsFree
  isEnded : s.isEnded = false
  keyAllowed : s.keyAllowed = false
  held : s.held.map Token.kind = ks
  rest : s.cursor.rest = rest
  stack : s.indent :: s.outerIndents = stack
  isStack : IsStack (s.indent :: s.outerIndents)
  column : s.indent < s.position.column

/-- The columns of the open blocks, with one for a key in column `n`. -/
def openedAt (n : Int) : List Int → List Int
  | [] => []
  | i :: rest => if i < n then n :: i :: rest else i :: rest

/-- The token for a block that a key in column `n` opens. -/
def openings (n : Int) : List Int → List Token.Kind
  | [] => []
  | i :: _ => if i < n then [.blockMappingStart] else []

namespace AtColon

variable {s : Scanner} {ks : List Token.Kind} {k : SimpleKey} {name : List Char}
  {stack : List Int} {more : List Char} (h : s.AtColon ks k name stack more)

include h

theorem expireKeys (hreach : name.length ≤ keyReach) : s.expireKeys = .ok s := by
  have hexpire : expire s.position (some k) = .ok (some k) := by
    have hposition : s.position = k.position.plus name.length := by rw [position, h.cursor]
    rw [hposition, expire, if_neg]
    simpa [Position.plus] using hreach
  obtain ⟨cursor, indent, outerIndents, keyAllowed, key, outerKeys, held, released, isEnded⟩ := s
  obtain ⟨rfl, rfl, -⟩ := h
  rw [Scanner.expireKeys]
  simp only [hexpire]
  rfl

omit h in
/-- What stands in front of a possible key is let go. -/
theorem ready (hkey : s.key = some k) (houter : s.outerKeys = []) (ends : List Token) (t : Token)
    {number : Nat} (hnumber : number + ends.length = k.token) :
    s.ready number (ends ++ [t]) = ends := by
  induction ends generalizing number with
  | nil =>
    obtain rfl : number = k.token := hnumber
    simp [Scanner.ready, mayBeginKey, hkey, houter]
  | cons e ends ih =>
    rw [List.length_cons] at hnumber
    have hne : k.token ≠ number := by omega
    have hnext : s.ready (number + 1) (ends ++ [t]) = ends := ih (by omega)
    simp [Scanner.ready, mayBeginKey, hkey, houter, hne, hnext]

end AtColon

/-- **A further column opens a block.** -/
theorem openBlock_of_lt {s : Scanner} (hflow : s.inFlow = false) {column : Nat}
    (h : s.indent < column) (number : Nat) (kind : Token.Kind) (p : Position) :
    s.openBlock column number kind p =
      { s.insertAt number ⟨kind, p, p⟩ with
        indent := column, outerIndents := s.indent :: s.outerIndents } := by
  rw [openBlock, hflow, if_neg (by simpa using h)]

theorem openBlock_of_le {s : Scanner} {column : Nat} (h : (column : Int) ≤ s.indent) (number : Nat)
    (kind : Token.Kind) (p : Position) : s.openBlock column number kind p = s := by
  rw [openBlock, if_pos (by simp [h])]

/-- **At a colon, what was read before it turns out to be a key.** -/
theorem AtColon.fetchValue {s : Scanner} {k : SimpleKey} {name : List Char} {stack : List Int}
    {more : List Char} (h : s.AtColon [] k name stack more) (hi : s.indent ≤ k.position.column) :
    ∃ s', s.fetchValue = .ok s' ∧
      s'.AtValue (openings k.position.column stack ++ [.key, .scalar name .plain, .value])
        (openedAt k.position.column stack) more := by
  obtain ⟨ends, token, hheld, hends, hkind, hreleased⟩ := h.held
  obtain rfl : ends = [] := List.map_eq_nil_iff.mp hends
  have hflow : s.inFlow = false := by simp [inFlow, h.outerKeys]
  have hskip : s.cursor.skip 1 = ⟨k.position.plus (name.length + 1), more⟩ := by
    rw [h.cursor, Cursor.skip, Position.plus_plus]
    rfl
  have hcolumn : (s.cursor.skip 1).position.column = k.position.column + (name.length + 1) := by
    rw [hskip]
    rfl
  let keyToken : Token := ⟨.key, k.position, k.position⟩
  let valueToken : Token := ⟨.value, s.position, (s.cursor.skip 1).position⟩
  have hinsert (t : Token) (held : List Token) :
      ({ s with held } : Scanner).insertAt k.token t = { s with held := t :: held } := by
    simp [insertAt, ← hreleased]
  have hkeyed : s.insertAt k.token keyToken = { s with held := [keyToken, token] } := by
    rw [← List.nil_append [token], ← hheld]
    exact hinsert keyToken s.held
  rw [Scanner.fetchValue, h.key, ← h.stack]
  by_cases hlt : s.indent < k.position.column
  · let start : Token := ⟨.blockMappingStart, k.position, k.position⟩
    refine ⟨{ s with
        key := none, keyAllowed := false, cursor := s.cursor.skip 1
        held := [start, keyToken, token, valueToken]
        indent := k.position.column, outerIndents := s.indent :: s.outerIndents },
      ?_, ⟨rfl, h.outerKeys⟩, h.isEnded, rfl, ?_, congrArg Cursor.rest hskip, ?_,
      h.isStack.push _, ?_⟩
    · have hopen : (s.insertAt k.token keyToken).openBlock k.position.column k.token
          .blockMappingStart k.position = { s with
            held := [start, keyToken, token]
            indent := k.position.column, outerIndents := s.indent :: s.outerIndents } := by
        rw [hkeyed, openBlock_of_lt (s := { s with held := [keyToken, token] }) hflow hlt, hinsert]
      simp only [keyToken] at hopen
      simp only [hopen]
      rfl
    · simp [openings, hlt, hkind, start, keyToken, valueToken]
    · simp [openedAt, hlt]
    · simp only [position, hcolumn]
      omega
  · refine ⟨{ s with
        key := none, keyAllowed := false, cursor := s.cursor.skip 1
        held := [keyToken, token, valueToken] },
      ?_, ⟨rfl, h.outerKeys⟩, h.isEnded, rfl, ?_, congrArg Cursor.rest hskip, ?_, h.isStack, ?_⟩
    · have hopen : (s.insertAt k.token keyToken).openBlock k.position.column k.token
          .blockMappingStart k.position = { s with held := [keyToken, token] } := by
        rw [hkeyed, openBlock_of_le (s := { s with held := [keyToken, token] }) (not_lt.mp hlt)]
      simp only [keyToken] at hopen
      simp only [hopen]
      rfl
    · simp [openings, hlt, hkind, keyToken, valueToken]
    · simp [openedAt, hlt]
    · simp only [position, hcolumn]
      omega

theorem fetchAt_colon {s : Scanner} {more : List Char} (hmore : atGap more)
    (hcursor : s.cursor.rest = ':' :: more) : s.fetchAt ':' more = s.fetchValue := by
  have hmark : s.cursor.atDocumentMark = false := by simp [Cursor.atDocumentMark, hcursor]
  simp [fetchAt, hmark, hmore]

/-- **Nothing stands before a colon** that has been reached. -/
theorem fetch_colon {s : Scanner} (houter : s.outerKeys = []) (hexpire : s.expireKeys = .ok s)
    {more : List Char} (hrest : s.cursor.rest = ':' :: more) (hmore : atGap more)
    (hcolumn : s.indent ≤ s.position.column) : s.fetch = s.fetchValue := by
  have hflow : s.inFlow = false := by simp [inFlow, houter]
  have hnext : s.toNextToken = s := by
    rw [toNextToken, hflow, position, hrest, gap_of_simple (.inr (.inl rfl)), ← hrest]
  have hunindent : s.unindent s.position.column = s := by
    have hnone : ∀ c ∈ ([] : List Int), (s.position.column : Int) < c := by simp
    rw [unindent, hflow]
    simp only [closeBlocks_append s.position hnone hcolumn rfl, List.map_nil, List.append_nil,
      Bool.false_eq_true, if_false]
  rw [Scanner.fetch, hnext, hexpire, ok_bind]
  simp only [hunindent, hrest]
  exact fetchAt_colon hmore hrest

section AtColon

variable {s : Scanner} {ks : List Token.Kind} {k : SimpleKey} {name : List Char}
  {stack : List Int} {more : List Char} (h : s.AtColon ks k name stack more)
  (hi : s.indent ≤ k.position.column) (hmore : atGap more)

include h

theorem AtColon.position_eq : s.position = k.position.plus name.length := by rw [position, h.cursor]

include hi

theorem AtColon.indent_le : s.indent ≤ s.position.column := by
  rw [h.position_eq, Position.plus]
  exact Int.le_trans hi (Int.ofNat_le.mpr (Nat.le_add_right _ _))

include hmore

/-- **A key within reach of its colon is a key.** -/
theorem AtColon.yields (hreach : name.length ≤ keyReach) :
    ∃ ts s', s.Yields ts s' ∧ ts.map Token.kind = ks ∧
      s'.AtValue (openings k.position.column stack ++ [.key, .scalar name .plain, .value])
        (openedAt k.position.column stack) more := by
  obtain ⟨ends, token, hheld, hends, hkind, hreleased⟩ := h.held
  have hready := AtColon.ready h.key h.outerKeys ends token hreleased
  have hgone : (s.letGo ends.length).AtColon [] k name stack more :=
    ⟨h.key, h.outerKeys, h.isEnded, h.keyAllowed,
      ⟨[], token, by simp [letGo, hheld], rfl, hkind, hreleased⟩, h.cursor, h.stack, h.isStack⟩
  obtain ⟨s', hfetch, hvalue⟩ := hgone.fetchValue hi
  have hrest : s.cursor.rest = ':' :: more := by rw [h.cursor]
  refine ⟨ends, s', .round (h.expireKeys hreach) (hheld ▸ hready) h.isEnded ?_ ?_, hends, hvalue⟩
  · have hcolon : (s.letGo ends.length).fetch = (s.letGo ends.length).fetchValue :=
      fetch_colon h.outerKeys (hgone.expireKeys hreach) hrest hmore (h.indent_le hi)
    rw [hcolon, hfetch]
  · rw [hvalue.rest, hrest, List.length_cons]
    exact Nat.lt_succ_self _

/-- **A key that is too long is none**, and then its colon is a fault. -/
theorem AtColon.breaks (hreach : keyReach < name.length) :
    s.Breaks (ks ++ [.scalar name .plain]) := by
  obtain ⟨ends, token, hheld, hends, hkind, -⟩ := h.held
  have hfar : (decide (k.position.line < s.position.line)
      || decide (k.position.index + keyReach < s.position.index)) = true := by
    simp [h.position_eq, Position.plus, hreach]
  by_cases hrequired : k.isRequired = true
  · have hexpire : s.expireKeys = .error (missingColon k s.position) := by
      rw [Scanner.expireKeys, h.key, h.outerKeys]
      simp [expire, hfar, hrequired]
    exact .atOnce hexpire _
  · let s' : Scanner := { s with key := none }
    have hfree : s'.IsFree := ⟨rfl, h.outerKeys⟩
    have hexpire : s.expireKeys = .ok s' := by
      rw [Scanner.expireKeys, h.key, h.outerKeys]
      simp [expire, hfar, hrequired, s', h.outerKeys]
    let gone : Scanner := s'.letGo s.held.length
    have hgone : gone.IsFree := ⟨rfl, h.outerKeys⟩
    have hrest : s.cursor.rest = ':' :: more := by rw [h.cursor]
    have hfetch : gone.fetch
        = .error (.plain "mapping values are not allowed in this context" s.position) := by
      have hcolon : gone.fetch = gone.fetchValue :=
        fetch_colon h.outerKeys hgone.expireKeys hrest hmore (h.indent_le hi)
      have hkeyless : gone.key = none := rfl
      rw [hcolon, Scanner.fetchValue, hkeyless]
      simp only [openBlockHere, hgone.inFlow, Bool.false_eq_true, if_false]
      rw [if_neg (by simp [gone, letGo, s', h.keyAllowed])]
      rfl
    have hbreaks := Breaks.round hexpire (hfree.ready _ _) h.isEnded hfetch
    rwa [show s'.held = ends ++ [token] from hheld, List.map_append, hends, List.map_singleton,
      hkind] at hbreaks

end AtColon

/-! ## Between lines -/

/-- A scanner between two lines: it goes on to let go tokens of these kinds, **those for the blocks
that the next line is outside of included**, and then stands at that line, inside the blocks of a
stack. -/
structure Ready (ending : List Char) (s : Scanner) (ks : List Token.Kind) (stack : List Int)
    (ls : Lines) : Prop where
  free : s.IsFree
  isEnded : s.isEnded = false
  gap : ∃ p keyAllowed,
    gap false s.keyAllowed false s.position s.cursor.rest = (⟨p, ls.front ending⟩, keyAllowed) ∧
    ∀ l ∈ ls.head?, p.column = l.1 ∧ keyAllowed
  isStack : IsStack (s.indent :: s.outerIndents)
  closed : ∃ closed : List Int, s.indent :: s.outerIndents = closed ++ stack ∧
    ks = s.held.map Token.kind ++ closed.map (fun _ => .blockEnd) ∧
    ∀ l ∈ ls.head?, ∀ c ∈ closed, (l.1 : Int) < c

namespace Ready

variable {ending : List Char} {s : Scanner} {ks : List Token.Kind} {i : Int} {stack : List Int}
  {ls : Lines}

/-- **The next line is outside of a block that is further in.** -/
theorem close (h : Ready ending s ks (i :: stack) ls) (hi : ∀ l ∈ ls.head?, (l.1 : Int) < i) :
    Ready ending s (ks ++ [.blockEnd]) stack ls := by
  obtain ⟨closed, hstack, hks, hclosed⟩ := h.closed
  refine ⟨h.free, h.isEnded, h.gap, h.isStack, closed ++ [i], by simp [hstack], by simp [hks], ?_⟩
  intro l hl c hc
  rcases List.mem_append.mp hc with hc | hc
  · exact hclosed l hl c hc
  · obtain rfl := List.mem_singleton.mp hc
    exact hi l hl

section Key

variable {n : Nat} {name more : List Char} (hne : name ≠ []) (hname : ∀ c ∈ name, isSimple c)
  (h : Ready ending s ks (i :: stack) ((n, name ++ ':' :: more) :: ls)) (hi : i ≤ n)
  (hmore : atGap (more ++ ls.after ending))

include hne hname h hi hmore

/-- **What may be a key is read** in one round. -/
theorem read_key : ∃ s' ks' k, s.Yields s.held s' ∧
    s'.AtColon ks' k name (i :: stack) (more ++ ls.after ending) ∧ k.position.column = n ∧
    s'.indent ≤ k.position.column ∧ s.held.map Token.kind ++ ks' = ks := by
  obtain ⟨p, keyAllowed, hgap, hline⟩ := h.gap
  obtain ⟨closed, hstack, hks, hclosed⟩ := h.closed
  obtain ⟨hcolumn, hallowed⟩ := hline (n, name ++ ':' :: more) rfl
  simp only at hcolumn
  have hclosed' := hclosed (n, name ++ ':' :: more) rfl
  have hfront : Lines.front ending ((n, name ++ ':' :: more) :: ls)
      = name ++ ':' :: (more ++ ls.after ending) := by simp [Lines.front]
  rw [hfront] at hgap
  obtain ⟨c, name', rfl⟩ := List.exists_cons_of_ne_nil hne
  let arrived := (s.letGo s.held.length).arrive p (c :: name' ++ ':' :: (more ++ ls.after ending))
    keyAllowed closed i stack
  have hfetch : (s.letGo s.held.length).fetch = arrived.fetchPlain := by
    have hfree : (s.letGo s.held.length).IsFree := ⟨h.free.key, h.free.outerKeys⟩
    rw [hfree.fetch hgap (hcolumn ▸ hclosed') (hcolumn ▸ hi) hstack]
    exact fetchAt_simple (hname c (by simp)) rfl
  have hfree : arrived.IsFree := ⟨h.free.key, h.free.outerKeys⟩
  obtain ⟨s', isRequired, hplain, hcolon⟩ :=
    hfree.fetchPlain_key h.isEnded (.of_append (hstack ▸ h.isStack) (by simp)) hallowed hname hmore
      rfl
  have hindent : s'.indent ≤ p.column := by
    obtain ⟨hi', -⟩ := List.cons.inj hcolon.stack
    rw [hi', hcolumn]
    exact hi
  have hshorter : s'.cursor.rest.length < s.cursor.rest.length := by
    have hlength := length_gap_le false s.keyAllowed false s.position s.cursor.rest
    rw [hgap] at hlength
    rw [hcolon.cursor]
    simp only [List.cons_append, List.length_cons, List.length_append] at hlength ⊢
    omega
  refine ⟨s', _, _, h.free.round h.isEnded (hfetch.trans hplain) hshorter, hcolon, hcolumn, hindent,
    ?_⟩
  rw [hks]
  simp [arrived, arrive, letGo]

/-- **A key is read up to its colon**, and opens a block if it is further in than the last. -/
theorem key_line (hreach : name.length ≤ keyReach) : ∃ ts s' ks', s.Yields ts s' ∧
    s'.AtValue ks' (openedAt n (i :: stack)) (more ++ ls.after ending) ∧
    ts.map Token.kind ++ ks'
      = ks ++ (openings n (i :: stack) ++ [.key, .scalar name .plain, .value]) := by
  obtain ⟨s₁, ks₁, k, hread, hcolon, rfl, hindent, rfl⟩ := h.read_key hne hname hi hmore
  obtain ⟨ts, s', hyields, rfl, hvalue⟩ := hcolon.yields hindent hmore hreach
  refine ⟨s.held ++ ts, s', _, hread.trans hyields, hvalue, ?_⟩
  rw [List.map_append, List.append_assoc]

/-- **A key out of reach of its colon breaks the scan off.** -/
theorem key_breaks (hreach : keyReach < name.length) : s.Breaks (ks ++ [.scalar name .plain]) := by
  obtain ⟨s₁, ks₁, k, hread, hcolon, -, hindent, rfl⟩ := h.read_key hne hname hi hmore
  rw [List.append_assoc]
  exact hread.breaks (hcolon.breaks hindent hmore hreach)

end Key

end Ready

/-! ## Values -/

theorem fetchAt_quote {s : Scanner} {cs : List Char} (hcursor : s.cursor.rest = '"' :: cs) :
    s.fetchAt '"' cs = s.fetchInline (Quoted.read false) := by
  have hmark : s.cursor.atDocumentMark = false := by simp [Cursor.atDocumentMark, hcursor]
  simp [fetchAt, hmark]

theorem noteKey_of_not_allowed {s : Scanner} (h : s.keyAllowed = false) : s.noteKey = .ok s := by
  rw [noteKey, if_neg (by simp [h])]

namespace AtValue

variable {ending : List Char} {s : Scanner} {ks : List Token.Kind} {stack : List Int} {ls : Lines}

/-- **A value stands behind a space**, and no key begins with it. -/
theorem fetch {c : Char} (hc : isSimple c ∨ c = ':' ∨ c = '"') {cs : List Char}
    (h : s.AtValue ks stack (' ' :: c :: cs)) : (s.letGo s.held.length).fetch
      = ((s.letGo s.held.length).arrive (s.position.plus 1) (c :: cs) false [] s.indent
          s.outerIndents).fetchAt c cs := by
  have hfree : (s.letGo s.held.length).IsFree := ⟨h.free.key, h.free.outerKeys⟩
  have hgap : gap false s.keyAllowed false s.position s.cursor.rest
      = (⟨s.position.plus 1, c :: cs⟩, false) := by
    rw [h.rest, h.keyAllowed]
    exact (gap_spaces false s.position 1 (c :: cs)).trans (gap_of_simple hc false _ cs)
  have hi : s.indent ≤ (s.position.plus 1).column := by
    have := h.column
    simp only [Position.plus]
    omega
  exact hfree.fetch hgap (by simp) hi rfl

/-- **A quoted text is one token.** -/
theorem text_line (hending : IsEnding ending) (hls : ls.IsSimple) (v : List Piece)
    (h : s.AtValue ks stack (' ' :: (quoted v ++ ls.after ending))) : ∃ s', s.Yields s.held s' ∧
      Ready ending s' [.scalar (Yaml.text v) .doubleQuoted] stack ls := by
  obtain ⟨token, p', hkind, hread⟩ := Quoted.read_quoted v (s.position.plus 1) (ls.after ending)
  rw [quoted, List.cons_append] at h hread
  let arrived := (s.letGo s.held.length).arrive (s.position.plus 1)
    ('"' :: (v.flatMap Piece.chars ++ ['"'] ++ ls.after ending)) false [] s.indent s.outerIndents
  obtain ⟨p'', keyAllowed, hgap, hline⟩ := gap_after hending hls false p'
  have hfetch : (s.letGo s.held.length).fetch = .ok { arrived with
      cursor := ⟨p', ls.after ending⟩, held := [token] } := by
    rw [h.fetch (.inr (.inr rfl)), fetchAt_quote rfl, fetchInline, noteKey_of_not_allowed rfl,
      ok_bind]
    simp only [arrive]
    rw [hread]
    simp [push, letGo, arrived, arrive]
  refine ⟨_, h.free.round h.isEnded hfetch ?_, ⟨h.free.key, h.free.outerKeys⟩, h.isEnded,
    ⟨p'', keyAllowed, hgap, hline⟩, h.isStack, [], h.stack, by simp [hkind], by simp⟩
  rw [h.rest]
  simp only [List.length_cons, List.length_append]
  omega

/-- **A number is one token**, and the next line has been reached when it is read. -/
theorem number_line (hending : IsEnding ending) (hls : ls.IsSimple) {digits : List Char}
    (hne : digits ≠ []) (hdigits : ∀ c ∈ digits, isSimple c) {i : Int}
    (hcolumn : ∀ l ∈ ls.head?, (l.1 : Int) ≤ i)
    (h : s.AtValue ks (i :: stack) (' ' :: (digits ++ ls.after ending))) :
    ∃ s', s.Yields s.held s' ∧ Ready ending s' [.scalar digits .plain] (i :: stack) ls := by
  obtain ⟨hi, houter⟩ := List.cons.inj h.stack
  have hcolumn' : ∀ l ∈ ls.head?, (l.1 : Int) < s.indent + 1 := by
    intro l hl
    have := hcolumn l hl
    omega
  obtain ⟨token, p', isBroken, hkind, hread, hline⟩ :=
    Plain.read_number hdigits hending hls hcolumn' (s.position.plus 1)
  obtain ⟨c, digits', rfl⟩ := List.exists_cons_of_ne_nil hne
  rw [List.cons_append] at h hread
  let arrived := (s.letGo s.held.length).arrive (s.position.plus 1)
    (c :: (digits' ++ ls.after ending)) false [] s.indent s.outerIndents
  have hflow : arrived.inFlow = false := h.free.inFlow
  have hfetch : (s.letGo s.held.length).fetch = .ok { arrived with
      cursor := ⟨p', ls.front ending⟩, held := [token], keyAllowed := isBroken } := by
    have hc := hdigits c (by simp)
    rw [h.fetch (.inl hc), fetchAt_simple hc rfl, fetchPlain, noteKey_of_not_allowed rfl, ok_bind,
      hflow]
    simp only [arrive, letGo]
    rw [hread]
    simp [push, letGo, arrived, arrive]
  refine ⟨_, h.free.round h.isEnded hfetch ?_, ⟨h.free.key, h.free.outerKeys⟩, h.isEnded,
    ⟨p', isBroken, gap_front hls isBroken p', hline⟩, h.isStack, [], h.stack, by simp [hkind],
    by simp⟩
  have hlength := ls.length_front_le ending
  rw [h.rest]
  simp only [List.length_cons, List.length_append]
  omega

/-- **Behind a colon at the end of its line the scanner is between lines.** -/
theorem ready (hending : IsEnding ending) (hls : ls.IsSimple)
    (h : s.AtValue ks stack (ls.after ending)) : Ready ending s ks stack ls := by
  obtain ⟨p', keyAllowed, hgap, hline⟩ := gap_after hending hls s.keyAllowed s.position
  exact ⟨h.free, h.isEnded, ⟨p', keyAllowed, h.rest ▸ hgap, hline⟩, h.isStack, [], h.stack,
    by simp [h.held], by simp⟩

end AtValue

/-! ## The end -/

/-- **At the end all blocks are closed.** -/
theorem IsFree.fetchEnd {s : Scanner} (h : s.IsFree)
    (hstack : IsStack (s.indent :: s.outerIndents)) : ∃ s', s.fetchEnd = .ok s' ∧ s'.IsFree ∧
      s'.isEnded = true ∧
      s'.held.map Token.kind = s.held.map Token.kind
        ++ List.replicate s.outerIndents.length .blockEnd ++ [.streamEnd] := by
  have hflow (cursor : Cursor) : ({ s with cursor } : Scanner).inFlow = false := h.inFlow
  have hfree (cursor : Cursor) (indent : Int) (outerIndents : List Int) (held : List Token) :
      ({ s with cursor, indent, outerIndents, held } : Scanner).IsFree := ⟨h.key, h.outerKeys⟩
  rw [Scanner.fetchEnd]
  simp only [unindent, hflow, Bool.false_eq_true, if_false, hstack.closeBlocks,
    (hfree _ _ _ _).dropKey, ok_bind]
  refine ⟨_, rfl, ⟨h.key, h.outerKeys⟩, rfl, ?_⟩
  simp [push, List.map_const']

/-- **At the end all blocks are closed.** -/
theorem Ready.fetch_end {ending : List Char} {s : Scanner} {ks : List Token.Kind} {stack : List Int}
    (h : Ready ending s ks stack []) : ∃ s', (s.letGo s.held.length).fetch = .ok s' ∧ s'.IsFree ∧
      s'.isEnded = true ∧
      s'.held.map Token.kind = List.replicate s.outerIndents.length .blockEnd ++ [.streamEnd] := by
  obtain ⟨p, keyAllowed, hgap, -⟩ := h.gap
  obtain ⟨closed, i, rest, hstack, hclose⟩ :=
    exists_closeBlocks p.column p s.indent s.outerIndents
  let reached : Scanner := { s.letGo s.held.length with cursor := ⟨p, []⟩, keyAllowed }
  have hfree : reached.IsFree := ⟨h.free.key, h.free.outerKeys⟩
  have hnext : (s.letGo s.held.length).toNextToken = reached := by
    have hflow : (s.letGo s.held.length).inFlow = false := h.free.inFlow
    rw [toNextToken, hflow]
    simp only [letGo, position] at hgap ⊢
    rw [hgap]
    rfl
  let s₁ : Scanner := { reached with
    held := closed.map fun _ => ⟨.blockEnd, p, p⟩, indent := i, outerIndents := rest }
  have hunindent : reached.unindent p.column = s₁ := by
    rw [unindent, hfree.inFlow]
    simp [reached, letGo, position, hclose, s₁]
  obtain ⟨s', hend, hfree', hended, hheld⟩ := IsFree.fetchEnd (s := s₁)
    ⟨h.free.key, h.free.outerKeys⟩ (.of_append (hstack ▸ h.isStack) (by simp))
  refine ⟨s', ?_, hfree', hended, ?_⟩
  · rw [Scanner.fetch, hnext, hfree.expireKeys, ok_bind]
    simp only [show reached.position.column = p.column from rfl, hunindent]
    exact hend
  · have hlength : s.outerIndents.length = closed.length + rest.length := by
      have := congrArg List.length hstack
      simp only [List.length_cons, List.length_append] at this
      omega
    rw [hheld, hlength, List.replicate_add]
    simp [s₁, List.map_const']

/-- **The last tokens close all blocks and end the stream.** -/
theorem Ready.finish {ending : List Char} {s : Scanner} {ks : List Token.Kind} {i : Int}
    {stack : List Int} (h : Ready ending s ks (i :: stack) []) (fuel : Nat) :
    ∃ ts, tokens (fuel + 2) s = (ts, none) ∧
      ts.map Token.kind = ks ++ List.replicate stack.length .blockEnd ++ [.streamEnd] := by
  obtain ⟨s', hfetch, hfree, hended, hheld⟩ := h.fetch_end
  obtain ⟨closed, hstack, hks, -⟩ := h.closed
  rw [letGo] at hfetch
  refine ⟨s.held ++ s'.held, ?_, ?_⟩
  · have hlast : tokens (fuel + 1) s' = (s'.held, none) := by
      rw [tokens]
      simp only [hfree.expireKeys, hfree.ready, hended, if_true]
    rw [tokens]
    simp only [h.free.expireKeys, h.free.ready, if_neg (Bool.eq_false_iff.mp h.isEnded), hfetch,
      hlast]
  · have hlength : s.outerIndents.length = closed.length + stack.length := by
      have := congrArg List.length hstack
      simp only [List.length_cons, List.length_append] at this
      omega
    rw [List.map_append, hheld, hks, hlength, List.replicate_add]
    simp [List.map_const']

/-! ## Outlines -/

/-- A scanner goes on to let go tokens of these kinds and to stand at a line, inside the blocks of a
stack. -/
def Leads (ending : List Char) (s : Scanner) (ks : List Token.Kind) (stack : List Int)
    (ls : Lines) : Prop :=
  ∃ ts s' ks', s.Yields ts s' ∧ Ready ending s' ks' stack ls ∧ ts.map Token.kind ++ ks' = ks

section Leads

variable {ending : List Char} {s : Scanner} {ks more : List Token.Kind} {i : Int}
  {stack stack' : List Int} {ls ls' : Lines}

theorem Ready.leads (h : Ready ending s ks stack ls) : Leads ending s ks stack ls :=
  ⟨[], s, ks, .refl s, h, rfl⟩

/-- **What leads on from every state between two lines leads on from this one.** -/
theorem Leads.bind (h : Leads ending s ks stack ls)
    (hnext : ∀ {s ks}, Ready ending s ks stack ls → Leads ending s (ks ++ more) stack' ls') :
    Leads ending s (ks ++ more) stack' ls' := by
  obtain ⟨ts, s₁, ks₁, hyields, hready, rfl⟩ := h
  obtain ⟨ts', s₂, ks₂, hyields', hready', hks⟩ := hnext hready
  refine ⟨ts ++ ts', s₂, ks₂, hyields.trans hyields', hready', ?_⟩
  rw [List.map_append, List.append_assoc, hks, List.append_assoc]

/-- A line that is indented less closes the block before it. -/
theorem Leads.close (h : Leads ending s ks (i :: stack) ls)
    (hi : ∀ l ∈ ls.head?, (l.1 : Int) < i) : Leads ending s (ks ++ [.blockEnd]) stack ls :=
  h.bind fun hready => (hready.close hi).leads

/-- **An entry is read**: its key, and its value by what leads on from the colon. -/
theorem Ready.entry (key : Key) (kinds : List Token.Kind) {n : Nat} {value : List Char}
    (h : Ready ending s ks (i :: stack) ((n, key.chars ++ ':' :: value) :: ls)) (hi : i ≤ n)
    (hreach : key.chars.length ≤ keyReach) (hgap : atGap (value ++ ls.after ending))
    (hvalue : ∀ {s ks}, s.AtValue ks (openedAt n (i :: stack)) (value ++ ls.after ending) →
      Leads ending s (ks ++ kinds) (openedAt n (i :: stack)) ls') :
    Leads ending s (ks ++ (openings n (i :: stack)
      ++ ([.key, .scalar key.chars .plain, .value] ++ kinds))) (openedAt n (i :: stack)) ls' := by
  obtain ⟨ts, s₁, ks₁, hyields, hat, hks⟩ := h.key_line key.ne_nil
    (fun c hc => isSimple_of_isKeyChar (key.isKeyChar c hc)) hi hgap hreach
  obtain ⟨ts', s₂, ks₂, hyields', hready, hks'⟩ := hvalue hat
  refine ⟨ts ++ ts', s₂, ks₂, hyields.trans hyields', hready, ?_⟩
  rw [List.map_append, List.append_assoc, hks', ← List.append_assoc, hks]
  simp

end Leads

end Sidecar.Yaml.Scanner
