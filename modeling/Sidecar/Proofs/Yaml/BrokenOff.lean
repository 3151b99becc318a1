import Mathlib
import Sidecar.Proofs.Yaml.Items

/-!
# Proofs/Yaml/BrokenOff — keys that are too long

A key that is longer than a simple key may be is none, and the scanner comes upon a fault where its
colon stands.  The tokens before that do not end the outline's mapping, nor the events the document:
**the document has a fault** (`Document.fault_written`).
-/

namespace Sidecar.Yaml

/-! ## Tokens that do not end a mapping -/

/-- The tokens of an entry that is no mapping. -/
def isEntryPart : Token.Kind → Bool
  | .key => true
  | .value => true
  | .scalar _ _ => true
  | _ => false

/-- Tokens inside of `depth` mappings, **the outermost of which they do not end.** -/
def IsInside : Nat → List Token.Kind → Prop
  | _, [] => True
  | depth, .blockMappingStart :: ks => IsInside (depth + 1) ks
  | depth, .blockEnd :: ks => 1 < depth ∧ IsInside (depth - 1) ks
  | depth, k :: ks => isEntryPart k ∧ IsInside depth ks

theorem IsInside.mono {depth depth' : Nat} {ks : List Token.Kind} (h : IsInside depth ks)
    (hle : depth ≤ depth') : IsInside depth' ks := by
  fun_induction IsInside depth ks generalizing depth' with
  | case1 => trivial
  | case2 depth ks ih => exact ih h (Nat.add_le_add_right hle 1)
  | case3 depth ks ih => exact ⟨by omega, ih h.2 (by omega)⟩
  | case4 depth k ks hstart hend ih =>
    rw [IsInside.eq_4 _ _ _ hstart hend]
    exact ⟨h.1, ih h.2 hle⟩

theorem IsInside.of_append {depth : Nat} {ks ks' : List Token.Kind}
    (h : IsInside depth (ks ++ ks')) : IsInside depth ks := by
  fun_induction IsInside depth ks with
  | case1 => trivial
  | case2 depth ks ih => exact ih h
  | case3 depth ks ih => exact ⟨h.1, ih h.2⟩
  | case4 depth k ks hstart hend ih =>
    rw [List.cons_append, IsInside.eq_4 _ _ _ hstart hend] at h
    exact ⟨h.1, ih h.2⟩

/-- **An outline ends the mappings that it begins.** -/
theorem isInside_kinds (o : Outline) {depth : Nat} (hdepth : 0 < depth) {ks : List Token.Kind}
    (h : IsInside depth ks) : IsInside depth (o.kinds ++ ks) := by
  induction o generalizing depth ks with
  | nil => exact h
  | text key value rest ih =>
    simpa [Outline.kinds, IsInside, isEntryPart] using ih hdepth h
  | number key n rest ih =>
    simpa [Outline.kinds, IsInside, isEntryPart] using ih hdepth h
  | group key step body rest ihBody ihRest =>
    have hbody : IsInside (depth + 1) (body.kinds ++ .blockEnd :: (rest.kinds ++ ks)) :=
      ihBody (Nat.succ_pos _) ⟨by omega, ihRest hdepth h⟩
    simpa [Outline.kinds, IsInside, isEntryPart] using hbody

/-- Tokens that begin a mapping and do not end it, or no more than a scalar. -/
def IsInterrupted (opening tail : List Token.Kind) : Prop :=
  (∃ name, tail = [.scalar name .plain]) ∨ ∃ ks, tail = opening ++ ks ∧ IsInside 1 ks

/-- **A mapping that breaks off is left open.** -/
theorem IsInterrupted.isInside {opening tail : List Token.Kind} (h : IsInterrupted opening tail)
    (hopening : opening = [] ∨ opening = [.blockMappingStart]) : IsInside 1 tail := by
  obtain ⟨name, rfl⟩ | ⟨ks, rfl, hks⟩ := h
  · exact ⟨rfl, trivial⟩
  · obtain rfl | rfl := hopening
    · exact hks
    · exact hks.mono (Nat.le_succ 1)

/-! ## The scanner -/

namespace Scanner

theorem openings_cases (n i : Int) (stack : List Int) :
    openings n (i :: stack) = [] ∨ openings n (i :: stack) = [.blockMappingStart] := by
  rw [openings]
  split
  · exact .inr rfl
  · exact .inl rfl

variable {ending : List Char} {s : Scanner} {ks : List Token.Kind} {n : Nat} {i : Int}
  {stack : List Int} {ls : Lines}

/-- A scanner comes upon a fault inside of the mapping that it is in. -/
def BreaksInside (s : Scanner) (ks : List Token.Kind) : Prop :=
  ∃ tail, s.Breaks (ks ++ tail) ∧ IsInside 1 tail

theorem BreaksInside.of_interrupted
    (h : ∃ tail, s.Breaks (ks ++ tail) ∧ IsInterrupted (openings n (i :: stack)) tail) :
    s.BreaksInside ks := by
  obtain ⟨tail, hbreaks, htail⟩ := h
  exact ⟨tail, hbreaks, htail.isInside (openings_cases _ _ _)⟩

/-- **A fault behind what is read** is a fault. -/
theorem Leads.breaks {more : List Token.Kind} (h : Leads ending s (ks ++ more) stack ls)
    (hmore : ∀ tail, IsInside 1 tail → IsInside 1 (more ++ tail))
    (hnext : ∀ {s ks}, Ready ending s ks stack ls → s.BreaksInside ks) : s.BreaksInside ks := by
  obtain ⟨ts, s', ks', hyields, hready, hks⟩ := h
  obtain ⟨tail, hbreaks, htail⟩ := hnext hready
  refine ⟨more ++ tail, ?_, hmore tail htail⟩
  have hall := hyields.breaks hbreaks
  rwa [← List.append_assoc, hks, List.append_assoc] at hall

/-- **An entry breaks off** at its key, or behind its colon. -/
theorem Ready.entry_breaks (key : Key) {value : List Char}
    (h : Ready ending s ks (i :: stack) ((n, key.chars ++ ':' :: value) :: ls)) (hi : i ≤ n)
    (hgap : atGap (value ++ ls.after ending))
    (hvalue : key.chars.length ≤ keyReach → ∀ {s : Scanner} {ks stack},
      s.AtValue ks (n :: stack) (value ++ ls.after ending) → s.BreaksInside ks) :
    ∃ tail, s.Breaks (ks ++ tail) ∧ IsInterrupted (openings n (i :: stack)) tail := by
  have hname : ∀ c ∈ key.chars, isSimple c := fun c hc =>
    isSimple_of_isKeyChar (key.isKeyChar c hc)
  -- Either the key is read and the fault is behind its colon, or the fault is its own.
  by_cases hreach : key.chars.length ≤ keyReach
  · obtain ⟨ts, s', ks', hyields, hat, hks⟩ := h.key_line key.ne_nil hname hi hgap hreach
    obtain ⟨outer, houter⟩ := exists_openedAt hi stack
    obtain ⟨tail, hbreaks, htail⟩ := hvalue hreach (houter ▸ hat)
    refine ⟨openings n (i :: stack) ++ ([.key, .scalar key.chars .plain, .value] ++ tail), ?_,
      .inr ⟨_, rfl, by simpa [IsInside, isEntryPart] using htail⟩⟩
    have hall := hyields.breaks hbreaks
    rw [← List.append_assoc, hks] at hall
    simpa using hall
  · exact ⟨_, h.key_breaks key.ne_nil hname hi hgap (not_le.mp hreach), .inl ⟨_, rfl⟩⟩

section Outline

variable (hending : IsEnding ending) {o : Outline} (hls : ls.IsSimple)
  (hcolumn : ∀ l ∈ ls.head?, l.1 ≤ n) (hfilled : o.IsFilled)

include hending hls hcolumn hfilled

/-- **A key that is too long breaks the outline off**, inside of it. -/
theorem Ready.outline_breaks (hlong : ∃ k ∈ o.allKeys, keyReach < k.chars.length) (hi : i ≤ n)
    (h : Ready ending s ks (i :: stack) (o.lines n ++ ls)) :
    ∃ tail, s.Breaks (ks ++ tail) ∧ IsInterrupted (openings n (i :: stack)) tail := by
  induction o generalizing n ls i s ks stack with
  | nil => simp [Outline.allKeys] at hlong
  | text key value rest ih =>
    refine h.entry_breaks key hi rfl fun hreach _ _ _ hat => ?_
    have hrest : ∃ k ∈ rest.allKeys, keyReach < k.chars.length := by
      simpa [Outline.allKeys, not_lt.mpr hreach] using hlong
    exact (hat.leads_text hending ((rest.isSimple_lines n).append hls) value).breaks
      (fun tail htail => ⟨rfl, htail⟩)
      fun hready => .of_interrupted (ih hls hcolumn hfilled hrest le_rfl hready)
  | number key m rest ih =>
    refine h.entry_breaks key hi rfl fun hreach _ _ _ hat => ?_
    have hrest : ∃ k ∈ rest.allKeys, keyReach < k.chars.length := by
      simpa [Outline.allKeys, not_lt.mpr hreach] using hlong
    exact (hat.leads_number hending ((rest.isSimple_lines n).append hls) m
      (Outline.column_of_head hcolumn)).breaks (fun tail htail => ⟨rfl, htail⟩)
      fun hready => .of_interrupted (ih hls hcolumn hfilled hrest le_rfl hready)
  | group key step body rest ihBody ihRest =>
    obtain ⟨hbody, hfilledBody, hfilledRest⟩ := hfilled
    have hrest := (rest.isSimple_lines n).append hls
    have hcolumnRest := Outline.column_of_head hcolumn (o := rest)
    have hnear : ∀ l ∈ (rest.lines n ++ ls).head?, l.1 ≤ n + step + 1 := fun l hl =>
      Nat.le_trans (hcolumnRest l hl) (by omega)
    rw [Outline.lines_group] at h
    refine h.entry_breaks key hi (atGap_after hending _) fun hreach _ _ _ hat => ?_
    by_cases hlongBody : ∃ k ∈ body.allKeys, keyReach < k.chars.length
    · exact .of_interrupted (ihBody hrest hnear hfilledBody hlongBody (by omega)
        (hat.ready hending ((body.isSimple_lines _).append hrest)))
    · have hkeysBody : ∀ k ∈ body.allKeys, k.chars.length ≤ keyReach := by
        simpa using hlongBody
      have hlongRest : ∃ k ∈ rest.allKeys, keyReach < k.chars.length := by
        obtain ⟨k, hk, hlong⟩ := hlong
        rcases List.mem_cons.mp hk with rfl | hk
        · omega
        · rcases List.mem_append.mp hk with hk | hk
          · exact absurd hlong (not_lt.mpr (hkeysBody k hk))
          · exact ⟨k, hk, hlong⟩
      have hinside (tail : List Token.Kind) (htail : IsInside 1 tail) :
          IsInside 1 (.blockMappingStart :: (body.kinds ++ [.blockEnd]) ++ tail) := by
        have hbody : IsInside 2 (body.kinds ++ .blockEnd :: tail) :=
          isInside_kinds body Nat.two_pos ⟨Nat.one_lt_two, htail⟩
        simpa [IsInside] using hbody
      exact (hat.leads_group hending hrest hcolumnRest (Ready.outline hending hrest hnear
        hfilledBody hkeysBody (by omega) (.inr hbody))).breaks hinside
        fun hready => .of_interrupted (ihRest hls hcolumn hfilledRest hlongRest le_rfl hready)

end Outline

end Scanner

/-- Tokens that begin a mapping, or a scalar, and end no document. -/
def IsPending (ks : List Token.Kind) : Prop :=
  ks = [] ∨ (∃ name, ks = [.scalar name .plain]) ∨
    ∃ ks', ks = .blockMappingStart :: ks' ∧ IsInside 1 ks'

/-- What is pending is a key alone, or a mapping that is still open. -/
theorem IsPending.cases {k : Token.Kind} {ks : List Token.Kind} (h : IsPending (k :: ks)) :
    (k = .blockMappingStart ∧ IsInside 1 ks) ∨ ∃ name, k = .scalar name .plain ∧ ks = [] := by
  obtain h | ⟨name, h⟩ | ⟨ks', h, hinside⟩ := h
  · cases h
  · exact .inr ⟨name, List.cons.inj h⟩
  · obtain ⟨rfl, rfl⟩ := List.cons.inj h
    exact .inl ⟨rfl, hinside⟩

/-- **Where a mapping breaks off, it is pending.** -/
theorem IsInterrupted.isPending {tail ks : List Token.Kind}
    (h : IsInterrupted [.blockMappingStart] tail) (hks : ks <+: tail) : IsPending ks := by
  obtain ⟨more, rfl⟩ := hks
  obtain ⟨name, hname⟩ | ⟨inner, hinner, hinside⟩ := h
  · cases ks with
    | nil => exact .inl rfl
    | cons k ks =>
      obtain ⟨rfl, hnil⟩ := List.cons.inj hname
      obtain ⟨rfl, -⟩ := List.append_eq_nil_iff.mp hnil
      exact .inr (.inl ⟨name, rfl⟩)
  · cases ks with
    | nil => exact .inl rfl
    | cons k ks =>
      obtain ⟨rfl, rfl⟩ := List.cons.inj hinner
      exact .inr (.inr ⟨ks, rfl, hinside.of_append⟩)

open Scanner in
/-- **A text with too long a key is scanned up to a fault.** -/
theorem Outline.scan_breaks {o : Outline} (hfilled : o.IsFilled)
    (hlong : ∃ k ∈ o.allKeys, keyReach < k.chars.length) {ending : List Char}
    (hending : IsEnding ending) (column : Nat) :
    ∃ ts e, Token.scan (o.written column ending) = (ts, some e) ∧
      IsPending (ts.map Token.kind).tail := by
  obtain ⟨s, hready, hscan⟩ := Scanner.scan_written o column hending
  obtain ⟨tail, ⟨n, ts, e, hn, htokens, hkinds⟩, htail⟩ :=
    hready.outline_breaks hending Lines.isSimple_nil (by simp) hfilled hlong (by omega)
  rw [openings_outermost] at htail
  obtain ⟨fuel, hfuel⟩ := Nat.exists_eq_add_of_le
    (Nat.le_trans hn (by omega : _ ≤ s.cursor.rest.length + 3))
  refine ⟨ts, e, by rw [hscan, hfuel, htokens], ?_⟩
  cases ts with
  | nil => exact .inl rfl
  | cons first rest => exact htail.isPending (List.cons_prefix_cons.mp hkinds).2

/-! ## The reader -/

/-- Whether an event ends a document or the stream. -/
def Event.IsEnd (e : Event) : Prop := e.kind = .documentEnd ∨ e.kind = .streamEnd

namespace Reader

/-- Where the next entry of a block mapping goes on. -/
def IsMappingPhase (phase : Phase) : Prop := phase = .blockMappingKey ∨ phase = .blockMappingValue

/-- A reader in a document that the tokens to come do not end: its phase, the phases around, and the
tokens. -/
inductive IsOpen : Phase → List Phase → List Token.Kind → Prop
  | streamStart {ks} : IsPending ks.tail → IsOpen .streamStart [] ks
  | document {ks} : IsPending ks → IsOpen (.document true) [] ks
  | node {ks} : IsPending ks → IsOpen .blockNode [.documentEnd] ks
  | documentEnd : IsOpen .documentEnd [] []
  | first {outer ks} : (∀ p ∈ outer, IsMappingPhase p) → IsInside (outer.length + 1) ks →
      IsOpen .blockMappingFirst (outer ++ [.documentEnd]) (.blockMappingStart :: ks)
  | inside {phase outer ks} : (∀ p ∈ phase :: outer, IsMappingPhase p) →
      IsInside (outer.length + 1) ks → IsOpen phase (outer ++ [.documentEnd]) ks

/-- What a step of such a reader comes to, if anything. -/
def StaysOpen (step : Step) : Prop :=
  ∀ e r', step = .ok (e, r') → ¬ e.IsEnd ∧ IsOpen r'.phase r'.outer (r'.tokens.map Token.kind)

theorem peek_eq_ok_iff {r : Reader} {t : Token} :
    r.peek = .ok t ↔ ∃ rest, r.tokens = t :: rest := by
  unfold peek
  split <;> simp_all

/-- **Inside of a mapping, what ends no pair begins a node.** -/
theorem IsInside.node {depth : Nat} {k : Token.Kind} {ks : List Token.Kind}
    (h : IsInside depth (k :: ks)) (hk : ¬ endsPair k) :
    (k = .blockMappingStart ∧ IsInside (depth + 1) ks) ∨
      ∃ text style, k = .scalar text style ∧ IsInside depth ks := by
  cases k with
  | blockMappingStart => exact .inl ⟨rfl, h⟩
  | scalar text style => exact .inr ⟨text, style, rfl, h.2⟩
  | _ => simp_all [IsInside, isEntryPart, endsPair]

section Inside

variable {r : Reader} {outer : List Phase} (houter : r.outer = outer ++ [.documentEnd])
  (hphases : ∀ p ∈ outer, IsMappingPhase p)

include houter hphases

/-- A value may open a mapping, but closes none. -/
theorem staysOpen_nodeUnless {phase : Phase} (hphase : IsMappingPhase phase)
    (hinside : IsInside (outer.length + 1) (r.tokens.map Token.kind)) (empty : Position) :
    StaysOpen (r.nodeUnless endsPair phase true true empty) := by
  intro e r' h
  obtain ⟨t, hpeek, h⟩ := bind_eq_ok_iff.mp h
  obtain ⟨rest, htokens⟩ := peek_eq_ok_iff.mp hpeek
  have hall : ∀ p ∈ phase :: outer, IsMappingPhase p := List.forall_mem_cons.mpr ⟨hphase, hphases⟩
  split at h
  · obtain ⟨rfl, rfl⟩ := Prod.mk.inj (Except.ok.inj h)
    refine ⟨by simp [Event.IsEnd, emptyScalar], ?_⟩
    have hopen := IsOpen.inside hall hinside
    rwa [← houter] at hopen
  · rename_i hends
    rw [htokens, List.map_cons] at hinside
    obtain ⟨ht, hrest⟩ | ⟨text, style, ht, hrest⟩ := IsInside.node hinside hends
    · rw [node_mapping (r.returnTo phase) rest ht htokens] at h
      obtain ⟨rfl, rfl⟩ := Prod.mk.inj (Except.ok.inj h)
      have hopen := IsOpen.first hall hrest
      refine ⟨by simp [Event.IsEnd], ?_⟩
      simpa [go, returnTo, htokens, ht, houter] using hopen
    · rw [node_scalar (r.returnTo phase) rest ht htokens] at h
      obtain ⟨rfl, rfl⟩ := Prod.mk.inj (Except.ok.inj h)
      have hopen := IsOpen.inside hall hrest
      refine ⟨by simp [Event.IsEnd], ?_⟩
      simpa [skip, leave, returnTo, htokens, houter] using hopen

/-- **A key leaves its mapping open**, whether it stands there or is left out. -/
theorem staysOpen_blockMappingKey
    (hinside : IsInside (outer.length + 1) (r.tokens.map Token.kind)) :
    StaysOpen r.blockMappingKey := by
  intro e r' h
  obtain ⟨t, hpeek, h⟩ := bind_eq_ok_iff.mp h
  obtain ⟨rest, htokens⟩ := peek_eq_ok_iff.mp hpeek
  rw [htokens, List.map_cons] at hinside
  have hskip : r.skip.tokens = rest := by simp [skip, htokens]
  split at h
  · rename_i ht
    rw [ht] at hinside
    exact staysOpen_nodeUnless (r := r.skip) houter hphases (.inr rfl) (hskip ▸ hinside.2) t.stop e
      r' h
  · rename_i ht
    rw [ht] at hinside
    obtain ⟨hdepth, hrest⟩ := hinside
    obtain ⟨rfl, rfl⟩ := Prod.mk.inj (Except.ok.inj h)
    refine ⟨by simp [Event.IsEnd], ?_⟩
    cases outer with
    | nil => simp at hdepth
    | cons phase outer =>
      have hopen := IsOpen.inside hphases hrest
      simpa [close, leave, skip, houter, htokens] using hopen
  · cases h

/-- **A value leaves its mapping open.** -/
theorem staysOpen_blockMappingValue
    (hinside : IsInside (outer.length + 1) (r.tokens.map Token.kind)) :
    StaysOpen r.blockMappingValue := by
  intro e r' h
  obtain ⟨t, hpeek, h⟩ := bind_eq_ok_iff.mp h
  obtain ⟨rest, htokens⟩ := peek_eq_ok_iff.mp hpeek
  have hskip : r.skip.tokens = rest := by simp [skip, htokens]
  split at h
  · rename_i ht
    rw [htokens, List.map_cons, ht] at hinside
    exact staysOpen_nodeUnless (r := r.skip) houter hphases (.inl rfl) (hskip ▸ hinside.2) t.stop e
      r' h
  · obtain ⟨rfl, rfl⟩ := Prod.mk.inj (Except.ok.inj h)
    refine ⟨by simp [Event.IsEnd, emptyScalar], ?_⟩
    have hall : ∀ p ∈ .blockMappingKey :: outer, IsMappingPhase p :=
      List.forall_mem_cons.mpr ⟨.inl rfl, hphases⟩
    have hopen := IsOpen.inside hall hinside
    rwa [← houter] at hopen

end Inside

/-- **No step ends the document.** -/
theorem IsOpen.next {r : Reader} (h : IsOpen r.phase r.outer (r.tokens.map Token.kind)) :
    StaysOpen r.next := by
  obtain ⟨tokens, fault, phase, outer, starts, handles⟩ := r
  generalize hks : tokens.map Token.kind = ks at h
  intro e r' hnext
  cases h with
  | streamStart hpending =>
    obtain ⟨t, hpeek, hnext⟩ := bind_eq_ok_iff.mp hnext
    obtain ⟨rest, rfl⟩ := peek_eq_ok_iff.mp hpeek
    obtain ⟨rfl, rfl⟩ := Prod.mk.inj (Except.ok.inj hnext)
    subst hks
    exact ⟨by simp [Event.IsEnd], .document hpending⟩
  | document hpending =>
    obtain ⟨t, hpeek, -⟩ := bind_eq_ok_iff.mp hnext
    obtain ⟨rest, rfl⟩ := peek_eq_ok_iff.mp hpeek
    subst hks
    have hdocument : (⟨t :: rest, fault, .document true, [], starts, handles⟩ : Reader).next
        = .ok (⟨.documentStart, t.start⟩,
            ⟨t :: rest, fault, .blockNode, [.documentEnd], starts, standardHandles⟩) := by
      obtain ⟨ht, -⟩ | ⟨name, ht, -⟩ := hpending.cases <;>
        simp [Reader.next, Reader.document, peek, ht, isDirective, returnTo, go]
    obtain ⟨rfl, rfl⟩ := Prod.mk.inj (Except.ok.inj (hdocument.symm.trans hnext))
    exact ⟨by simp [Event.IsEnd], .node hpending⟩
  | node hpending =>
    obtain ⟨t, hpeek, -⟩ := bind_eq_ok_iff.mp hnext
    obtain ⟨rest, rfl⟩ := peek_eq_ok_iff.mp hpeek
    subst hks
    obtain ⟨ht, hinside⟩ | ⟨name, ht, hrest⟩ := hpending.cases
    · have hnode := (node_mapping _ rest ht rfl false).symm.trans hnext
      obtain ⟨rfl, rfl⟩ := Prod.mk.inj (Except.ok.inj hnode)
      have hopen : IsOpen .blockMappingFirst ([] ++ [.documentEnd])
          (.blockMappingStart :: rest.map Token.kind) := .first (by simp) hinside
      refine ⟨by simp [Event.IsEnd], ?_⟩
      rw [go, List.map_cons, ht]
      exact hopen
    · have hnode := (node_scalar _ rest ht rfl false).symm.trans hnext
      obtain ⟨rfl, rfl⟩ := Prod.mk.inj (Except.ok.inj hnode)
      obtain rfl := List.map_eq_nil_iff.mp hrest
      exact ⟨by simp [Event.IsEnd], .documentEnd⟩
  | documentEnd =>
    obtain ⟨t, hpeek, -⟩ := bind_eq_ok_iff.mp hnext
    obtain ⟨rest, rfl⟩ := peek_eq_ok_iff.mp hpeek
    cases hks
  | first hphases hinside =>
    obtain ⟨r', henter, hnext⟩ := bind_eq_ok_iff.mp hnext
    obtain ⟨t, hpeek, henter⟩ := bind_eq_ok_iff.mp henter
    obtain ⟨rest, rfl⟩ := peek_eq_ok_iff.mp hpeek
    obtain rfl := Except.ok.inj henter
    obtain ⟨-, rfl⟩ := List.cons.inj hks
    exact staysOpen_blockMappingKey rfl hphases hinside e _ hnext
  | inside hall hinside =>
    subst hks
    obtain ⟨hphase, hphases⟩ := List.forall_mem_cons.mp hall
    obtain rfl | rfl := hphase
    · exact staysOpen_blockMappingKey rfl hphases hinside e r' hnext
    · exact staysOpen_blockMappingValue rfl hphases hinside e r' hnext

/-- **Nor do all steps together.** -/
theorem IsOpen.events {r : Reader} (h : IsOpen r.phase r.outer (r.tokens.map Token.kind))
    (fuel : Nat) : ∀ e ∈ (r.events fuel).1, ¬ e.IsEnd := by
  induction fuel generalizing r with
  | zero => simp [Reader.events]
  | succ fuel ih =>
    rw [Reader.events]
    split
    · simp
    · rename_i e r' hnext
      obtain ⟨he, hopen⟩ := h.next e r' hnext
      rw [if_neg fun hend => he (.inr hend)]
      exact List.forall_mem_cons.mpr ⟨he, ih hopen⟩

end Reader

/-- **A document that is not ended has a fault.** -/
theorem Document.fault_build {es : List Event} (h : ∀ e ∈ es, ¬ e.IsEnd)
    (fault : Option SyntaxError) (b : Builder) : (build fault b es).fault ≠ none := by
  induction es generalizing b with
  | nil => simp [build, Builder.finish]
  | cons e es ih =>
    obtain ⟨he, hes⟩ := List.forall_mem_cons.mp h
    obtain ⟨kind, p⟩ := e
    cases kind with
    | streamEnd => exact absurd (.inr rfl) he
    | documentEnd => exact absurd (.inl rfl) he
    | «alias» name =>
      rw [build]
      split
      · exact ih hes _
      · simp [Builder.finish]
    | _ => exact ih hes _

/-- **A text with too long a key is no whole document.** -/
theorem Document.fault_written {o : Outline} (hfilled : o.IsFilled)
    (hlong : ∃ k ∈ o.allKeys, Scanner.keyReach < k.chars.length) {ending : List Char}
    (hending : IsEnding ending) (column : Nat) :
    (ofText (o.written column ending)).fault ≠ none := by
  obtain ⟨ts, e, hscan, hpending⟩ := o.scan_breaks hfilled hlong hending column
  let r : Reader := ⟨ts, some e, .streamStart, [], [], []⟩
  have hopen : Reader.IsOpen r.phase r.outer (r.tokens.map Token.kind) := .streamStart hpending
  have hdocument : ofText (o.written column ending)
      = build (r.events (4 * ts.length + 4)).2 .empty (r.events (4 * ts.length + 4)).1 := by
    rw [ofText, Event.parse, Reader.start, hscan]
  rw [hdocument]
  exact fault_build (hopen.events _) _ _

end Sidecar.Yaml
