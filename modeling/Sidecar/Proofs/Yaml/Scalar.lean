import Mathlib
import Sidecar.Proofs.Peel
import Sidecar.Proofs.Yaml.Outline

/-!
# Proofs/Yaml/Scalar — the scalars of an outline, and what stands between them

A key and a number are plain scalars: the first ends at its colon (`Plain.read_key`), the second
runs on into the next line and ends where that begins (`Plain.read_number`).  A quoted text is read
piece by piece (`Quoted.read_quoted`).
-/

namespace Sidecar.Yaml

/-! ## Characters -/

/-- The characters of keys and numbers. -/
def isSimple (c : Char) : Bool := isKeyChar c || c.isDigit

/-- What keys are written with is simple. -/
theorem isSimple_of_isKeyChar {c : Char} (h : isKeyChar c) : isSimple c := by simp [isSimple, h]

theorem isSimple_of_isDigit {c : Char} (h : c.isDigit) : isSimple c := by simp [isSimple, h]

theorem ne_of_isSimple {c d : Char} (h : isSimple c) (hd : isSimple d = false) : c ≠ d := by
  rintro rfl
  simp [h] at hd

theorem isPrintable_of_ascii {c : Char} (hlow : 48 ≤ c.toNat) (hhigh : c.toNat ≤ 122) :
    isPrintable c := by
  simp only [isPrintable, Bool.or_eq_true, Bool.and_eq_true, decide_eq_true_eq]
  omega

section Simple

variable {c : Char} (h : isSimple c)

include h

theorem isSpaceOrTab_of_isSimple : isSpaceOrTab c = false := by
  have hne {d : Char} (hd : isSimple d = false) : c ≠ d := ne_of_isSimple h hd
  simp (disch := decide) [isSpaceOrTab, hne]

theorem isBreak_of_isSimple : isBreak c = false := by
  have hne {d : Char} (hd : isSimple d = false) : c ≠ d := ne_of_isSimple h hd
  simp (disch := decide) [isBreak, hne]

theorem isIndicator_of_isSimple : Scanner.isIndicator c = false := by
  have hne {d : Char} (hd : isSimple d = false) : c ≠ d := ne_of_isSimple h hd
  simp (disch := decide) [Scanner.isIndicator, hne]

theorem isPrintable_of_isSimple : isPrintable c := by
  simp only [isSimple, isKeyChar, Char.isLower, Char.isDigit, Bool.or_eq_true, Bool.and_eq_true,
    decide_eq_true_eq, UInt32.le_iff_toNat_le, ge_iff_le] at h
  rcases h with (⟨hlow, hhigh⟩ | rfl) | ⟨hlow, hhigh⟩
  · exact isPrintable_of_ascii (Nat.le_trans (by decide) hlow) hhigh
  · rfl
  · exact isPrintable_of_ascii hlow (Nat.le_trans hhigh (by decide))

theorem atDocumentMark_of_isSimple (p : Position) (rest : List Char) :
    Cursor.atDocumentMark ⟨p, c :: rest⟩ = false := by
  have hdash : c ≠ '-' := ne_of_isSimple h (by decide)
  have hdot : c ≠ '.' := ne_of_isSimple h (by decide)
  unfold Cursor.atDocumentMark
  simp only
  split <;> simp_all

end Simple

/-! ## Lines -/

/-- Lines that begin with keys. -/
def Lines.IsSimple (ls : Lines) : Prop := ∀ l ∈ ls, ∃ c more, l.2 = c :: more ∧ isSimple c

theorem Lines.length_front_le (ls : Lines) (ending : List Char) :
    (ls.front ending).length ≤ (ls.after ending).length := by
  cases ls with
  | nil => exact Nat.zero_le _
  | cons l ls =>
    simp only [front, after, List.length_cons, List.length_append]
    omega

/-- The last line may have a break behind it. -/
def IsEnding (ending : List Char) : Prop := ending = [] ∨ ending = ['\n']

/-! ## Positions -/

theorem Position.plus_next (p : Position) (n : Nat) : p.next.plus n = p.plus (n + 1) := by
  simp [Position.next, Position.plus, Nat.add_comm, Nat.add_left_comm]

/-- **Steps along a line add up.** -/
theorem Position.plus_plus (p : Position) (m n : Nat) : (p.plus m).plus n = p.plus (m + n) := by
  simp [Position.plus, Nat.add_assoc]

/-! ## Plain scalars -/

namespace Plain

/-- A scalar of which the text has been read, and nothing behind it. -/
def State.fresh (text : List Char) (stop : Position) : State := ⟨text, [], none, [], false, stop⟩

section Scan

variable (ctx : Context) (hflow : ctx.inFlow = false)

include hflow

/-- **Simple characters go into the text.** -/
theorem scan_simple {cs : List Char} (h : ∀ c ∈ cs, isSimple c) (text : List Char)
    (stop p : Position) (rest : List Char) : ∃ stop',
      scan ctx (.fresh text stop) p (cs ++ rest)
        = scan ctx (.fresh (cs.reverse ++ text) stop') (p.plus cs.length) rest := by
  induction cs generalizing text stop p with
  | nil => exact ⟨stop, rfl⟩
  | cons c cs ih =>
    obtain ⟨hc, hcs⟩ := List.forall_mem_cons.mp h
    have hcolon : c ≠ ':' := ne_of_isSimple hc (by decide)
    have hpush : (State.fresh text stop).push c p.next = .fresh (c :: text) p.next := rfl
    obtain ⟨stop', hscan⟩ := ih hcs (c :: text) p.next p.next
    refine ⟨stop', ?_⟩
    rw [List.cons_append, scan, isSpaceOrTab_of_isSimple hc, isBreak_of_isSimple hc]
    simp only [Bool.false_eq_true, if_false, isStrayColon, ends, hflow, hcolon, State.fresh,
      Bool.false_and, Bool.and_false, Bool.or_false, decide_false]
    rw [List.reverse_cons, List.append_assoc, List.length_cons, ← Position.plus_next]
    exact hscan

/-- **A key ends at its colon.** -/
theorem scan_colon {more : List Char} (hgap : atGap more) (text : List Char) (stop p : Position) :
    scan ctx (.fresh text stop) p (':' :: more) = .ok (.fresh text stop, ⟨p, ':' :: more⟩) := by
  rw [scan]
  simp [isSpaceOrTab, isBreak, isStrayColon, ends, hflow, hgap, State.fresh]

omit hflow in
/-- Spaces in front of a further line count for nothing. -/
theorem scan_spaces (text lineBreak : List Char) (stop p : Position) (n : Nat) (rest : List Char) :
    scan ctx ⟨text, [], some lineBreak, [], true, stop⟩ p (List.replicate n ' ' ++ rest)
      = scan ctx ⟨text, [], some lineBreak, [], true, stop⟩ (p.plus n) rest := by
  induction n generalizing p with
  | zero => rfl
  | succ n ih =>
    rw [List.replicate_succ, List.cons_append, scan, ← Position.plus_next]
    simpa [isSpaceOrTab, State.pushBlank] using ih p.next

/-- **A number ends where the next line begins**, if that is not further in. -/
theorem scan_after {ending : List Char} (hending : IsEnding ending) {ls : Lines}
    (hls : ls.IsSimple) (hcolumn : ∀ l ∈ ls.head?, (l.1 : Int) < ctx.indent) (text : List Char)
    (stop p : Position) : ∃ s p', scan ctx (.fresh text stop) p (ls.after ending)
        = .ok (s, ⟨p', ls.front ending⟩) ∧ s.text = text ∧
      ∀ l ∈ ls.head?, p'.column = l.1 ∧ s.firstBreak.isSome := by
  have hbreak (q : Position) (rest : List Char) : scan ctx (.fresh text stop) q ('\n' :: rest)
      = scan ctx ⟨text, [], some ['\n'], [], true, stop⟩ (q.nextLine 1) rest := by
    rw [scan]
    simp [isSpaceOrTab, isBreak, isHalfBreak, State.pushBreak, State.fresh, foldedBreak]
  cases ls with
  | nil =>
    obtain rfl | rfl := hending
    · exact ⟨_, p, rfl, rfl, by simp⟩
    · exact ⟨_, _, (hbreak p []).trans rfl, rfl, by simp⟩
  | cons l ls =>
    obtain ⟨n, line⟩ := l
    obtain ⟨c, more, rfl, hc⟩ := hls (n, line) (by simp)
    have hn : (((p.nextLine 1).plus n).column : Int) < ctx.indent := by
      simpa [Position.plus, Position.nextLine] using hcolumn (n, c :: more) (by simp)
    refine ⟨⟨text, [], some ['\n'], [], true, stop⟩, (p.nextLine 1).plus n, ?_, rfl,
      by simp [Position.plus, Position.nextLine]⟩
    rw [Lines.after, hbreak, scan_spaces, List.cons_append, scan, isSpaceOrTab_of_isSimple hc,
      isBreak_of_isSimple hc]
    simp [hflow, hn, Lines.front]

end Scan

/-- **A key is read up to its colon.** -/
theorem read_key {cs : List Char} (h : ∀ c ∈ cs, isSimple c) {more : List Char} (hgap : atGap more)
    (indent : Int) (p : Position) : ∃ token, token.kind = .scalar cs .plain ∧
      read false indent ⟨p, cs ++ ':' :: more⟩
        = .ok (token, ⟨p.plus cs.length, ':' :: more⟩, false) := by
  obtain ⟨stop, hscan⟩ := scan_simple ⟨false, indent, p⟩ rfl h [] p p (':' :: more)
  rw [scan_colon _ rfl hgap] at hscan
  refine ⟨_, ?_, by rw [read, State.start, ← State.fresh, hscan]; rfl⟩
  simp [State.fresh]

/-- **A number is read up to the next line.** -/
theorem read_number {cs : List Char} (h : ∀ c ∈ cs, isSimple c) {ending : List Char}
    (hending : IsEnding ending) {ls : Lines} (hls : ls.IsSimple) {indent : Int}
    (hcolumn : ∀ l ∈ ls.head?, (l.1 : Int) < indent) (p : Position) :
    ∃ token p' isBroken, token.kind = .scalar cs .plain ∧
      read false indent ⟨p, cs ++ ls.after ending⟩
        = .ok (token, ⟨p', ls.front ending⟩, isBroken) ∧
      ∀ l ∈ ls.head?, p'.column = l.1 ∧ isBroken := by
  obtain ⟨stop, hscan⟩ :=
    scan_simple ⟨false, indent, p⟩ rfl h [] p p (ls.after ending)
  obtain ⟨s, p', hafter, htext, hcolumn'⟩ := scan_after ⟨false, indent, p⟩ rfl hending hls hcolumn
    (cs.reverse ++ []) stop (p.plus cs.length)
  rw [hafter] at hscan
  refine ⟨_, p', s.firstBreak.isSome, ?_, by rw [read, State.start, ← State.fresh, hscan]; rfl,
    hcolumn'⟩
  simp [htext]

end Plain

/-! ## Quoted scalars -/

namespace Quoted

/-- A scalar on one line of which this text has been read, the latest character first. -/
structure State.Reads (s : State) (text : List Char) : Prop where
  mode : s.mode = .text
  firstBreak : s.firstBreak = none
  moreBreaks : s.moreBreaks = []
  text_eq : s.blanks ++ s.text = text

theorem State.reads_start : State.start.Reads [] := ⟨rfl, rfl, rfl, rfl⟩

section Reads

variable {s : State} {text : List Char} (h : s.Reads text)

include h

theorem State.Reads.closeGap : s.closeGap.text = text := by
  simp [State.closeGap, h.firstBreak, Plain.gap, h.text_eq]

/-- **A character that is pushed has been read.** -/
theorem State.Reads.push (c : Char) : (s.push c).Reads (c :: text) :=
  ⟨rfl, rfl, rfl, congrArg (c :: ·) h.closeGap⟩

theorem State.Reads.pushBlank (c : Char) : (s.pushBlank c).Reads (c :: text) := by
  have hblank : s.pushBlank c = { s with blanks := c :: s.blanks } := by
    rw [State.pushBlank, h.firstBreak]
  rw [hblank]
  exact ⟨h.mode, h.firstBreak, h.moreBreaks, congrArg (c :: ·) h.text_eq⟩

end Reads

/-! ### Escapes by code point -/

/-- One digit more of a number. -/
def digitStep (base : Nat) (value : Option Nat) (c : Char) : Option Nat := do
  let v ← value
  let d ← Text.hexValue? c
  if d < base then some (v * base + d) else none

/-- **A number is read digit by digit.** -/
theorem natural?_eq {base : Nat} {cs : List Char} (h : cs ≠ []) :
    Scalar.natural? base cs = cs.foldl (digitStep base) (some 0) := by
  rw [Scalar.natural?, if_neg (by simpa using h)]
  rfl

theorem foldl_digitStep_none (base : Nat) (cs : List Char) :
    cs.foldl (digitStep base) none = none := by
  induction cs with
  | nil => rfl
  | cons c cs ih => exact ih

/-- **A number has digits only.** -/
theorem of_foldl_digitStep {base value n : Nat} {c : Char} {cs : List Char}
    (h : (c :: cs).foldl (digitStep base) (some value) = some n) : ∃ d, Text.hexValue? c = some d ∧
      d < base ∧ cs.foldl (digitStep base) (some (value * base + d)) = some n := by
  rw [List.foldl_cons] at h
  cases hd : Text.hexValue? c with
  | none => simp [digitStep, hd, foldl_digitStep_none] at h
  | some d =>
    by_cases hlt : d < base
    · exact ⟨d, rfl, hlt, by simpa [digitStep, hd, hlt] using h⟩
    · simp [digitStep, hd, hlt, foldl_digitStep_none] at h

/-- **A code point is pushed as its character.** -/
theorem pushCodePoint_eq (s : State) (start place : Position) (c : Char) :
    s.pushCodePoint start c.toNat place = .ok (s.push c) := by
  have hvalid : c.toNat.isValidChar := c.valid
  rw [State.pushCodePoint, dif_pos hvalid]
  rfl

/-- **The digits of an escape are read to the last.** -/
theorem scan_digits (start place : Position) (s : State) {c : Char} {digits : List Char}
    {value : Nat} (hne : digits ≠ [])
    (hvalue : digits.foldl (digitStep 16) (some value) = some c.toNat) (p : Position)
    (rest : List Char) :
    scan false start { s with mode := .digits digits.length value place } p (digits ++ rest)
      = scan false start (s.push c) (p.plus digits.length) rest := by
  induction digits generalizing value p with
  | nil => exact absurd rfl hne
  | cons d digits ih =>
    obtain ⟨n, hd, -, hvalue⟩ := of_foldl_digitStep hvalue
    rw [List.cons_append, scan.eq_def]
    simp only [hd]
    cases digits with
    | nil =>
      have hn : value * 16 + n = c.toNat := Option.some.inj hvalue
      rw [hn, pushCodePoint_eq]
      rfl
    | cons d' digits =>
      have hmore : ¬ (d :: d' :: digits).length ≤ 1 := by simp
      rw [if_neg hmore, List.length_cons (a := d), ← Position.plus_next]
      exact ih (by simp) hvalue p.next

/-! ### Pieces -/

section Pieces

variable (start : Position) {s : State} {text : List Char} (h : s.Reads text) {p : Position}

include h

/-- **A character that stands for itself.** -/
theorem scan_raw (hp : p.column ≠ 0) {c : Char} (hc : isQuotable c) (rest : List Char) :
    ∃ s', s'.Reads (c :: text) ∧
      scan false start s p (c :: rest) = scan false start s' p.next rest := by
  simp only [isQuotable, Bool.and_eq_true, Bool.not_eq_true', decide_eq_true_eq] at hc
  obtain ⟨⟨⟨-, hbreak⟩, hquote⟩, hslash⟩ := hc
  have hmark : Cursor.atDocumentMark ⟨p, c :: rest⟩ = false := by simp [Cursor.atDocumentMark, hp]
  rw [scan.eq_def]
  simp only [h.mode, hmark, hbreak, hquote, hslash, Bool.false_eq_true, if_false]
  split
  · exact ⟨_, h.pushBlank c, rfl⟩
  · exact ⟨_, h.push c, rfl⟩

/-- **An escape is a letter of its own**, or begins a code of so many digits. -/
theorem scan_escape {d : Char} (hd : isBreak d = false) (rest : List Char) :
    scan false start s p ('\\' :: d :: rest) =
      match Quoted.escaped? d, digitCount? d with
      | some e, _ => scan false start (s.push e) (p.plus 2) rest
      | none, some n =>
        scan false start { s with mode := .digits n 0 (p.plus 2) } (p.plus 2) rest
      | none, none => .error (.within parsing start "found unknown escape character" p) := by
  have hmark : Cursor.atDocumentMark ⟨p, '\\' :: d :: rest⟩ = false := by
    simp [Cursor.atDocumentMark]
  have hreturn : d ≠ '\r' := by
    rintro rfl
    cases hd
  rw [scan.eq_def]
  simp only [h.mode, hmark, show isSpaceOrTab '\\' = false from rfl,
    show isBreak '\\' = false from rfl, Bool.false_eq_true, if_false, if_true,
    show ¬ '\\' = '"' by decide]
  split
  · simp_all
  · rename_i heq
    exact absurd (List.cons.inj heq).1 hreturn
  · rename_i heq
    obtain ⟨rfl, rfl⟩ := List.cons.inj heq
    rw [hd]
    rfl

/-- **A piece is read as its character.** -/
theorem scan_piece (hp : p.column ≠ 0) (piece : Piece) (rest : List Char) :
    ∃ s' n, s'.Reads (piece.char :: text) ∧
      scan false start s p (piece.chars ++ rest) = scan false start s' (p.plus n) rest := by
  cases piece with
  | raw c hc =>
    obtain ⟨s', hs', hscan⟩ := scan_raw start h hp hc rest
    exact ⟨s', 1, hs', hscan⟩
  | letter d c hd =>
    have hbreak : isBreak d = false := by
      by_contra hbreak
      simp only [isBreak, Bool.not_eq_false, Bool.or_eq_true, decide_eq_true_eq] at hbreak
      rcases hbreak with (((rfl | rfl) | rfl) | rfl) | rfl <;> simp [Quoted.escaped?] at hd
    refine ⟨s.push c, 2, h.push c, ?_⟩
    rw [Piece.chars, List.cons_append, List.cons_append, scan_escape start h hbreak]
    simp only [hd]
    rfl
  | code d digits c hd hc =>
    have hcases : d = 'x' ∨ d = 'u' ∨ d = 'U' := by
      unfold digitCount? at hd
      split_ifs at hd <;> simp_all
    have hbreak : isBreak d = false := by rcases hcases with rfl | rfl | rfl <;> rfl
    have hescaped : Quoted.escaped? d = none := by rcases hcases with rfl | rfl | rfl <;> rfl
    have hne : digits ≠ [] := by
      rintro rfl
      cases hc
    rw [natural?_eq hne] at hc
    refine ⟨s.push c, 2 + digits.length, h.push c, ?_⟩
    rw [Piece.chars, List.cons_append, List.cons_append, scan_escape start h hbreak]
    simp only [hescaped, hd]
    rw [scan_digits start (p.plus 2) s hne hc, Position.plus_plus]

/-- The closing quote ends the scalar. -/
theorem scan_quote (rest : List Char) :
    scan false start s p ('"' :: rest) = .ok (s.closeGap, ⟨p.next, rest⟩) := by
  have hmark : Cursor.atDocumentMark ⟨p, '"' :: rest⟩ = false := by simp [Cursor.atDocumentMark]
  rw [scan.eq_def]
  simp only [h.mode, hmark, show isSpaceOrTab '"' = false from rfl,
    show isBreak '"' = false from rfl, Bool.false_eq_true, if_false, if_true]

end Pieces

/-- **A text is read piece by piece**, up to the quote at its end. -/
theorem scan_pieces (start : Position) (pieces : List Piece) {s : State} {text : List Char}
    (h : s.Reads text) {p : Position} (hp : p.column ≠ 0) (rest : List Char) :
    ∃ s' p', scan false start s p (pieces.flatMap Piece.chars ++ '"' :: rest)
      = .ok (s', ⟨p', rest⟩) ∧ s'.text = (pieces.map Piece.char).reverse ++ text := by
  induction pieces generalizing s text p with
  | nil => exact ⟨_, _, scan_quote start h rest, h.closeGap⟩
  | cons piece pieces ih =>
    obtain ⟨s₁, n, h₁, hscan⟩ := scan_piece start h hp piece
      (pieces.flatMap Piece.chars ++ '"' :: rest)
    have hp' : (p.plus n).column ≠ 0 := by
      simp only [Position.plus]
      omega
    obtain ⟨s', p', hrest, htext⟩ := ih h₁ hp'
    refine ⟨s', p', ?_, by simpa using htext⟩
    rw [List.flatMap_cons, List.append_assoc, hscan, hrest]

/-- **A quoted text is read as the characters that its pieces stand for.** -/
theorem read_quoted (pieces : List Piece) (p : Position) (rest : List Char) :
    ∃ token p', token.kind = .scalar (Yaml.text pieces) .doubleQuoted ∧
      read false ⟨p, quoted pieces ++ rest⟩ = .ok (token, ⟨p', rest⟩) := by
  have hp : p.next.column ≠ 0 := Nat.succ_ne_zero _
  obtain ⟨s, p', hscan, htext⟩ := scan_pieces p pieces State.reads_start hp rest
  have hrest : quoted pieces ++ rest = '"' :: (pieces.flatMap Piece.chars ++ '"' :: rest) := by
    simp [quoted]
  refine ⟨⟨.scalar s.text.reverse .doubleQuoted, p, p'⟩, p', ?_, ?_⟩
  · simp [htext, Yaml.text]
  · rw [read, hrest, List.drop_one, List.tail_cons, hscan]
    rfl

end Quoted

/-! ## Between tokens -/

namespace Scanner

/-- **No gap stands before a simple character.** -/
theorem gap_of_simple {c : Char} (h : isSimple c ∨ c = ':' ∨ c = '"') (keyAllowed : Bool)
    (p : Position) (rest : List Char) :
    gap false keyAllowed false p (c :: rest) = (⟨p, c :: rest⟩, keyAllowed) := by
  rcases h with h | rfl | rfl
  · have hne {d : Char} (hd : isSimple d = false) : c ≠ d := ne_of_isSimple h hd
    rw [gap, isBreak_of_isSimple h]
    simp (disch := decide) [hne]
  · simp [gap, isBreak]
  · simp [gap, isBreak]

/-- **Spaces are skipped.** -/
theorem gap_spaces (keyAllowed : Bool) (p : Position) (n : Nat) (rest : List Char) :
    gap false keyAllowed false p (List.replicate n ' ' ++ rest)
      = gap false keyAllowed false (p.plus n) rest := by
  induction n generalizing p with
  | zero => rfl
  | succ n ih =>
    rw [List.replicate_succ, List.cons_append, gap, ← Position.plus_next]
    simpa [isBreak] using ih p.next

theorem gap_front {ending : List Char} {ls : Lines} (hls : ls.IsSimple) (keyAllowed : Bool)
    (p : Position) : gap false keyAllowed false p (ls.front ending)
      = (⟨p, ls.front ending⟩, keyAllowed) := by
  cases ls with
  | nil => rfl
  | cons l ls =>
    obtain ⟨n, line⟩ := l
    obtain ⟨c, more, rfl, hc⟩ := hls (n, line) (by simp)
    exact gap_of_simple (.inl hc) keyAllowed p _

/-- **Behind a line the next one begins**, and there a key may stand. -/
theorem gap_after {ending : List Char} (hending : IsEnding ending) {ls : Lines} (hls : ls.IsSimple)
    (keyAllowed : Bool) (p : Position) : ∃ p' keyAllowed',
      gap false keyAllowed false p (ls.after ending) = (⟨p', ls.front ending⟩, keyAllowed') ∧
      ∀ l ∈ ls.head?, p'.column = l.1 ∧ keyAllowed' := by
  have hbreak (rest : List Char) : gap false keyAllowed false p ('\n' :: rest)
      = gap false true false (p.nextLine 1) rest := by
    rw [gap]
    simp [isBreak, isHalfBreak]
  cases ls with
  | nil =>
    obtain rfl | rfl := hending
    · exact ⟨p, keyAllowed, rfl, by simp⟩
    · exact ⟨_, true, (hbreak []).trans rfl, by simp⟩
  | cons l ls =>
    obtain ⟨n, line⟩ := l
    obtain ⟨c, more, rfl, hc⟩ := hls (n, line) (by simp)
    refine ⟨(p.nextLine 1).plus n, true, ?_, by simp [Position.plus, Position.nextLine]⟩
    rw [Lines.after, hbreak, gap_spaces, List.cons_append, gap_of_simple (.inl hc)]
    rfl

end Scanner

end Sidecar.Yaml
