import Mathlib
import Sidecar.Proofs.Yaml.Scan

/-!
# Proofs/Yaml/Tokens — the tokens of an outline's text

**The text of an outline is scanned into the outline's tokens** (`Outline.scan_written`), if its
keys are short enough to be looked back to.  `Ready.outline` is the induction: from in front of an
outline's first line the scanner comes in front of the first line behind it, whatever mappings it
has opened and closed on the way.  No character of such a text is one that the scanner forbids
(`Cursor.ofText_written`).
-/

namespace Sidecar.Yaml

/-! ## The lines of an outline -/

theorem Key.isSimple_line (k : Key) (more : List Char) :
    ∃ c rest, k.chars ++ more = c :: rest ∧ isSimple c := by
  obtain ⟨c, rest, hk⟩ := List.exists_cons_of_ne_nil k.ne_nil
  have hc : isSimple c := isSimple_of_isKeyChar (k.isKeyChar c (by simp [hk]))
  exact ⟨c, rest ++ more, by rw [hk, List.cons_append], hc⟩

theorem Lines.isSimple_nil : IsSimple [] := by
  intro l hl
  cases hl

theorem Lines.IsSimple.append {ls ls' : Lines} (h : ls.IsSimple) (h' : ls'.IsSimple) :
    IsSimple (ls ++ ls') := by
  intro l hl
  rcases List.mem_append.mp hl with hl | hl
  · exact h l hl
  · exact h' l hl

theorem Lines.IsSimple.cons {ls : Lines} (k : Key) (n : Nat) (more : List Char) (h : ls.IsSimple) :
    IsSimple ((n, k.chars ++ more) :: ls) := by
  intro l hl
  rcases List.mem_cons.mp hl with rfl | hl
  · exact k.isSimple_line more
  · exact h l hl

/-- **The lines of an outline begin with simple characters.** -/
theorem Outline.isSimple_lines (o : Outline) (n : Nat) : (o.lines n).IsSimple := by
  induction o generalizing n with
  | nil => exact Lines.isSimple_nil
  | text key value rest ih => exact (ih n).cons key n _
  | number key m rest ih => exact (ih n).cons key n _
  | group key step body rest ihBody ihRest =>
    exact ((ihBody (n + step + 1)).append (ihRest n)).cons key n _

/-- **The lines of an outline begin in its column.** -/
theorem Outline.column_of_head {o : Outline} {n : Nat} {ls : Lines}
    (h : ∀ l ∈ ls.head?, l.1 ≤ n) : ∀ l ∈ (o.lines n ++ ls).head?, l.1 ≤ n := by
  cases o with
  | nil => exact h
  | _ =>
    rintro l ⟨⟩
    exact Nat.le_refl n

theorem Outline.lines_group (key : Key) (step : Nat) (body rest : Outline) (n : Nat) (ls : Lines) :
    (Outline.group key step body rest).lines n ++ ls
      = (n, key.chars ++ ':' :: []) :: (body.lines (n + step + 1) ++ (rest.lines n ++ ls)) := by
  simp [lines]

theorem Outline.kinds_group (key : Key) (step : Nat) (body rest : Outline) :
    (Outline.group key step body rest).kinds = [.key, .scalar key.chars .plain, .value]
      ++ (.blockMappingStart :: (body.kinds ++ [.blockEnd])) ++ rest.kinds := by
  simp [kinds]

namespace Scanner

theorem openedAt_self (n : Int) (stack : List Int) : openedAt n (n :: stack) = n :: stack := by
  simp [openedAt]

theorem openings_self (n : Int) (stack : List Int) : openings n (n :: stack) = [] := by
  simp [openings]

/-- **A group's column is opened on top of its key's.** -/
theorem openedAt_further (n step : Nat) (stack : List Int) :
    openedAt ((n + step + 1 : Nat) : Int) (n :: stack)
      = ((n + step + 1 : Nat) : Int) :: n :: stack := if_pos (by omega)

theorem openings_further (n step : Nat) (stack : List Int) :
    openings ((n + step + 1 : Nat) : Int) (n :: stack) = [.blockMappingStart] :=
  if_pos (by omega)

theorem openedAt_outermost (n : Nat) : openedAt n [-1] = [(n : Int), -1] := by
  rw [openedAt, if_pos (by omega)]

theorem openings_outermost (n : Nat) : openings n [-1] = [.blockMappingStart] := by
  rw [openings, if_pos (by omega)]

theorem exists_openedAt {n i : Int} (hi : i ≤ n) (stack : List Int) :
    ∃ outer, openedAt n (i :: stack) = n :: outer := by
  rcases hi.lt_or_eq with hlt | rfl
  · exact ⟨i :: stack, by simp [openedAt, hlt]⟩
  · exact ⟨stack, openedAt_self i stack⟩

/-- **After a line there is a gap**, or the end. -/
theorem atGap_after {ending : List Char} (hending : IsEnding ending) (ls : Lines) :
    atGap (ls.after ending) := by
  cases ls with
  | nil => obtain rfl | rfl := hending <;> rfl
  | cons l ls => rfl

variable {ending : List Char} {s : Scanner} {ks : List Token.Kind} {n : Nat} {i : Int}
  {stack : List Int} {ls : Lines}

/-! ## Values -/

section Values

variable (hending : IsEnding ending) (hls : ls.IsSimple)

include hending hls

/-- **A text is one token**, after which the lines go on. -/
theorem AtValue.leads_text (v : List Piece)
    (h : s.AtValue ks stack (' ' :: quoted v ++ ls.after ending)) :
    Leads ending s (ks ++ [.scalar (text v) .doubleQuoted]) stack ls := by
  obtain ⟨s', hyields, hready⟩ := h.text_line hending hls v
  exact ⟨_, s', _, hyields, hready, by rw [h.held]⟩

/-- **A number is one token**, after which the lines go on. -/
theorem AtValue.leads_number (m : Nat) (hcolumn : ∀ l ∈ ls.head?, l.1 ≤ n)
    (h : s.AtValue ks (n :: stack) (' ' :: decimal m ++ ls.after ending)) :
    Leads ending s (ks ++ [.scalar (decimal m) .plain]) (n :: stack) ls := by
  have hdigits : ∀ c ∈ decimal m, isSimple c := fun c hc =>
    isSimple_of_isDigit (isDigit_of_mem_decimal hc)
  obtain ⟨s', hyields, hready⟩ := h.number_line hending hls (decimal_ne_nil m) hdigits
    fun l hl => Int.ofNat_le.mpr (hcolumn l hl)
  exact ⟨_, s', _, hyields, hready, by rw [h.held]⟩

/-- **A mapping is read up to where the lines behind it begin**, if its entries are. -/
theorem AtValue.leads_group {body : Outline} {step : Nat} (hcolumn : ∀ l ∈ ls.head?, l.1 ≤ n)
    (hbody : ∀ {s ks stack}, Ready ending s ks (n :: stack) (body.lines (n + step + 1) ++ ls) →
      Leads ending s (ks ++ (openings (n + step + 1 : Nat) (n :: stack) ++ body.kinds))
        (openedAt (n + step + 1 : Nat) (n :: stack)) ls)
    (h : s.AtValue ks (n :: stack) ([] ++ (body.lines (n + step + 1) ++ ls).after ending)) :
    Leads ending s (ks ++ (.blockMappingStart :: (body.kinds ++ [.blockEnd]))) (n :: stack) ls := by
  have hleads := hbody (h.ready hending ((body.isSimple_lines _).append hls))
  rw [openedAt_further, openings_further] at hleads
  simpa using hleads.close fun l hl => Int.ofNat_lt.mpr
    (Nat.lt_of_le_of_lt (hcolumn l hl) (by omega))

end Values

/-! ## Outlines that are read -/

/-- **An entry is read and then the lines behind it**, all in one column. -/
theorem Ready.entry_rest (key : Key) (kinds : List Token.Kind) {value : List Char}
    {after : Lines} {rest : Outline}
    (h : Ready ending s ks (i :: stack) ((n, key.chars ++ ':' :: value) :: after)) (hi : i ≤ n)
    (hreach : key.chars.length ≤ keyReach) (hgap : atGap (value ++ after.after ending))
    (hvalue : ∀ {s ks stack}, s.AtValue ks (n :: stack) (value ++ after.after ending) →
      Leads ending s (ks ++ kinds) (n :: stack) (rest.lines n ++ ls))
    (hrest : ∀ {s ks stack}, Ready ending s ks (n :: stack) (rest.lines n ++ ls) →
      Leads ending s (ks ++ (openings n (n :: stack) ++ rest.kinds)) (openedAt n (n :: stack)) ls) :
    Leads ending s (ks ++ (openings n (i :: stack)
        ++ ([.key, .scalar key.chars .plain, .value] ++ kinds ++ rest.kinds)))
      (openedAt n (i :: stack)) ls := by
  obtain ⟨outer, houter⟩ := exists_openedAt hi stack
  have hentry := h.entry key kinds hi hreach hgap (houter ▸ hvalue)
  rw [houter] at hentry ⊢
  have hleads := hentry.bind fun hready => openedAt_self n outer ▸ hrest hready
  rw [openings_self] at hleads
  simpa using hleads

section Outline

variable (hending : IsEnding ending) (hls : ls.IsSimple) (hcolumn : ∀ l ∈ ls.head?, l.1 ≤ n)

include hending hls hcolumn

/-- **The lines of an outline are read as its tokens.** -/
theorem Ready.outline {o : Outline} (hfilled : o.IsFilled)
    (hkeys : ∀ k ∈ o.allKeys, k.chars.length ≤ keyReach) (hi : i ≤ n) (hne : i = n ∨ o ≠ .nil)
    (h : Ready ending s ks (i :: stack) (o.lines n ++ ls)) :
    Leads ending s (ks ++ (openings n (i :: stack) ++ o.kinds)) (openedAt n (i :: stack)) ls := by
  induction o generalizing n ls i s ks stack with
  | nil =>
    obtain rfl : i = n := by simpa using hne
    rw [openings_self, openedAt_self]
    simpa [Outline.kinds, Outline.lines] using h.leads
  | text key value rest ih =>
    obtain ⟨hkey, hkeys⟩ := List.forall_mem_cons.mp hkeys
    have hrest := (rest.isSimple_lines n).append hls
    exact h.entry_rest key [.scalar (text value) .doubleQuoted] hi hkey rfl
      (·.leads_text hending hrest value) (ih hls hcolumn hfilled hkeys le_rfl (.inl rfl))
  | number key m rest ih =>
    obtain ⟨hkey, hkeys⟩ := List.forall_mem_cons.mp hkeys
    have hrest := (rest.isSimple_lines n).append hls
    exact h.entry_rest key [.scalar (decimal m) .plain] hi hkey rfl
      (·.leads_number hending hrest m (Outline.column_of_head hcolumn))
      (ih hls hcolumn hfilled hkeys le_rfl (.inl rfl))
  | group key step body rest ihBody ihRest =>
    obtain ⟨hbody, hfilledBody, hfilledRest⟩ := hfilled
    obtain ⟨hkey, hkeys⟩ := List.forall_mem_cons.mp hkeys
    obtain ⟨hkeysBody, hkeysRest⟩ := List.forall_mem_append.mp hkeys
    have hrest := (rest.isSimple_lines n).append hls
    have hcolumnRest := Outline.column_of_head hcolumn (o := rest)
    rw [Outline.lines_group] at h
    rw [Outline.kinds_group]
    -- The body is further in than the lines behind it, and the first of those closes it.
    have hnear : ∀ l ∈ (rest.lines n ++ ls).head?, l.1 ≤ n + step + 1 := fun l hl =>
      Nat.le_trans (hcolumnRest l hl) (by omega)
    exact h.entry_rest key _ hi hkey (atGap_after hending _)
      (·.leads_group hending hrest hcolumnRest
        (ihBody hrest hnear hfilledBody hkeysBody (by omega) (.inr hbody)))
      (ihRest hls hcolumn hfilledRest hkeysRest le_rfl (.inl rfl))

end Outline

/-! ## The whole text -/

/-- **At the start of a text the scanner stands in front of its first line.** -/
theorem start_ready (hls : ls.IsSimple) (hcolumn : ∀ l ∈ ls.head?, l.1 = n) :
    Ready ending (start ⟨.start, List.replicate n ' ' ++ ls.front ending⟩) [.streamStart] [-1]
      ls := by
  have hgap : gap false true false .start (List.replicate n ' ' ++ ls.front ending)
      = (⟨Position.start.plus n, ls.front ending⟩, true) := by
    rw [gap_spaces, gap_front hls]
  refine ⟨⟨rfl, rfl⟩, rfl, ⟨_, _, hgap, fun l hl => ⟨?_, rfl⟩⟩, ⟨[], rfl⟩, [], rfl, rfl, by simp⟩
  simp [Position.plus, Position.start, hcolumn l hl]

end Scanner

/-! ### Characters -/

theorem isPrintable_of_escaped {d c : Char} (h : Quoted.escaped? d = some c) : isPrintable d := by
  unfold Quoted.escaped? at h
  split at h <;> first | rfl | cases h

theorem isPrintable_of_hexValue {c : Char} {n : Nat} (h : Text.hexValue? c = some n) :
    isPrintable c := by
  simp only [Text.hexValue?, Char.le_def, UInt32.le_iff_toNat_le] at h
  split_ifs at h with hdigit hlower hupper
  · exact isPrintable_of_ascii hdigit.1 (hdigit.2.trans (by decide))
  · exact isPrintable_of_ascii (.trans (by decide) hlower.1) (hlower.2.trans (by decide))
  · exact isPrintable_of_ascii (.trans (by decide) hupper.1) (hupper.2.trans (by decide))

theorem isPrintable_of_foldl {base value n : Nat} {cs : List Char}
    (h : cs.foldl (Quoted.digitStep base) (some value) = some n) : ∀ c ∈ cs, isPrintable c := by
  induction cs generalizing value with
  | nil => simp
  | cons c cs ih =>
    obtain ⟨d, hd, -, h⟩ := Quoted.of_foldl_digitStep h
    exact List.forall_mem_cons.mpr ⟨isPrintable_of_hexValue hd, ih h⟩

theorem Piece.isPrintable (piece : Piece) : ∀ c ∈ piece.chars, isPrintable c := by
  cases piece with
  | raw c hc =>
    simp only [isQuotable, Bool.and_eq_true] at hc
    simpa [chars] using hc.1.1.1
  | letter d c hd => simpa [chars] using ⟨rfl, isPrintable_of_escaped hd⟩
  | code d digits c hd hc =>
    have hletter : Yaml.isPrintable d := by
      unfold Quoted.digitCount? at hd
      split_ifs at hd with hx hu hU <;> subst d <;> rfl
    have hne : digits ≠ [] := by
      rintro rfl
      cases hc
    rw [Quoted.natural?_eq hne] at hc
    simpa [chars] using ⟨rfl, hletter, isPrintable_of_foldl hc⟩

theorem isPrintable_quoted (v : List Piece) : ∀ c ∈ quoted v, isPrintable c := by
  intro c hc
  simp only [quoted, List.mem_cons, List.mem_append, List.mem_flatMap, List.not_mem_nil,
    or_false] at hc
  rcases hc with rfl | ⟨piece, -, hc⟩ | rfl
  · rfl
  · exact piece.isPrintable c hc
  · rfl

theorem isPrintable_decimal (n : Nat) : ∀ c ∈ decimal n, isPrintable c := fun _ hc =>
  isPrintable_of_isSimple (isSimple_of_isDigit (isDigit_of_mem_decimal hc))

theorem Key.isPrintable (k : Key) : ∀ c ∈ k.chars, isPrintable c := fun c hc =>
  isPrintable_of_isSimple (isSimple_of_isKeyChar (k.isKeyChar c hc))

/-- **All that an outline is written with is printable.** -/
theorem Outline.isPrintable_lines (o : Outline) (n : Nat) :
    ∀ l ∈ o.lines n, ∀ c ∈ l.2, isPrintable c := by
  have hline (key : Key) {value : List Char} (hvalue : ∀ c ∈ value, isPrintable c) :
      ∀ c ∈ key.chars ++ ':' :: value, isPrintable c := by
    intro c hc
    rcases List.mem_append.mp hc with hc | hc
    · exact key.isPrintable c hc
    · rcases List.mem_cons.mp hc with rfl | hc
      · rfl
      · exact hvalue c hc
  have hspace {value : List Char} (hvalue : ∀ c ∈ value, isPrintable c) :
      ∀ c ∈ ' ' :: value, isPrintable c := List.forall_mem_cons.mpr ⟨rfl, hvalue⟩
  induction o generalizing n with
  | nil => simp [lines]
  | text key v rest ih =>
    exact List.forall_mem_cons.mpr ⟨hline key (hspace (isPrintable_quoted v)), ih n⟩
  | number key m rest ih =>
    exact List.forall_mem_cons.mpr ⟨hline key (hspace (isPrintable_decimal m)), ih n⟩
  | group key step body rest ihBody ihRest =>
    refine List.forall_mem_cons.mpr ⟨hline key (by simp), ?_⟩
    exact List.forall_mem_append.mpr ⟨ihBody (n + step + 1), ihRest n⟩

theorem Lines.isPrintable_after {ending : List Char} (hending : IsEnding ending) {ls : Lines}
    (h : ∀ l ∈ ls, ∀ c ∈ l.2, isPrintable c) : ∀ c ∈ ls.after ending, isPrintable c := by
  induction ls with
  | nil => obtain rfl | rfl := hending <;> simp [after, isPrintable]
  | cons l ls ih =>
    obtain ⟨hline, hlines⟩ := List.forall_mem_cons.mp h
    refine List.forall_mem_cons.mpr ⟨rfl, List.forall_mem_append.mpr ⟨fun c hc => ?_, ?_⟩⟩
    · obtain rfl := List.eq_of_mem_replicate hc
      rfl
    · exact List.forall_mem_append.mpr ⟨hline, ih hlines⟩

theorem Lines.isPrintable_front {ending : List Char} (hending : IsEnding ending) {ls : Lines}
    (h : ∀ l ∈ ls, ∀ c ∈ l.2, isPrintable c) : ∀ c ∈ ls.front ending, isPrintable c := by
  cases ls with
  | nil => simp [front]
  | cons l ls =>
    obtain ⟨hline, hlines⟩ := List.forall_mem_cons.mp h
    exact List.forall_mem_append.mpr ⟨hline, isPrintable_after hending hlines⟩

/-- **No character of the text is forbidden.** -/
theorem Cursor.ofText_written (o : Outline) (column : Nat) {ending : List Char}
    (hending : IsEnding ending) : ofText (o.written column ending)
      = .ok ⟨.start, List.replicate column ' ' ++ (o.lines column).front ending⟩ := by
  have hprintable : ∀ c ∈ List.replicate column ' ' ++ (o.lines column).front ending,
      isPrintable c := by
    refine List.forall_mem_append.mpr ⟨fun c hc => ?_, ?_⟩
    · obtain rfl := List.eq_of_mem_replicate hc
      rfl
    · exact Lines.isPrintable_front hending (o.isPrintable_lines column)
  rw [ofText, Outline.written, String.toList_ofList]
  simp only [List.dropWhile_eq_nil_iff.mpr hprintable]

namespace Scanner

/-- **A text is scanned from its first line on.** -/
theorem scan_written (o : Outline) (column : Nat) {ending : List Char} (hending : IsEnding ending) :
    ∃ s, Ready ending s [.streamStart] [-1] (o.lines column ++ []) ∧
      Token.scan (o.written column ending) = tokens (s.cursor.rest.length + 3) s := by
  have hcolumn : ∀ l ∈ (o.lines column).head?, l.1 = column := by
    cases o with
    | nil => simp [Outline.lines]
    | _ =>
      rintro l ⟨⟩
      rfl
  rw [List.append_nil]
  refine ⟨_, start_ready (o.isSimple_lines column) hcolumn, ?_⟩
  rw [Token.scan, Cursor.ofText_written o column hending]
  rfl

end Scanner

open Scanner in
/-- **The tokens of an outline's text.** -/
theorem Outline.scan_written {o : Outline} (hfilled : o.IsFilled) (hne : o ≠ nil)
    (hkeys : ∀ k ∈ o.allKeys, k.chars.length ≤ keyReach) {ending : List Char}
    (hending : IsEnding ending) (column : Nat) :
    ∃ ts, Token.scan (o.written column ending) = (ts, none) ∧ ts.map Token.kind
      = .streamStart :: .blockMappingStart :: (o.kinds ++ [.blockEnd, .streamEnd]) := by
  obtain ⟨s, hready, hscan⟩ := Scanner.scan_written o column hending
  have hleads := hready.outline hending Lines.isSimple_nil (by simp) hfilled hkeys (by omega)
    (.inr hne)
  rw [openedAt_outermost, openings_outermost] at hleads
  obtain ⟨ts, s', ks, ⟨n, hn, hyields⟩, hready', hks⟩ := hleads
  -- No round is made without a character, so that two are left: to close the mapping and to end.
  obtain ⟨fuel, hfuel⟩ : ∃ fuel, s.cursor.rest.length + 3 = n + (fuel + 2) :=
    ⟨s.cursor.rest.length + 1 - n, by omega⟩
  obtain ⟨ts', hfinish, hkinds⟩ := hready'.finish fuel
  refine ⟨ts ++ ts', ?_, ?_⟩
  · rw [hscan, hfuel, hyields, hfinish]
  · rw [List.map_append, hkinds, List.append_assoc, ← List.append_assoc, hks]
    simp

end Sidecar.Yaml
