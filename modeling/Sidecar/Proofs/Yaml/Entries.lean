import Mathlib
import Sidecar.Proofs.Yaml.Scalar
import Sidecar.Yaml.Record

/-!
# Proofs/Yaml/Entries — records that are written as outlines

A mapping that is written as an outline is read entry by entry (`Document.record_eq_ok_iff`).
**It is read when its keys are known and not repeated and each value is read**
(`Document.readOutline_isOk_iff`), and a field then holds what stands under its key, or its default
(`Document.readOutline_get`).  So the order of the entries does not matter, as long as each
assignment leaves the other fields alone.

The values are texts, numbers and mappings.  A quoted text is read as it is, never as null, and a
number is read from its decimal digits if it is below the bound (`unsigned?_decimal`).
-/

namespace Sidecar.Yaml

namespace Outline

/-- The items of what stands under a key. -/
def Content.items : Content → List Item
  | text value => [.scalar ⟨Yaml.text value, .doubleQuoted, none⟩]
  | number n => [.scalar ⟨decimal n, .plain, none⟩]
  | group body => .mappingStart :: (body.items ++ [.mappingEnd])

/-- The items of an outline are those of its entries, one after the other. -/
theorem items_eq (o : Outline) : o.items = o.entries.flatMap fun e =>
    .scalar ⟨e.1.chars, .plain, none⟩ :: e.2.items := by
  induction o with
  | nil => rfl
  | text key value rest ih => simp [items, entries, Content.items, ih]
  | number key n rest ih => simp [items, entries, Content.items, ih]
  | group key step body rest _ ih => simp [items, entries, Content.items, ih]

/-- **A key that is not repeated is found.** -/
theorem lookup_eq_some_iff {o : Outline} (hnodup : o.names.Nodup) {name : String} {c : Content} :
    o.lookup name = some c ↔ ∃ e ∈ o.entries, e.1.name = name ∧ e.2 = c := by
  rw [names] at hnodup
  rw [lookup]
  generalize o.entries = os at hnodup ⊢
  induction os with
  | nil => simp
  | cons e os ih =>
    obtain ⟨hnew, hnodup⟩ := List.nodup_cons.mp hnodup
    by_cases hname : e.1.name = name
    · have hrest : ∀ e' ∈ os, e'.1.name ≠ name := by
        rintro e' he' rfl
        exact hnew (List.mem_map.mpr ⟨e', he', hname.symm⟩)
      constructor
      · intro h
        exact ⟨e, List.mem_cons_self, hname, by simpa [hname] using h⟩
      · rintro ⟨e', he', hname', rfl⟩
        rcases List.mem_cons.mp he' with rfl | he'
        · simp [hname]
        · exact absurd hname' (hrest e' he')
    · simpa [hname] using ih hnodup

/-- What is found under a name is an entry of that name. -/
theorem mem_names_of_lookup {o : Outline} {name : String} {c : Content}
    (h : o.lookup name = some c) : name ∈ o.names := by
  obtain ⟨e, he, -⟩ := Option.map_eq_some_iff.mp h
  have hname : e.1.name = name := by simpa using List.find?_some he
  exact List.mem_map.mpr ⟨e, List.mem_of_find?_eq_some he, hname⟩

/-- **The keys of a mapping are known** where its fields are. -/
theorem HasFields.mem {o : Outline} {known : List String} (h : o.HasFields known)
    {e : Key × Content} (he : e ∈ o.entries) : e.1.name ∈ known :=
  h.known _ (List.mem_map.mpr ⟨e, he, rfl⟩)

/-- **Every key is one of the mapping itself, or of a mapping in it.** -/
theorem mem_allKeys {o : Outline} {k : Key} (h : k ∈ o.allKeys) : ∃ e ∈ o.entries,
    k = e.1 ∨ ∃ body, e.2.group? = some body ∧ k ∈ body.allKeys := by
  induction o with
  | nil => cases h
  | text key value rest ih =>
    rcases List.mem_cons.mp h with rfl | h
    · exact ⟨_, List.mem_cons_self, .inl rfl⟩
    · obtain ⟨e, he, hk⟩ := ih h
      exact ⟨e, List.mem_cons_of_mem _ he, hk⟩
  | number key n rest ih =>
    rcases List.mem_cons.mp h with rfl | h
    · exact ⟨_, List.mem_cons_self, .inl rfl⟩
    · obtain ⟨e, he, hk⟩ := ih h
      exact ⟨e, List.mem_cons_of_mem _ he, hk⟩
  | group key step body rest _ ih =>
    rcases List.mem_cons.mp h with rfl | h
    · exact ⟨_, List.mem_cons_self, .inl rfl⟩
    · rcases List.mem_append.mp h with h | h
      · exact ⟨_, List.mem_cons_self, .inr ⟨body, rfl, h⟩⟩
      · obtain ⟨e, he, hk⟩ := ih h
        exact ⟨e, List.mem_cons_of_mem _ he, hk⟩

theorem Content.text?_eq_some_iff {c : Content} {t : String} :
    c.text? = some t ↔ ∃ v, c = .text v ∧ String.ofList (Yaml.text v) = t := by
  cases c <;> simp [text?]

theorem Content.number?_eq_some_iff {c : Content} {n : Nat} :
    c.number? = some n ↔ c = .number n := by
  cases c <;> simp [number?]

theorem Content.group?_eq_some_iff {c : Content} {body : Outline} :
    c.group? = some body ↔ c = .group body := by
  cases c <;> simp [group?]

theorem Content.group?_eq_none_of_text {c : Content} {t : String} (h : c.text? = some t) :
    c.group? = none := by
  obtain ⟨v, rfl, -⟩ := text?_eq_some_iff.mp h
  rfl

theorem Content.group?_eq_none_of_number {c : Content} {n : Nat} (h : c.number? = some n) :
    c.group? = none := by
  obtain rfl := number?_eq_some_iff.mp h
  rfl

end Outline

/-! ## Nodes -/

/-- A node that begins with items. -/
def Node.Shows (node : Node) (items : List Item) : Prop := items <+: node.map Prod.fst

/-- **The end of a mapping is found behind its entries.** -/
theorem afterNode_items (o : Outline) (depth : Nat) {placed : Node}
    (hplaced : placed.map Prod.fst = o.items) (rest : Node) :
    afterNode (depth + 1) (placed ++ rest) = afterNode (depth + 1) rest := by
  induction o generalizing depth placed rest with
  | nil =>
    obtain rfl : placed = [] := List.map_eq_nil_iff.mp hplaced
    rfl
  | text key value o ih =>
    simp only [Outline.items, List.cons_append, List.nil_append, List.map_eq_cons_iff] at hplaced
    obtain ⟨⟨_, p⟩, _, rfl, rfl, ⟨_, q⟩, placed, rfl, rfl, hplaced⟩ := hplaced
    exact ih depth hplaced rest
  | number key n o ih =>
    simp only [Outline.items, List.cons_append, List.nil_append, List.map_eq_cons_iff] at hplaced
    obtain ⟨⟨_, p⟩, _, rfl, rfl, ⟨_, q⟩, placed, rfl, rfl, hplaced⟩ := hplaced
    exact ih depth hplaced rest
  | group key step body o ihBody ihRest =>
    simp only [Outline.items, List.cons_append, List.nil_append, List.append_assoc,
      List.map_eq_cons_iff, List.map_eq_append_iff] at hplaced
    obtain ⟨⟨_, p⟩, _, rfl, rfl, ⟨_, q⟩, _, rfl, rfl, placed, _, rfl, hbody, ⟨_, e⟩, placed', rfl,
      rfl, hplaced⟩ := hplaced
    have hstart : afterNode (depth + 1 + 1) (placed ++ (.mappingEnd, e) :: (placed' ++ rest))
        = afterNode (depth + 1) (placed' ++ rest) := ihBody (depth + 1) hbody _
    have hshape : (placed ++ (.mappingEnd, e) :: placed') ++ rest
        = placed ++ (.mappingEnd, e) :: (placed' ++ rest) := by simp
    rw [← ihRest depth hplaced rest, ← hstart, ← hshape]
    rfl

/-- **What stands under a key is one node.** -/
theorem afterNode_content (c : Outline.Content) {placed : Node}
    (hplaced : placed.map Prod.fst = c.items) (rest : Node) :
    afterNode 0 (placed ++ rest) = rest := by
  cases c with
  | text value =>
    obtain ⟨⟨_, p⟩, _, rfl, rfl, hnil⟩ := List.map_eq_cons_iff.mp hplaced
    obtain rfl := List.map_eq_nil_iff.mp hnil
    rfl
  | number n =>
    obtain ⟨⟨_, p⟩, _, rfl, rfl, hnil⟩ := List.map_eq_cons_iff.mp hplaced
    obtain rfl := List.map_eq_nil_iff.mp hnil
    rfl
  | group body =>
    simp only [Outline.Content.items, List.map_eq_cons_iff, List.map_eq_append_iff,
      List.map_eq_nil_iff] at hplaced
    obtain ⟨⟨_, p⟩, _, rfl, rfl, placed, _, rfl, hbody, ⟨_, e⟩, _, rfl, rfl, rfl⟩ := hplaced
    have hend := afterNode_items body 0 hbody ((.mappingEnd, e) :: rest)
    have hshape : placed ++ [(.mappingEnd, e)] ++ rest = placed ++ (.mappingEnd, e) :: rest := by
      simp
    rw [List.cons_append, hshape]
    exact hend

/-- An entry of a mapping that is written as an entry of an outline. -/
structure Entry.Shows (e : Key × Outline.Content) (entry : Entry) : Prop where
  key : Node.Shows entry.key [.scalar ⟨e.1.chars, .plain, none⟩]
  value : Node.Shows entry.value e.2.items

/-- **The entries of a mapping are those of the outline.** -/
theorem entries_items (o : Outline) {placed : Node} (hplaced : placed.map Prod.fst = o.items)
    (p : Position) (rest : Node) : ∃ es,
      entries (placed ++ (.mappingEnd, p) :: rest) = (es, true) ∧
      List.Forall₂ Entry.Shows o.entries es := by
  rw [o.items_eq] at hplaced
  generalize o.entries = os at hplaced ⊢
  induction os generalizing placed with
  | nil =>
    obtain rfl : placed = [] := List.map_eq_nil_iff.mp hplaced
    exact ⟨[], by simp [entries], .nil⟩
  | cons e os ih =>
    simp only [List.flatMap_cons, List.cons_append, List.map_eq_cons_iff,
      List.map_eq_append_iff] at hplaced
    obtain ⟨⟨_, q⟩, _, rfl, rfl, value, placed, rfl, hvalue, hrest⟩ := hplaced
    obtain ⟨es, hentries, hshows⟩ := ih hrest
    let key : Item × Position := (.scalar ⟨e.1.chars, .plain, none⟩, q)
    let tail : Node := value ++ (placed ++ (.mappingEnd, p) :: rest)
    have hshape : key :: (value ++ placed) ++ (.mappingEnd, p) :: rest = key :: tail := by
      simp [tail]
    have htail : afterNode 0 (key :: tail) = tail := rfl
    have hafter : afterNode 0 tail = placed ++ (.mappingEnd, p) :: rest :=
      afterNode_content e.2 hvalue _
    have hfirst : entries (key :: tail) = (⟨key :: tail, tail⟩ :: es, true) := by
      rw [entries]
      · simp only [htail, hafter, hentries]
      · simp [key]
    rw [hshape]
    have hvalue' : Node.Shows tail e.2.items :=
      ⟨(placed ++ (.mappingEnd, p) :: rest).map Prod.fst, by simp [tail, hvalue]⟩
    exact ⟨_, hfirst, .cons ⟨⟨tail.map Prod.fst, rfl⟩, hvalue'⟩ hshows⟩

/-! ## Numbers -/

theorem decimal_of_lt {n : Nat} (h : n < 10) : decimal n = [n.digitChar] :=
  Nat.toDigits_of_lt_base h

theorem decimal_of_le {n : Nat} (h : 10 ≤ n) :
    decimal n = decimal (n / 10) ++ [(n % 10).digitChar] :=
  Nat.toDigits_of_base_le (by decide) h

theorem hexValue?_digitChar {n : Nat} (h : n < 10) : Text.hexValue? n.digitChar = some n := by
  have hall : ∀ m < 10, Text.hexValue? (Nat.digitChar m) = some m := by decide
  exact hall n h

theorem digitChar_ne_zero {n : Nat} (h : n < 10) (hn : n ≠ 0) : n.digitChar ≠ '0' := by
  have hall : ∀ m < 10, m ≠ 0 → Nat.digitChar m ≠ '0' := by decide
  exact hall n h hn

/-- **Digits give back their number.** -/
theorem natural?_decimal (n : Nat) : Scalar.natural? 10 (decimal n) = some n := by
  rw [Quoted.natural?_eq (decimal_ne_nil n)]
  induction n using Nat.strongRecOn with
  | ind n ih =>
    by_cases hn : n < 10
    · simp [decimal_of_lt hn, Quoted.digitStep, hexValue?_digitChar hn, hn]
    · have hdigit : n % 10 < 10 := Nat.mod_lt n (by decide)
      have hsplit : n / 10 * 10 + n % 10 = n := Nat.div_add_mod' n 10
      rw [decimal_of_le (not_lt.mp hn), List.foldl_append, ih (n / 10) (by omega)]
      simp [Quoted.digitStep, hexValue?_digitChar hdigit, hdigit, hsplit]

/-- **Only zero begins with a zero.** -/
theorem head_decimal {n : Nat} (hn : n ≠ 0) : (decimal n).head? ≠ some '0' := by
  induction n using Nat.strongRecOn with
  | ind n ih =>
    by_cases hlt : n < 10
    · simpa [decimal_of_lt hlt] using digitChar_ne_zero hlt hn
    · have hrest : (decimal (n / 10)).head? ≠ some '0' := ih (n / 10) (by omega) (by omega)
      rw [decimal_of_le (not_lt.mp hlt), List.head?_append]
      obtain ⟨c, cs, hc⟩ := List.exists_cons_of_ne_nil (decimal_ne_nil (n / 10))
      simpa [hc] using hrest

/-- **No numeral that is written is taken for a string of digits**, which begins with a zero. -/
theorem not_isDigitString_decimal (n : Nat) : Scalar.isDigitString (decimal n) = false := by
  obtain ⟨c, cs, hc⟩ := List.exists_cons_of_ne_nil (decimal_ne_nil n)
  have hdigit : c.isDigit := isDigit_of_mem_decimal (n := n) (by simp [hc])
  have hsign : Scalar.isSign c = false := by
    simp only [Scalar.isSign, Bool.or_eq_false_iff, decide_eq_false_iff_not]
    constructor <;> rintro rfl <;> simp at hdigit
  have hhead : ((decimal n).head?.any Scalar.isSign) = false := by simp [hc, hsign]
  rw [Scalar.isDigitString]
  simp only [hhead, Bool.false_eq_true, if_false]
  split
  · rename_i c' rest hzero
    by_cases hn : n = 0
    · subst hn
      cases hzero
    · exact absurd (congrArg List.head? hzero) (head_decimal hn)
  · rfl

theorem base?_decimal (n : Nat) : Scalar.base? (decimal n) = none := by
  have hdigit {c : Char} (hc : c ∈ decimal n) : c.isDigit := isDigit_of_mem_decimal hc
  unfold Scalar.base?
  split
  · rename_i heq
    exact absurd (hdigit (c := 'x') (by simp [heq])) (by decide)
  · rename_i heq
    exact absurd (hdigit (c := 'o') (by simp [heq])) (by decide)
  · rename_i heq
    exact absurd (hdigit (c := 'b') (by simp [heq])) (by decide)
  · rfl

/-- **A number is read as itself**, if it is below the bound. -/
theorem unsigned?_decimal (bound n : Nat) :
    Scalar.unsigned? bound (decimal n) = if n < bound then some n else none := by
  have hplus (rest : List Char) (h : decimal n = '+' :: rest) : False :=
    absurd (isDigit_of_mem_decimal (n := n) (c := '+') (by simp [h])) (by decide)
  rw [Scalar.unsigned?]
  · simp only [base?_decimal, not_isDigitString_decimal, natural?_decimal, Bool.false_eq_true,
      if_false, Option.bind_some]
  · exact hplus

/-! ## Records -/

section Record

variable {d : Document}

/-- **A node that shows a scalar is read as one**, whatever is expected. -/
theorem Document.scalar_of_shows {node : Node} {s : Scalar} (h : Node.Shows node [.scalar s])
    (expected : String) : ∃ p, d.scalar expected node = .ok (s, p) := by
  obtain ⟨more, h⟩ := h
  obtain ⟨⟨_, p⟩, rest, rfl, rfl, -⟩ := List.map_eq_cons_iff.mp h.symm
  exact ⟨p, rfl⟩

open Outline (Content)

section Scalars

variable {node : Node} {c : Content} (hnode : Node.Shows node c.items)

include hnode

/-- **A text is read as it is meant.** -/
theorem Document.text_of_shows {t : String} (hc : c.text? = some t) (expected : String) :
    d.text expected node = .ok t := by
  obtain ⟨v, rfl, rfl⟩ := Content.text?_eq_some_iff.mp hc
  obtain ⟨p, hscalar⟩ := scalar_of_shows (d := d) hnode expected
  rw [text, hscalar]
  rfl

/-- **A quoted text is never null.** -/
theorem Document.text?_of_shows {t : String} (hc : c.text? = some t) :
    d.text? node = .ok (some t) := by
  obtain ⟨v, rfl, rfl⟩ := Content.text?_eq_some_iff.mp hc
  obtain ⟨p, hscalar⟩ := scalar_of_shows (d := d) hnode "a string"
  rw [text?, hscalar]
  rfl

/-- **A number is read as it is**, if it fits in sixteen bits. -/
theorem Document.word16_eq_ok_iff {n : Nat} (hc : c.number? = some n) {m : Nat} :
    d.word16 node = .ok m ↔ m = n ∧ n ≤ 65535 := by
  obtain rfl := Content.number?_eq_some_iff.mp hc
  obtain ⟨p, hscalar⟩ := scalar_of_shows (d := d) hnode "u16"
  have hbound : Nat.pow 2 16 = 65536 := by decide
  have hlimit : Nat.pow 2 64 = 18446744073709551616 := by decide
  rw [word16, hscalar]
  simp only [ok_bind, hbound, hlimit, unsigned?_decimal, decide_true, Bool.true_or, if_true]
  by_cases hword : n < 65536
  · have hsmall : n < 18446744073709551616 := Nat.lt_trans hword (by decide)
    simp only [hsmall, hword, if_true]
    constructor
    · intro h
      exact ⟨(Except.ok.inj h).symm, Nat.le_of_lt_succ hword⟩
    · rintro ⟨rfl, -⟩
      rfl
  · have hlarge : ¬ n ≤ 65535 := fun h => hword (Nat.lt_succ_of_le h)
    by_cases hlong : n < 18446744073709551616
    · simp [hlong, hword, hlarge]
    · simp [hlong, hlarge]

end Scalars

/-- **A key that an outline has gives its name.** -/
theorem Document.fieldName_eq_ok_iff {node : Node} {k : Key}
    (h : Node.Shows node [.scalar ⟨k.chars, .plain, none⟩]) {known seen : List String}
    {name : String} : d.fieldName known seen node = .ok name ↔
      name = k.name ∧ k.name ∈ known ∧ k.name ∉ seen := by
  obtain ⟨p, hscalar⟩ := scalar_of_shows (d := d) h "field identifier"
  have hname : String.ofList k.chars = k.name := rfl
  rw [fieldName, hscalar]
  simp only [Except.mapError, ok_bind, hname]
  by_cases hknown : k.name ∈ known
  · by_cases hseen : k.name ∈ seen
    · simp [hknown, hseen]
    · simp [hknown, hseen, eq_comm]
  · simp [hknown]

variable {α β : Type} {known seen : List String}
  {assign : String → Node → α → Except RecordError α} {draft : α} {os : List (Key × Content)}
  {es : List Entry}

/-- **An entry is read if its key is known and new**, and its value can be assigned; then the rest
are. -/
theorem Document.readEntries_cons_iff {e : Key × Content} {entry : Entry}
    (he : entry.Shows e) {result : α} :
    d.readEntries known assign seen draft (entry :: es) = .ok result ↔
      (e.1.name ∈ known ∧ e.1.name ∉ seen) ∧ ∃ next,
        assign e.1.name entry.value draft = .ok next ∧
        d.readEntries known assign (e.1.name :: seen) next es = .ok result := by
  simp only [readEntries, bind_eq_ok_iff, mapError_eq_ok_iff, fieldName_eq_ok_iff he.key]
  constructor
  · rintro ⟨_, ⟨rfl, hname⟩, hrest⟩
    exact ⟨hname, hrest⟩
  · rintro ⟨hname, hrest⟩
    exact ⟨_, ⟨rfl, hname⟩, hrest⟩

/-- **A record is read when its keys are known and new and each of its values is read**, where that
depends on nothing but the value. -/
theorem Document.readEntries_isOk_iff {IsRead : String → Content → Prop}
    (hes : List.Forall₂ Entry.Shows os es)
    (hassign : ∀ e ∈ os, e.1.name ∈ known → ∀ node draft, Node.Shows node e.2.items →
      ((∃ next, assign e.1.name node draft = .ok next) ↔ IsRead e.1.name e.2)) :
    (∃ result, d.readEntries known assign seen draft es = .ok result) ↔
      (∀ e ∈ os, (e.1.name ∈ known ∧ e.1.name ∉ seen) ∧ IsRead e.1.name e.2) ∧
      (os.map (·.1.name)).Nodup := by
  -- `seen` grows with each entry: that no later name is in it is what makes the names distinct.
  induction hes generalizing seen draft with
  | nil => simp [readEntries]
  | @cons e entry os es he _ ih =>
    obtain ⟨hassign, hassign'⟩ := List.forall_mem_cons.mp hassign
    have ih {seen draft} := @ih seen draft hassign'
    constructor
    · rintro ⟨result, h⟩
      obtain ⟨hname, next, hnext, h⟩ := (readEntries_cons_iff he).mp h
      obtain ⟨hrest, hnodup⟩ := ih.mp ⟨result, h⟩
      have hread := (hassign hname.1 _ _ he.value).mp ⟨next, hnext⟩
      refine ⟨List.forall_mem_cons.mpr ⟨⟨hname, hread⟩, fun e' he' => ?_⟩, ?_⟩
      · obtain ⟨⟨hknown, hseen⟩, hread'⟩ := hrest e' he'
        exact ⟨⟨hknown, fun hmem => hseen (List.mem_cons_of_mem _ hmem)⟩, hread'⟩
      · refine List.nodup_cons.mpr ⟨fun hmem => ?_, hnodup⟩
        obtain ⟨e', he', hsame⟩ := List.mem_map.mp hmem
        exact (hrest e' he').1.2 (hsame ▸ List.mem_cons_self)
    · rintro ⟨hall, hnodup⟩
      obtain ⟨⟨hname, hread⟩, hrest⟩ := List.forall_mem_cons.mp hall
      obtain ⟨hnew, hnodup⟩ := List.nodup_cons.mp hnodup
      obtain ⟨next, hnext⟩ := (hassign hname.1 _ draft he.value).mpr hread
      have hrest' : ∀ e' ∈ os, (e'.1.name ∈ known ∧ e'.1.name ∉ e.1.name :: seen)
          ∧ IsRead e'.1.name e'.2 := by
        intro e' he'
        obtain ⟨⟨hknown, hseen⟩, hread'⟩ := hrest e' he'
        refine ⟨⟨hknown, fun hmem => ?_⟩, hread'⟩
        rcases List.mem_cons.mp hmem with hsame | hmem
        · exact hnew (List.mem_map.mpr ⟨e', he', hsame⟩)
        · exact hseen hmem
      obtain ⟨result, hresult⟩ : ∃ result, d.readEntries known assign (e.1.name :: seen) next es
          = .ok result := ih.mpr ⟨hrest', hnodup⟩
      exact ⟨result, (readEntries_cons_iff he).mpr ⟨hname, next, hnext, hresult⟩⟩

section Field

variable {γ : Type} {get : α → γ} {field : String}
  (hkeep : ∀ name ∈ known, name ≠ field → ∀ node draft next,
    assign name node draft = .ok next → get next = get draft)
  (hes : List.Forall₂ Entry.Shows os es) {result : α}
  (h : d.readEntries known assign seen draft es = .ok result)

include hkeep hes h

/-- **A field that has been read stays as it is.** -/
theorem Document.readEntries_frame (hseen : field ∈ seen) : get result = get draft := by
  induction hes generalizing seen draft with
  | nil => rw [Except.ok.inj h]
  | @cons e entry os es he hes ih =>
    obtain ⟨⟨hknown, hnew⟩, next, hnext, h⟩ := (readEntries_cons_iff he).mp h
    have hne : e.1.name ≠ field := fun hsame => hnew (hsame ▸ hseen)
    exact (ih h (List.mem_cons_of_mem _ hseen)).trans (hkeep _ hknown hne _ _ _ hnext)

/-- **A field is read as what stands under its first key says**, if there is one. -/
theorem Document.readEntries_get (IsValue : Content → γ → Prop)
    (hset : ∀ e ∈ os, e.1.name = field → ∀ node draft next, Node.Shows node e.2.items →
      assign field node draft = .ok next → IsValue e.2 (get next)) :
    Outline.Tells ((os.find? (·.1.name = field)).map (·.2)) IsValue (get draft) (get result) := by
  induction hes generalizing seen draft with
  | nil => rw [Except.ok.inj h]; rfl
  | @cons e entry os es he hes ih =>
    obtain ⟨⟨hknown, -⟩, next, hnext, h⟩ := (readEntries_cons_iff he).mp h
    obtain ⟨hset, hset'⟩ := List.forall_mem_cons.mp hset
    by_cases hfield : e.1.name = field
    · subst hfield
      have hframe := readEntries_frame hkeep hes h List.mem_cons_self
      simpa [Outline.Tells, hframe] using hset rfl _ _ _ he.value hnext
    · have hrest := ih h hset'
      rw [hkeep _ hknown hfield _ _ _ hnext] at hrest
      simpa [hfield] using hrest

end Field

/-- **A field for contents of a kind is read as those under its first key say**, if it has one. -/
theorem Document.readOutline_get {γ κ : Type} (get : α → γ) (field : String)
    (select : Content → Option κ) (IsValue : κ → γ → Prop)
    (hkeep : ∀ name ∈ known, name ≠ field → ∀ node draft next,
      assign name node draft = .ok next → get next = get draft)
    {o : Outline} (hkind : o.HasKind select [field])
    (hset : ∀ e ∈ o.entries, e.1.name = field → ∀ k node draft next, select e.2 = some k →
      Node.Shows node e.2.items → assign field node draft = .ok next → IsValue k (get next))
    (hes : List.Forall₂ Entry.Shows o.entries es) {result : α}
    (h : d.readEntries known assign seen draft es = .ok result) :
    Outline.Tells ((o.lookup field).bind select) IsValue (get draft) (get result) := by
  have hget := readEntries_get hkeep hes h
    (fun c value => ∃ k, select c = some k ∧ IsValue k value)
    (fun e he hfield node draft next hnode hnext => by
      obtain ⟨k, hk⟩ := hkind e he (by simp [hfield])
      exact ⟨k, hk, hset e he hfield k node draft next hk hnode hnext⟩)
  rw [Outline.lookup]
  cases hc : (o.entries.find? (·.1.name = field)).map (·.2) with
  | none =>
    rw [hc] at hget
    exact hget
  | some c =>
    rw [hc] at hget
    obtain ⟨k, hk, hvalue⟩ := hget
    rw [Option.bind_some, hk]
    exact hvalue

/-- **An outline is read just if its keys are known and no two alike**, and each value is one of its
kind. -/
theorem Document.readOutline_isOk_iff {o : Outline} (IsRead : String → Content → Prop)
    (hes : List.Forall₂ Entry.Shows o.entries es)
    (hassign : ∀ e ∈ o.entries, e.1.name ∈ known → ∀ node draft, Node.Shows node e.2.items →
      ((∃ next, assign e.1.name node draft = .ok next) ↔ IsRead e.1.name e.2)) :
    (∃ result, d.readEntries known assign [] draft es = .ok result) ↔
      o.HasFields known ∧ ∀ name c, o.lookup name = some c → IsRead name c := by
  rw [readEntries_isOk_iff hes hassign]
  constructor
  · rintro ⟨hall, hnodup⟩
    refine ⟨⟨fun name hname => ?_, hnodup⟩, fun name c hc => ?_⟩
    · obtain ⟨e, he, rfl⟩ := List.mem_map.mp hname
      exact (hall e he).1.1
    · obtain ⟨e, he, rfl, rfl⟩ := (Outline.lookup_eq_some_iff hnodup).mp hc
      exact (hall e he).2
  · rintro ⟨⟨hknown, hnodup⟩, hread⟩
    refine ⟨fun e he => ⟨⟨hknown _ (List.mem_map.mpr ⟨e, he, rfl⟩), by simp⟩, ?_⟩, hnodup⟩
    exact hread _ _ ((Outline.lookup_eq_some_iff hnodup).mpr ⟨e, he, rfl, rfl⟩)

/-- **A text is read when it is one whole document**, and its value is read. -/
theorem Document.readOnly_eq_ok_iff {text : String} {read : Document → Node → Except RecordError α}
    {a : α} : readOnly text read = .ok a ↔ read (ofText text) (ofText text).items = .ok a ∧
      (ofText text).fault = none ∧ (ofText text).isFollowed = false := by
  simp only [readOnly, bind_eq_ok_iff]
  cases (ofText text).fault with
  | none => cases (ofText text).isFollowed <;> simp
  | some fault => simp

/-- **A mapping that is written as an outline is read by its entries.** -/
theorem Document.record_eq_ok_iff {o : Outline} {node : Node}
    (hnode : Node.Shows node (Content.group o).items) : ∃ es,
      List.Forall₂ Entry.Shows o.entries es ∧
      ∀ {α β : Type} (d : Document) (expected : String) (known : List String)
        (assign : String → Node → α → Except RecordError α) (draft : α)
        (finish : α → Except Complaint β) (result : β),
        d.record expected known assign draft finish node = .ok result ↔
          ∃ a, d.readEntries known assign [] draft es = .ok a ∧ finish a = .ok result := by
  obtain ⟨more, hmore⟩ := hnode
  simp only [Content.items, List.cons_append, List.append_assoc, List.nil_append] at hmore
  obtain ⟨⟨_, p⟩, _, rfl, rfl, hbody⟩ := List.map_eq_cons_iff.mp hmore.symm
  obtain ⟨placed, _, rfl, hplaced, hbody⟩ := List.map_eq_append_iff.mp hbody
  obtain ⟨⟨_, q⟩, rest, rfl, rfl, -⟩ := List.map_eq_cons_iff.mp hbody
  obtain ⟨es, hentries, hshows⟩ := entries_items o hplaced q rest
  refine ⟨es, hshows, fun d expected known assign draft finish result => ?_⟩
  have htarget : d.target ((.mappingStart, p) :: (placed ++ (.mappingEnd, q) :: rest))
      = (.mappingStart, p) :: (placed ++ (.mappingEnd, q) :: rest) := rfl
  rw [record, htarget]
  simp [hentries, mapError_eq_ok_iff, bind_eq_ok_iff]

end Record

end Sidecar.Yaml
