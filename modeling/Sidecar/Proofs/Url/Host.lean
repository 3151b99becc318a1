import Mathlib
import Sidecar.Url

/-!
# Proofs/Url/Host — how a host is written

A host that can be read is written as a name, or as an address in brackets (`IsHostText`).  **A name
holds no character that tells the parts of an address apart**, whatever the tables of international
names say: such a character is in no escape, so it is among the octets that the escapes leave, and
among the characters of the domain.
-/

namespace Sidecar

/-! ## Octets of ASCII -/

namespace Text.Utf8

theorem opening_of_ascii {b : UInt8} (h : b.toNat < 0x80) :
    opening b = .char (Char.ofNat b.toNat) := if_pos h

/-- **What begins a character is no plain one.** -/
theorem low_of_begins {b : UInt8} {p : Pending} (h : opening b = .begins p) : 0x80 ≤ p.low := by
  grind [opening]

/-- **An octet of ASCII stands for itself**, whatever is pending: no octet of ASCII is owed. -/
theorem mem_decodeFrom {b : UInt8} (hascii : b.toNat < 0x80) {pending : Option Pending}
    {octets : List UInt8} (hlow : ∀ p ∈ pending, 0x80 ≤ p.low) (h : b ∈ octets) :
    Char.ofNat b.toNat ∈ decodeFrom pending octets := by
  have hopening := opening_of_ascii hascii
  fun_induction decodeFrom pending octets with
  | case1 | case2 => cases h
  | case3 | case5 | case8 | case10 => grind
  | case4 | case9 => grind [low_of_begins]
  | case6 | case7 => grind

end Text.Utf8

namespace Url

open Text (hexValue?)

/-- **What no escape takes in is left**: a character of ASCII that neither begins an escape nor is a
digit of one. -/
theorem Percent.mem_decode {cs : List Char} {c : Char} (hascii : c.toNat < 0x80)
    (hpercent : c ≠ '%') (hhex : hexValue? c = none) (h : c ∈ cs) :
    UInt8.ofNat c.toNat ∈ decode cs := by
  have hencode : String.utf8EncodeChar c = [UInt8.ofNat c.toNat] :=
    if_pos (Nat.le_of_lt_succ hascii)
  fun_induction decode cs with
  | case1 => cases h
  | case2 | case3 | case4 => grind

namespace Host

/-! ## Names -/

/-- **A delimiter is forbidden**, and no part of an escape. -/
theorem of_isDelimiter {c : Char} (h : isDelimiter c = true) :
    c.toNat < 0x80 ∧ c ≠ '%' ∧ hexValue? c = none ∧ isForbidden c = true := by
  have hall : ("#/:?@[\\]".toList.all fun c => c.toNat < 0x80 && c ≠ '%' && (hexValue? c).isNone
      && isForbidden c) = true := by decide +kernel
  have hc := List.all_eq_true.mp hall c (List.contains_iff_mem.mp h)
  simpa [and_assoc] using hc

/-- **A name with a delimiter in it is refused**, by the tables or without them. -/
theorem domainToAscii_of_mem [Idna] {octets : List UInt8} {c : Char}
    (hmem : c ∈ Text.Utf8.decode octets) (h : isDelimiter c = true) :
    domainToAscii octets = .error .badDomain := by
  have hdelimiter : (Text.Utf8.decode octets).any isDelimiter = true :=
    List.any_eq_true.mpr ⟨c, hmem, h⟩
  have hforbidden : (Text.Utf8.decode octets).any isForbidden = true :=
    List.any_eq_true.mpr ⟨c, hmem, (of_isDelimiter h).2.2.2⟩
  simp [domainToAscii, hdelimiter, hforbidden]

/-- **No name that is read holds a delimiter.** -/
theorem not_isDelimiter_of_domainToAscii [Idna] {cs name : List Char}
    (h : domainToAscii (Percent.decode cs) = .ok name) {c : Char} (hc : c ∈ cs) :
    isDelimiter c = false := by
  rw [← Bool.not_eq_true]
  intro hdelimiter
  obtain ⟨hascii, hpercent, hhex, -⟩ := of_isDelimiter hdelimiter
  have hoctet := Percent.mem_decode hascii hpercent hhex hc
  have hnat : (UInt8.ofNat c.toNat).toNat = c.toNat :=
    UInt8.toNat_ofNat_of_lt (Nat.lt_trans hascii (by decide))
  have hchar : Char.ofNat _ ∈ Text.Utf8.decodeFrom none _ :=
    Text.Utf8.mem_decodeFrom (by rwa [hnat]) (by simp) hoctet
  rw [hnat, Char.ofNat_toNat] at hchar
  cases (domainToAscii_of_mem hchar hdelimiter).symm.trans h

/-! ## Addresses in brackets -/

/-- The characters of an address of version 6. -/
def isAddressChar (c : Char) : Bool := (hexValue? c).isSome || c = ':' || c = '.'

theorem isAddressChar_of_isDigit {c : Char} (h : c.isDigit = true) : isAddressChar c = true := by
  have hdigit : '0' ≤ c ∧ c ≤ '9' := (Bool.and_eq_true _ _).mp h |>.imp of_decide_eq_true
    of_decide_eq_true
  simp [isAddressChar, hexValue?, hdigit]

theorem exists_of_mapM_eq_some {α β : Type} {f : α → Option β} {as : List α} {bs : List β}
    (h : as.mapM f = some bs) : ∀ a ∈ as, ∃ b, f a = some b := by
  induction as generalizing bs with
  | nil => simp
  | cons a as ih =>
    simp only [List.mapM_cons, Option.bind_eq_bind, Option.bind_eq_some_iff] at h
    obtain ⟨b, hb, bs', hbs', -⟩ := h
    exact List.forall_mem_cons.mpr ⟨⟨b, hb⟩, ih hbs'⟩

/-- **What is split holds its separators and its parts**, and nothing else. -/
theorem eq_or_mem_of_splitOn {cs : List Char} {c : Char} (sep : Char) (h : c ∈ cs) :
    c = sep ∨ ∃ part ∈ cs.splitOn sep, c ∈ part := by
  induction cs with
  | nil => cases h
  | cons d cs ih =>
    obtain ⟨part, parts, hparts⟩ := List.exists_cons_of_ne_nil (List.splitOn_ne_nil sep cs)
    rw [List.splitOn_cons_eq_if_modifyHead, hparts, List.modifyHead_cons]
    rw [hparts] at ih
    rcases List.mem_cons.mp h with rfl | hc
    · split_ifs with hsep
      · exact .inl (beq_iff_eq.mp hsep)
      · exact .inr ⟨_, List.mem_cons_self, List.mem_cons_self⟩
    · refine (ih hc).imp_right fun ⟨other, hother, hmem⟩ => ?_
      split_ifs with hsep
      · exact ⟨other, List.mem_cons_of_mem _ hother, hmem⟩
      · rcases List.mem_cons.mp hother with rfl | hother
        · exact ⟨_, List.mem_cons_self, List.mem_cons_of_mem _ hmem⟩
        · exact ⟨other, List.mem_cons_of_mem _ hother, hmem⟩

/-- What holds of every part and of the mark between them holds of the whole. -/
theorem forall_of_splitOn {cs : List Char} (sep : Char) {P : Char → Prop} (hsep : P sep)
    (h : ∀ part ∈ cs.splitOn sep, ∀ c ∈ part, P c) : ∀ c ∈ cs, P c := fun _ hc =>
  (eq_or_mem_of_splitOn sep hc).elim (· ▸ hsep) fun ⟨part, hpart, hmem⟩ => h part hpart _ hmem

section Pieces

variable {cs : List Char}

theorem isAddressChar_of_piece? {n : Nat} (h : piece? cs = some n) :
    ∀ c ∈ cs, isAddressChar c = true := by
  intro c hc
  rw [piece?] at h
  split at h
  · cases h
  · obtain ⟨digits, hdigits, -⟩ := Option.map_eq_some_iff.mp h
    obtain ⟨digit, hdigit⟩ := exists_of_mapM_eq_some hdigits c hc
    simp [isAddressChar, hdigit]

theorem isAddressChar_of_octet? {n : Nat} (h : octet? cs = some n) :
    ∀ c ∈ cs, isAddressChar c = true := by
  intro c hc
  rw [octet?] at h
  split at h
  · cases h
  · rename_i hdigits
    simp only [Bool.or_eq_true, Bool.not_eq_true', not_or, Bool.not_eq_false] at hdigits
    exact isAddressChar_of_isDigit (List.all_eq_true.mp hdigits.1.2 c hc)

/-- **An address of four numbers is written with the characters of addresses.** -/
theorem isAddressChar_of_dotted? {ps : List Nat} (h : dotted? cs = some ps) :
    ∀ c ∈ cs, isAddressChar c = true := by
  simp only [dotted?, Option.bind_eq_bind, Option.bind_eq_some_iff] at h
  obtain ⟨octets, hoctets, -⟩ := h
  refine forall_of_splitOn '.' (by decide) fun part hpart => ?_
  obtain ⟨n, hn⟩ := exists_of_mapM_eq_some hoctets part hpart
  exact isAddressChar_of_octet? hn

/-- **So are the pieces of a longer one.** -/
theorem isAddressChar_of_pieces? {dottedEnd : Bool} {ps : List Nat}
    (h : pieces? dottedEnd cs = some ps) : ∀ c ∈ cs, isAddressChar c = true := by
  rw [pieces?] at h
  split at h
  · simp_all
  refine forall_of_splitOn ':' (by decide) fun part hpart => ?_
  dsimp only at h
  split at h
  · simp only [Option.bind_eq_bind, Option.bind_eq_some_iff] at h
    obtain ⟨front, hfront, tail, htail, -⟩ := h
    have hne : cs.splitOn ':' ≠ [] := List.splitOn_ne_nil ':' cs
    have hlast : (cs.splitOn ':').getLastD [] = (cs.splitOn ':').getLast hne := by
      rw [List.getLastD_eq_getLast?, List.getLast?_eq_some_getLast hne, Option.getD_some]
    rw [← List.dropLast_concat_getLast hne, ← hlast] at hpart
    rcases List.mem_append.mp hpart with hpart | hpart
    · obtain ⟨n, hn⟩ := exists_of_mapM_eq_some hfront part hpart
      exact isAddressChar_of_piece? hn
    · rw [List.mem_singleton.mp hpart]
      exact isAddressChar_of_dotted? htail
  · obtain ⟨n, hn⟩ := exists_of_mapM_eq_some h part hpart
    exact isAddressChar_of_piece? hn

/-- A double colon parts an address in two. -/
theorem eq_append_of_splitDoubleColon {front back : List Char}
    (h : splitDoubleColon cs = some (front, back)) : cs = front ++ ':' :: ':' :: back := by
  fun_induction splitDoubleColon cs generalizing front back with
  | case1 cs =>
    cases h
    rfl
  | case2 => cases h
  | case3 c cs _ ih =>
    obtain ⟨⟨front, back⟩, h, heq⟩ := Option.map_eq_some_iff.mp h
    cases heq
    rw [ih h, List.cons_append]

/-- **An address of version 6 is written in its own characters.** -/
theorem isAddressChar_of_parseIpv6 {host : Host} (h : parseIpv6 cs = .ok host) :
    ∀ c ∈ cs, isAddressChar c = true := by
  rw [parseIpv6] at h
  cases hsplit : splitDoubleColon cs with
  | none =>
    simp only [hsplit] at h
    split at h
    · exact isAddressChar_of_pieces? ‹_›
    · cases h
  | some halves =>
    obtain ⟨front, back⟩ := halves
    simp only [hsplit] at h
    split at h
    · rename_i hpieces
      simp only [Option.bind_eq_bind, Option.bind_eq_some_iff] at hpieces
      obtain ⟨ps, hfront, qs, hback, -⟩ := hpieces
      have hcolon : isAddressChar ':' = true := by decide
      rw [eq_append_of_splitDoubleColon hsplit]
      simp only [List.mem_append, List.mem_cons]
      rintro c (hc | rfl | rfl | hc)
      · exact isAddressChar_of_pieces? hfront c hc
      · exact hcolon
      · exact hcolon
      · exact isAddressChar_of_pieces? hback c hc
    · cases h

end Pieces

/-! ## The text of a host -/

/-- How a host is written: **an address in brackets, or a name.** -/
inductive IsHostText : List Char → Prop
  | bracketed {inner : List Char} : (∀ c ∈ inner, isAddressChar c = true) →
      IsHostText ('[' :: inner ++ [']'])
  | name {cs : List Char} : (∀ c ∈ cs, isDelimiter c = false) → IsHostText cs

/-- **What is read as a host holds no delimiter.** -/
theorem isHostText_of_parse [Idna] {cs : List Char} {host : Host} (h : parse cs = .ok host) :
    IsHostText cs := by
  unfold parse at h
  split at h
  · rename_i rest
    split at h
    · rename_i hlast
      obtain ⟨inner, rfl⟩ := List.getLast?_eq_some_iff.mp hlast
      rw [List.dropLast_concat] at h
      exact .bracketed (isAddressChar_of_parseIpv6 h)
    · cases h
  · cases hname : domainToAscii (Percent.decode cs) with
    | error fault =>
      rw [hname] at h
      cases h
    | ok name => exact .name fun c => not_isDelimiter_of_domainToAscii hname

end Host

end Url

end Sidecar
