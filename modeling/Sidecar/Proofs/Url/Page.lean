import Mathlib.Data.List.TakeWhile
import Sidecar.Url

/-!
# Proofs/Url/Page — the addresses of a server's pages

The pages of a server have the server's address before them: what a page adds is its segments, its
query and its fragment (`parse_page`).  **A page is not the text that names it** — padding at its
end goes, dots are resolved, a `#` or a `?` ends it — but a plain name stands for itself
(`withPage_plain`).
-/

namespace Sidecar.Url

/-! ## A page after an authority -/

/-- The text of a page that is read: **without padding at its end, tabs and line breaks.** -/
def pageText (page : List Char) : List Char :=
  (page.reverse.dropWhile isPadding).reverse.filter (!isIgnored ·)

/-- The address of a page of the server at `root`. -/
def withPage (root : Url) (page : List Char) : Url :=
  { root with
    segments := segmentsFrom [] (splitTail (pageText page)).1
    query := (splitTail (pageText page)).2.1
    fragment := (splitTail (pageText page)).2.2 }

/-- A text that is an authority as a whole: **nothing in it ends one or is ignored.** -/
structure IsAuthority (cs : List Char) : Prop where
  ne_nil : cs ≠ []
  goes_on : ∀ c ∈ cs, endsAuthority c = false
  counts : ∀ c ∈ cs, isIgnored c = false

variable {authority page : List Char}

theorem clean_page (h : IsAuthority authority) (page : List Char) :
    clean ("http://".toList ++ authority ++ '/' :: page)
      = "http://".toList ++ authority ++ '/' :: pageText page := by
  have hauthority : authority.filter (!isIgnored ·) = authority :=
    List.filter_eq_self.mpr fun c hc => by simp [h.counts c hc]
  have hfront : ∀ cs, ("http://".toList ++ cs).dropWhile isPadding = "http://".toList ++ cs :=
    fun cs => rfl
  have hback : (page.reverse ++ '/' :: ("http://".toList ++ authority).reverse).dropWhile isPadding
      = page.reverse.dropWhile isPadding ++ '/' :: ("http://".toList ++ authority).reverse := by
    rw [List.dropWhile_append]
    split
    · rename_i hnil
      rw [List.isEmpty_iff.mp hnil]
      rfl
    · rfl
  rw [clean, List.append_assoc, hfront, ← List.append_assoc, List.reverse_append,
    List.reverse_cons, List.append_assoc, List.singleton_append, hback]
  simp only [List.reverse_append, List.reverse_cons, List.reverse_reverse, List.append_assoc,
    List.singleton_append, List.filter_append, hauthority, pageText]
  rfl

theorem splitTail_slash (cs : List Char) :
    splitTail ('/' :: cs) = ('/' :: (splitTail cs).1, (splitTail cs).2.1, (splitTail cs).2.2) := by
  simp [splitTail]

/-- **What a page adds to the address of its server.** -/
theorem parseAuthority_page [Idna] (h : ∀ c ∈ authority, endsAuthority c = false)
    (isSecure : Bool) (tail : List Char) : parseAuthority isSecure (authority ++ '/' :: tail) =
      (parseAuthority isSecure (authority ++ ['/'])).map fun root =>
        { root with
          segments := segmentsFrom [] (splitTail tail).1
          query := (splitTail tail).2.1
          fragment := (splitTail tail).2.2 } := by
  have htake : ∀ rest, (authority ++ '/' :: rest).takeWhile (!endsAuthority ·) = authority := by
    intro rest
    rw [List.takeWhile_append_of_pos fun c hc => by simp [h c hc]]
    simp [endsAuthority, isSlash]
  have hdrop : ∀ rest, (authority ++ '/' :: rest).dropWhile (!endsAuthority ·) = '/' :: rest := by
    intro rest
    rw [List.dropWhile_append_of_pos fun c hc => by simp [h c hc]]
    simp [endsAuthority, isSlash]
  simp only [parseAuthority, htake, hdrop, splitTail_slash]
  split
  · rfl
  · cases Host.parse (splitHost false (splitUserInfo authority).2).1 with
    | error fault => rfl
    | ok host =>
      cases parsePort isSecure ((splitHost false (splitUserInfo authority).2).2.drop 1) with
      | error fault => rfl
      | ok port => rfl

theorem splitScheme_http (rest : List Char) :
    splitScheme ("http:".toList ++ rest) = some ("http".toList, rest) := by
  rfl

/-- **The address of a page is that of the front page, with what the page adds.** -/
theorem parse_page [Idna] {base : String} (hbase : base.toList = "http://".toList ++ authority)
    (h : IsAuthority authority) (page : String) :
    parse (base ++ "/" ++ page) = (parse (base ++ "/")).map (·.withPage page.toList) := by
  have hslash : ∀ rest, ("//".toList ++ authority ++ rest).dropWhile isSlash
      = authority ++ rest := by
    intro rest
    obtain ⟨c, cs, rfl⟩ := List.exists_cons_of_ne_nil h.ne_nil
    have hgoes : ¬ isSlash c = true := fun hc => by
      simpa [endsAuthority, hc] using h.goes_on c (List.mem_cons_self ..)
    change ('/' :: '/' :: c :: (cs ++ rest)).dropWhile isSlash = _
    rw [List.dropWhile_cons_of_pos rfl, List.dropWhile_cons_of_pos rfl,
      List.dropWhile_cons_of_neg hgoes, List.cons_append]
  have hread : ∀ page : String, parse (base ++ "/" ++ page)
      = parseAuthority false (authority ++ '/' :: pageText page.toList) := by
    intro page
    have htext : (base ++ "/" ++ page).toList
        = "http://".toList ++ authority ++ '/' :: page.toList := by
      simp [String.toList_append, hbase]
    have hscheme : splitScheme (clean (base ++ "/" ++ page).toList)
        = some ("http".toList, "//".toList ++ authority ++ '/' :: pageText page.toList) := by
      rw [htext, clean_page h]
      exact splitScheme_http _
    rw [parse, hscheme]
    simp only [schemeSecurity?, if_true, hslash]
  have hfront : parse (base ++ "/") = parseAuthority false (authority ++ ['/']) := by
    simpa [pageText] using hread ""
  rw [hread, parseAuthority_page h.goes_on, hfront]
  rfl

/-! ## Plain names -/

/-- A name that stands for itself as a page: **it is one segment, and nothing in it is written in
another way.** -/
structure IsPlainName (cs : List Char) : Prop where
  kept : ∀ c ∈ cs, Percent.inPath c = false
  one : ∀ c ∈ cs, isSlash c = false
  not_dot : isDot cs = false
  not_doubleDot : isDoubleDot cs = false

theorem inPath_of_isIgnored {c : Char} (h : isIgnored c = true) : Percent.inPath c = true := by
  obtain rfl | rfl | rfl : c = '\t' ∨ c = '\n' ∨ c = '\r' := by
    simpa [isIgnored, or_assoc] using h
  all_goals decide

theorem inPath_of_isPadding {c : Char} (h : isPadding c = true) : Percent.inPath c = true := by
  have hle : c.toNat ≤ 0x20 := of_decide_eq_true h
  rcases Nat.lt_or_eq_of_le hle with hlt | heq
  · simp [Percent.inPath, Percent.inFragment, Percent.always, hlt]
  · obtain rfl : c = ' ' := Char.toNat_inj.mp heq
    decide

theorem splitSlashes_of_one {cs : List Char} (h : ∀ c ∈ cs, isSlash c = false) :
    splitSlashes cs = [cs] := by
  induction cs with
  | nil => rfl
  | cons c cs ih =>
    rw [splitSlashes, ih fun c hc => h c (List.mem_cons_of_mem _ hc)]
    simp [h c (List.mem_cons_self ..)]

/-- **What a set keeps is not encoded.** -/
theorem encode_of_kept {cs : List Char} {set : Char → Bool} (h : ∀ c ∈ cs, set c = false) :
    Percent.encode set cs = cs := by
  induction cs with
  | nil => rfl
  | cons c cs ih =>
    have hcons : Percent.encode set (c :: cs)
        = (if set c then (String.utf8EncodeChar c).flatMap Percent.encodeOctet else [c])
          ++ Percent.encode set cs := List.flatMap_cons
    rw [hcons, ih fun c hc => h c (List.mem_cons_of_mem _ hc)]
    simp [h c (List.mem_cons_self ..)]

namespace IsPlainName

variable {cs : List Char}

theorem pageText_eq (h : IsPlainName cs) : pageText cs = cs := by
  have hcounts : ∀ c ∈ cs, (!isIgnored c) = true := fun c hc => by
    have hkept := h.kept c hc
    cases hignored : isIgnored c with
    | false => rfl
    | true => rw [inPath_of_isIgnored hignored] at hkept; cases hkept
  have hend : cs.reverse.dropWhile isPadding = cs.reverse := by
    rcases hreverse : cs.reverse with _ | ⟨c, rest⟩
    · rfl
    · refine List.dropWhile_cons_of_neg fun hpadding => ?_
      have hkept := h.kept c (List.mem_reverse.mp (hreverse ▸ List.mem_cons_self ..))
      rw [inPath_of_isPadding hpadding] at hkept
      cases hkept
  rw [pageText, hend, List.reverse_reverse]
  exact List.filter_eq_self.mpr hcounts

theorem splitTail_eq (h : IsPlainName cs) : splitTail cs = (cs, none, none) := by
  have hhash : ∀ c ∈ cs, c ≠ '#' := by
    rintro _ hc rfl
    exact absurd (h.kept _ hc) (by decide)
  have hmark : ∀ c ∈ cs, c ≠ '?' := by
    rintro _ hc rfl
    exact absurd (h.kept _ hc) (by decide)
  have htake : cs.takeWhile (fun c => !decide (c = '#')) = cs :=
    List.takeWhile_eq_self_iff.mpr fun c hc => by simp [hhash c hc]
  have hdrop : cs.dropWhile (fun c => !decide (c = '#')) = [] :=
    List.dropWhile_eq_nil_iff.mpr fun c hc => by simp [hhash c hc]
  have htake' : cs.takeWhile (fun c => !decide (c = '?')) = cs :=
    List.takeWhile_eq_self_iff.mpr fun c hc => by simp [hmark c hc]
  have hdrop' : cs.dropWhile (fun c => !decide (c = '?')) = [] :=
    List.dropWhile_eq_nil_iff.mpr fun c hc => by simp [hmark c hc]
  simp only [splitTail, htake, hdrop, htake', hdrop']

theorem segmentsFrom_eq (h : IsPlainName cs) : segmentsFrom [] cs = [cs] := by
  rw [segmentsFrom, splitSlashes_of_one h.one]
  simp [resolve, h.not_dot, h.not_doubleDot, encode_of_kept h.kept]

end IsPlainName

/-- Letters and digits of ASCII, `-` and `_`. -/
def isWordChar (c : Char) : Bool := c.isAlphanum || c = '-' || c = '_'

theorem toNat_lt_of_isWordChar {c : Char} (h : isWordChar c = true) : c.toNat < 128 := by
  have hcases : (((c.isUpper || c.isLower) || c.isDigit) || decide (c = '-') || decide (c = '_'))
      = true := h
  simp only [Bool.or_eq_true, decide_eq_true_eq] at hcases
  rcases hcases with (((hupper | hlower) | hdigit) | rfl) | rfl
  · have hle : c.val ≤ 'Z'.val := (of_decide_eq_true hupper).2
    exact Nat.lt_of_le_of_lt hle (by decide)
  · have hle : c.val ≤ 'z'.val := of_decide_eq_true ((Bool.and_eq_true _ _).mp hlower).2
    exact Nat.lt_of_le_of_lt hle (by decide)
  · have hle : c.val ≤ '9'.val := of_decide_eq_true ((Bool.and_eq_true _ _).mp hdigit).2
    exact Nat.lt_of_le_of_lt hle (by decide)
  · decide
  · decide

/-- **Letters and digits stand for themselves in a path.** -/
theorem of_isWordChar {c : Char} (h : isWordChar c = true) :
    Percent.inPath c = false ∧ isSlash c = false ∧ c ≠ '.' ∧ c.toLower ≠ '%' := by
  have hall : ∀ n < 128, isWordChar (Char.ofNat n) = true → Percent.inPath (Char.ofNat n) = false ∧
      isSlash (Char.ofNat n) = false ∧ Char.ofNat n ≠ '.' ∧ (Char.ofNat n).toLower ≠ '%' := by
    decide +kernel
  have hc := hall c.toNat (toNat_lt_of_isWordChar h)
  rw [Char.ofNat_toNat] at hc
  exact hc h

/-- **A word is a plain name.** -/
theorem IsPlainName.of_word {cs : List Char} (h : ∀ c ∈ cs, isWordChar c = true) :
    IsPlainName cs where
  kept c hc := (of_isWordChar (h c hc)).1
  one c hc := (of_isWordChar (h c hc)).2.1
  not_dot := by
    cases cs with
    | nil => rfl
    | cons c rest =>
      obtain ⟨-, -, hdot, hpercent⟩ := of_isWordChar (h c (List.mem_cons_self ..))
      simp [isDot, hdot, hpercent]
  not_doubleDot := by
    unfold isDoubleDot
    split
    · exact absurd rfl (of_isWordChar (h _ (List.mem_cons_self ..))).2.2.1
    · exact absurd (by decide) (of_isWordChar (h _ (List.mem_cons_self ..))).2.2.2
    · rfl

/-- **A plain name stands for itself.** -/
theorem withPage_plain {cs : List Char} (h : IsPlainName cs) (root : Url) :
    root.withPage cs = { root with segments := [cs], query := none, fragment := none } := by
  rw [withPage, h.pageText_eq, h.splitTail_eq, h.segmentsFrom_eq]

/-- **A plain name is its own page.** -/
theorem target_withPage_plain {cs : List Char} (h : IsPlainName cs) (root : Url) :
    (root.withPage cs).target = String.ofList ('/' :: cs) := by
  simp [withPage_plain h, target, path]

end Sidecar.Url
