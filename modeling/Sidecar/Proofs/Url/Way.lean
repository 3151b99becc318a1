import Mathlib
import Sidecar.Proofs.Url.Page
import Sidecar.Proofs.Url.Server

/-!
# Proofs/Url/Way — the ways that lead to a server's front page

What follows a server in an address is a path, and perhaps a query and a fragment.  A path leads
down with each name and up with each `..`, but never above the root nor out of a drive; **a request
goes to the front page just if there is no query and the path ends at the root**
(`target_eq_root_iff`).
-/

namespace Sidecar.Url

/-! ## How deep a path leads -/

/-- How far below the root a path ends that starts at some depth: **names lead down and `..` leads
up**, and where nothing follows the last slash, the path ends where it has led to. -/
def depth : Nat → List (List Char) → Nat
  | d, [] => d
  | d, [s] => if isDoubleDot s then d - 1 else if isDot s || s.isEmpty then d else d + 1
  | d, s :: rest => depth (if isDoubleDot s then d - 1 else if isDot s then d else d + 1) rest

/-- A path that ends at the root. -/
def IsHome (segments : List (List Char)) : Prop :=
  (∀ s ∈ segments, isDrive s = false) ∧ depth 0 segments = 0

instance (segments : List (List Char)) : Decidable (IsHome segments) :=
  inferInstanceAs (Decidable (_ ∧ _))

/-! ## Names, encoded -/

theorem percent_mem_encodeChar (c : Char) :
    '%' ∈ (String.utf8EncodeChar c).flatMap Percent.encodeOctet := by
  obtain ⟨octet, octets, hoctets⟩ :=
    List.exists_cons_of_ne_nil (String.utf8EncodeChar_ne_nil (c := c))
  rw [hoctets, List.flatMap_cons]
  exact List.mem_append_left _ List.mem_cons_self

/-- **What is encoded leaves a percent sign.** -/
theorem percent_mem_encode {set : Char → Bool} {cs : List Char} {c : Char} (hc : c ∈ cs)
    (hset : set c = true) : '%' ∈ Percent.encode set cs :=
  List.mem_flatMap.mpr ⟨c, hc, by rw [if_pos hset]; exact percent_mem_encodeChar c⟩

theorem encode_eq_nil_iff (set : Char → Bool) (cs : List Char) :
    Percent.encode set cs = [] ↔ cs = [] := by
  refine ⟨fun h => ?_, fun h => by rw [h]; rfl⟩
  cases cs with
  | nil => rfl
  | cons c cs =>
    have hpart := List.flatMap_eq_nil_iff.mp h c List.mem_cons_self
    split at hpart
    · exact absurd (hpart ▸ percent_mem_encodeChar c) List.not_mem_nil
    · cases hpart

/-- **A drive's letter is not encoded.** -/
theorem kept_of_isDrive {s : List Char} (h : isDrive s = true) :
    ∀ c ∈ s, Percent.inPath c = false ∧ c ≠ '%' := by
  unfold isDrive at h
  split at h
  · rename_i letter mark
    simp only [Bool.and_eq_true, Bool.or_eq_true, decide_eq_true_eq] at h
    obtain ⟨hletter, hmark⟩ := h
    have hword : isWordChar letter = true := by simp [isWordChar, Char.isAlphanum, hletter]
    have hkept : Percent.inPath letter = false ∧ letter ≠ '%' := by
      refine ⟨(of_isWordChar hword).1, ?_⟩
      rintro rfl
      cases hletter
    simp only [List.mem_cons, List.not_mem_nil, or_false]
    rintro c (rfl | rfl)
    · exact hkept
    · rcases hmark with rfl | rfl <;> decide
  · cases h

/-- **No name becomes a drive when it is encoded**, and a drive stays one. -/
theorem isDrive_encode (s : List Char) : isDrive (Percent.encode Percent.inPath s) = isDrive s := by
  by_cases hkept : ∀ c ∈ s, Percent.inPath c = false
  · rw [encode_of_kept hkept]
  · simp only [not_forall, Bool.not_eq_false] at hkept
    obtain ⟨c, hc, hencoded⟩ := hkept
    have hpercent := percent_mem_encode hc hencoded
    have hbefore : isDrive s = false := by
      rw [← Bool.not_eq_true]
      intro h
      rw [(kept_of_isDrive h c hc).1] at hencoded
      cases hencoded
    have hafter : isDrive (Percent.encode Percent.inPath s) = false := by
      rw [← Bool.not_eq_true]
      exact fun h => (kept_of_isDrive h _ hpercent).2 rfl
    rw [hbefore, hafter]

/-! ## Drives -/

/-- **A drive is not left.** -/
theorem mem_leave {done : List (List Char)} {s : List Char} (hs : isDrive s = true) (h : s ∈ done) :
    s ∈ leave done := by
  cases done with
  | nil => cases h
  | cons top done =>
    rw [leave]
    split
    · exact h
    · rename_i htop
      exact (List.mem_cons.mp h).resolve_left fun heq => htop (heq ▸ hs)

/-- **No path leads out of a drive.** -/
theorem mem_resolve {done segments : List (List Char)} {s : List Char} (hs : isDrive s = true)
    (h : s ∈ done) : s ∈ resolve done segments := by
  fun_induction resolve done segments with
  | case1 => exact h
  | case2 => exact List.mem_cons_of_mem _ (mem_leave hs h)
  | case3 | case4 => exact List.mem_cons_of_mem _ h
  | case5 done t rest _ _ ih => exact ih (mem_leave hs h)
  | case6 done t rest _ _ _ ih => exact ih h
  | case7 done t rest _ _ _ ih => exact ih (List.mem_cons_of_mem _ h)

theorem not_dot_of_isDrive {s : List Char} (h : isDrive s = true) :
    isDot s = false ∧ isDoubleDot s = false := by
  unfold isDrive at h
  split at h
  · rename_i letter mark
    have hletter : letter ≠ '.' := by
      rintro rfl
      cases h
    simp [isDot, isDoubleDot, hletter]
  · cases h

/-- **A drive stays in the path.** -/
theorem mem_resolve_of_isDrive {done segments : List (List Char)} {s : List Char}
    (hs : isDrive s = true) (h : s ∈ segments) : s ∈ resolve done segments := by
  have hencode : Percent.encode Percent.inPath s = s :=
    encode_of_kept fun c hc => (kept_of_isDrive hs c hc).1
  obtain ⟨hdot, hdoubleDot⟩ := not_dot_of_isDrive hs
  fun_induction resolve done segments with
  | case1 => cases h
  | case2 => simp_all
  | case3 => simp_all
  | case4 => simp_all
  | case5 => grind
  | case6 => grind
  | case7 done t rest _ _ _ ih =>
    rcases List.mem_cons.mp h with rfl | h
    · exact mem_resolve hs (by rw [hencode]; exact List.mem_cons_self)
    · exact ih h

theorem leave_eq_tail {done : List (List Char)} (h : ∀ s ∈ done, isDrive s = false) :
    leave done = done.tail := by
  cases done with
  | nil => rfl
  | cons s done => simp [leave, h s List.mem_cons_self]

/-- **The way down and up, name by name.** -/
theorem depth_cons (d : Nat) (s : List Char) {rest : List (List Char)} (h : rest ≠ []) :
    depth d (s :: rest) =
      depth (if isDoubleDot s then d - 1 else if isDot s then d else d + 1) rest := by
  cases rest with
  | nil => exact absurd rfl h
  | cons t rest => rfl

/-- **A path that enters no drive ends at the root just if it leads to no depth.** -/
theorem resolve_eq_root_iff {done segments : List (List Char)}
    (hdone : ∀ s ∈ done, isDrive s = false) (hsegments : ∀ s ∈ segments, isDrive s = false)
    (hne : segments ≠ []) : resolve done segments = [[]] ↔ depth done.length segments = 0 := by
  have hleave : ∀ done : List (List Char), (∀ s ∈ done, isDrive s = false) →
      (leave done).length = done.length - 1 := fun done h => by
    rw [leave_eq_tail h, List.length_tail]
  fun_induction resolve done segments with
  | case1 => exact absurd rfl hne
  | case2 done s hdoubleDot =>
    simp [depth, hdoubleDot, ← hleave done hdone]
  | case3 done s hdoubleDot hdot => simp [depth, hdoubleDot, hdot]
  | case4 done s hdoubleDot hdot =>
    cases s <;> simp [depth, hdoubleDot, hdot, encode_eq_nil_iff]
  | case5 done s rest hrest hdoubleDot ih =>
    rw [depth_cons _ _ hrest, if_pos hdoubleDot, ← hleave done hdone]
    refine ih ?_ (List.forall_mem_cons.mp hsegments).2 hrest
    rw [leave_eq_tail hdone]
    exact fun t ht => hdone t (List.mem_of_mem_tail ht)
  | case6 done s rest hrest hdoubleDot hdot ih =>
    rw [depth_cons _ _ hrest, if_neg hdoubleDot, if_pos hdot]
    exact ih hdone (List.forall_mem_cons.mp hsegments).2 hrest
  | case7 done s rest hrest hdoubleDot hdot ih =>
    rw [depth_cons _ _ hrest, if_neg hdoubleDot, if_neg hdot]
    obtain ⟨hs, hsegments⟩ := List.forall_mem_cons.mp hsegments
    exact ih (List.forall_mem_cons.mpr ⟨(isDrive_encode s).trans hs, hdone⟩) hsegments hrest

theorem splitSlashes_ne_nil (cs : List Char) : splitSlashes cs ≠ [] := by
  fun_cases splitSlashes cs <;> simp

/-- **A path is home just if it is resolved to the front page.** -/
theorem segmentsFrom_eq_root_iff (path : List Char) :
    segmentsFrom [] path = [[]] ↔ IsHome (splitSlashes path) := by
  have hroot : segmentsFrom [] path = [[]] ↔ resolve [] (splitSlashes path) = [[]] :=
    List.reverse_eq_iff
  have hnone : ∀ s ∈ ([] : List (List Char)), isDrive s = false := by simp
  rw [hroot, IsHome]
  constructor
  · intro h
    have hdrive : ∀ s ∈ splitSlashes path, isDrive s = false := by
      intro s hs
      -- a drive is never left, so it would be in the path at the end
      by_contra hdrive
      rw [Bool.not_eq_false] at hdrive
      have hmem : s ∈ resolve [] (splitSlashes path) := mem_resolve_of_isDrive hdrive hs
      rw [h, List.mem_singleton] at hmem
      rw [hmem] at hdrive
      cases hdrive
    exact ⟨hdrive, (resolve_eq_root_iff hnone hdrive (splitSlashes_ne_nil path)).mp h⟩
  · rintro ⟨hdrive, hdepth⟩
    exact (resolve_eq_root_iff hnone hdrive (splitSlashes_ne_nil path)).mpr hdepth

/-! ## What follows a server -/

/-- A path without a query, and the fragment behind it. -/
structure PathOnly (path fragment : List Char) : Prop where
  path : ∀ c ∈ path, c ≠ '?' ∧ c ≠ '#'
  fragment : fragment = [] ∨ fragment.head? = some '#'

/-- What follows a server leads to its front page: **no query, and a path that ends at the
root.** -/
def LeadsHome (tail : List Char) : Prop :=
  ∃ path fragment, tail = path ++ fragment ∧ PathOnly path fragment ∧
    IsHome (splitSlashes (path.drop 1))

/-- **A request goes to the front page** of a server just if its target is `/`. -/
theorem target_eq_root_iff (u : Url) : u.target = "/" ↔ u.segments = [[]] ∧ u.query = none := by
  have hroot : u.target = "/" ↔ u.path ++ (u.query.map ('?' :: ·)).getD [] = ['/'] := by
    rw [target, ← String.toList_inj, String.toList_ofList]
    rfl
  rw [hroot, path]
  rcases u.segments with _ | ⟨s, _ | ⟨t, rest⟩⟩ <;> cases u.query <;> simp

theorem PathOnly.splitTail_append {path fragment : List Char} (h : PathOnly path fragment) :
    (splitTail (path ++ fragment)).1 = path ∧ (splitTail (path ++ fragment)).2.1 = none := by
  have hhash : (path ++ fragment).takeWhile (fun c => !decide (c = '#')) = path := by
    rw [List.takeWhile_append_of_pos fun c hc => by simp [(h.path c hc).2]]
    rcases h.fragment with rfl | hhead
    · simp
    · obtain ⟨rest, rfl⟩ := List.head?_eq_some_iff.mp hhead
      simp
  have hmark : path.takeWhile (fun c => !decide (c = '?')) = path :=
    List.takeWhile_eq_self_iff.mpr fun c hc => by simp [(h.path c hc).1]
  have hrest : path.dropWhile (fun c => !decide (c = '?')) = [] :=
    List.dropWhile_eq_nil_iff.mpr fun c hc => by simp [(h.path c hc).1]
  simp only [splitTail, hhash, hmark, hrest, and_self]

theorem exists_pathOnly {tail : List Char} (h : (splitTail tail).2.1 = none) :
    ∃ fragment, tail = (splitTail tail).1 ++ fragment ∧ PathOnly (splitTail tail).1 fragment := by
  have hmark : ∀ c ∈ tail.takeWhile (fun c => !decide (c = '#')), c ≠ '?' := by
    simp only [splitTail] at h
    split at h
    · rename_i hrest
      simpa using List.dropWhile_eq_nil_iff.mp hrest
    · cases h
  have hpath : (splitTail tail).1 = tail.takeWhile (fun c => !decide (c = '#')) :=
    List.takeWhile_eq_self_iff.mpr fun c hc => by simp [hmark c hc]
  rw [hpath]
  refine ⟨tail.dropWhile (fun c => !decide (c = '#')), List.takeWhile_append_dropWhile.symm,
    fun c hc => ⟨hmark c hc, by simpa using List.mem_takeWhile_imp hc⟩, ?_⟩
  have hhead := List.head?_dropWhile_not (fun c => !decide (c = '#')) tail
  rcases hdrop : tail.dropWhile (fun c => !decide (c = '#')) with _ | ⟨c, rest⟩
  · exact .inl rfl
  · refine .inr ?_
    simpa [hdrop] using hhead

/-- **A path leads home just if its names come to nothing** and no query follows. -/
theorem splitTail_home_iff (tail : List Char) :
    (segmentsFrom [] ((splitTail tail).1.drop 1) = [[]] ∧ (splitTail tail).2.1 = none)
      ↔ LeadsHome tail := by
  rw [segmentsFrom_eq_root_iff]
  constructor
  · rintro ⟨hhome, hquery⟩
    obtain ⟨fragment, htail, hpath⟩ := exists_pathOnly hquery
    exact ⟨_, fragment, htail, hpath, hhome⟩
  · rintro ⟨path, fragment, rfl, hpath, hhome⟩
    obtain ⟨heq, hquery⟩ := hpath.splitTail_append
    exact ⟨heq.symm ▸ hhome, hquery⟩

/-- **A server is asked for its front page by what leads home**, and by nothing else. -/
theorem Server.target_url_iff [Idna] (w : Server) (isSecure : Bool) (tail : List Char) :
    (w.url isSecure tail).target = "/" ↔ LeadsHome tail :=
  (target_eq_root_iff _).trans (splitTail_home_iff tail)

end Sidecar.Url
