import Mathlib.Data.List.DropRight
import Sidecar.Text.Blank

/-!
# Proofs/Text/Blank — what trimming leaves, and the lines of a text put together from lines

`trim` drops the blanks at both ends and nothing else.  `unlines` puts a line feed after every line,
and `lines` takes them apart again: **a text put together from lines has these lines**, but for the
carriage returns before its line feeds (`lines_unlines_append`).
-/

namespace Sidecar.Text

/-! ## Blanks -/

/-- **No letter and no digit is a blank.** -/
theorem isBlank_of_isAlphanum {c : Char} (h : c.isAlphanum = true) : isBlank c = false := by
  have hcode : 65 ≤ c.toNat ∧ c.toNat ≤ 90 ∨ 97 ≤ c.toNat ∧ c.toNat ≤ 122 ∨
      48 ≤ c.toNat ∧ c.toNat ≤ 57 := by
    rcases Bool.or_eq_true_iff.mp h with hletter | hdigit
    · rcases Bool.or_eq_true_iff.mp hletter with hupper | hlower
      · exact .inl (of_decide_eq_true hupper)
      · exact .inr (.inl ((Bool.and_eq_true_iff.mp hlower).imp of_decide_eq_true of_decide_eq_true))
    · exact .inr (.inr ((Bool.and_eq_true_iff.mp hdigit).imp of_decide_eq_true of_decide_eq_true))
  simp only [isBlank, Bool.or_eq_false_iff, Bool.and_eq_false_iff, decide_eq_false_iff_not,
    beq_eq_false_iff_ne]
  omega

/-! ## Trimming -/

/-- **A blank at the end goes, and any other character keeps what is before it.** -/
theorem trimEnd_concat (cs : List Char) (c : Char) :
    trimEnd (cs ++ [c]) = if isBlank c then trimEnd cs else cs ++ [c] := by
  induction cs with
  | nil => rfl
  | cons d cs ih =>
    rw [List.cons_append, trimEnd, ih]
    cases hc : isBlank c with
    | true => simp [trimEnd]
    | false => cases cs <;> simp

/-- **The end is trimmed of its blanks.** -/
theorem trimEnd_eq_rdropWhile (cs : List Char) : trimEnd cs = cs.rdropWhile isBlank := by
  induction cs using List.reverseRecOn with
  | nil => rfl
  | append_singleton cs c ih => rw [trimEnd_concat, List.rdropWhile_concat, ih]

/-- A text with no blank at either end. -/
structure Trimmed (cs : List Char) : Prop where
  head : cs.head?.any isBlank = false
  last : cs.getLast?.any isBlank = false

instance (cs : List Char) : Decidable (Trimmed cs) :=
  decidable_of_iff (cs.head?.any isBlank = false ∧ cs.getLast?.any isBlank = false)
    ⟨fun h => ⟨h.1, h.2⟩, fun h => ⟨h.1, h.2⟩⟩

theorem Trimmed.trimEnd {cs : List Char} (h : Trimmed cs) : trimEnd cs = cs := by
  rw [trimEnd_eq_rdropWhile, List.rdropWhile_eq_self_iff]
  intro hne
  have hlast := h.last
  rw [List.getLast?_eq_some_getLast hne] at hlast
  simpa using hlast

theorem Trimmed.append {cs cs' : List Char} (h : Trimmed cs) (h' : Trimmed cs') (hne : cs ≠ [])
    (hne' : cs' ≠ []) (between : List Char) : Trimmed (cs ++ between ++ cs') where
  head := by rw [List.append_assoc, List.head?_append_of_ne_nil _ hne, h.head]
  last := by rw [List.getLast?_append_of_ne_nil _ hne', h'.last]

/-- **A text without blanks at its ends is left as it is.** -/
theorem Trimmed.trim {cs : List Char} (h : Trimmed cs) : trim cs = cs := by
  have hdrop : cs.dropWhile isBlank = cs := by
    cases cs with
    | nil => rfl
    | cons c cs => exact List.dropWhile_cons_of_neg (by simpa using h.head)
  rw [Text.trim, hdrop, h.trimEnd]

/-- **Blanks before a text are trimmed.** -/
theorem trim_append_left {blanks : List Char} (h : ∀ c ∈ blanks, isBlank c = true)
    (cs : List Char) : trim (blanks ++ cs) = trim cs := by
  rw [trim, List.dropWhile_append_of_pos h, trim]

theorem trim_concat (cs : List Char) {c : Char} (h : isBlank c = true) :
    trim (cs ++ [c]) = trim cs := by
  rw [trim, List.dropWhile_append, trim]
  split
  · rename_i hempty
    rw [List.isEmpty_iff.mp hempty, List.dropWhile_cons_of_pos h, List.dropWhile_nil]
  · rw [trimEnd_concat, if_pos h]

theorem trim_eq_nil {cs : List Char} (h : ∀ c ∈ cs, isBlank c = true) : trim cs = [] := by
  rw [← List.append_nil cs, trim_append_left h]
  rfl

/-- **Blanks after a text are trimmed.** -/
theorem trim_append_right (cs : List Char) {blanks : List Char}
    (h : ∀ c ∈ blanks, isBlank c = true) : trim (cs ++ blanks) = trim cs := by
  induction blanks using List.reverseRecOn with
  | nil => rw [List.append_nil]
  | append_singleton blanks c ih =>
    rw [← List.append_assoc, trim_concat _ (h c (by simp)), ih fun d hd => h d (by simp [hd])]

/-- **Only blanks are trimmed away.** -/
theorem exists_trim (cs : List Char) : ∃ before after : List Char,
    (∀ c ∈ before, isBlank c = true) ∧ (∀ c ∈ after, isBlank c = true) ∧
      cs = before ++ trim cs ++ after := by
  refine ⟨cs.takeWhile isBlank, (cs.dropWhile isBlank).rtakeWhile isBlank,
    fun _ => List.mem_takeWhile_imp, fun _ => List.mem_rtakeWhile_imp, ?_⟩
  rw [trim, trimEnd_eq_rdropWhile, List.append_assoc, List.rdropWhile_append_rtakeWhile,
    List.takeWhile_append_dropWhile]

/-- **Nothing is left of blanks alone.** -/
theorem trim_eq_nil_iff (cs : List Char) : trim cs = [] ↔ ∀ c ∈ cs, isBlank c = true := by
  refine ⟨fun h => ?_, trim_eq_nil⟩
  obtain ⟨before, after, hbefore, hafter, hcs⟩ := exists_trim cs
  rw [h, List.append_nil] at hcs
  intro c hc
  rw [hcs] at hc
  exact (List.mem_append.mp hc).elim (hbefore c) (hafter c)

/-! ## Lines -/

/-- The lines, each ended by a line feed. -/
def unlines (ls : List (List Char)) : List Char := ls.flatMap (· ++ ['\n'])

/-- The line without the carriage return that ends it. -/
def withoutReturn : List Char → List Char
  | [] => []
  | ['\r'] => []
  | c :: cs => c :: withoutReturn cs

theorem withoutReturn_cases (l : List Char) :
    withoutReturn l = l ∨ l = withoutReturn l ++ ['\r'] := by
  fun_induction withoutReturn l with
  | case1 => exact .inl rfl
  | case2 => exact .inr rfl
  | case3 c cs _ ih => exact ih.imp (congrArg _) (congrArg _)

/-- **A line feed ends the line before it.** -/
theorem lines_append {l : List Char} (h : '\n' ∉ l) (cs : List Char) :
    lines (l ++ '\n' :: cs) = withoutReturn l :: lines cs := by
  fun_induction withoutReturn l with
  | case1 => rfl
  | case2 => rfl
  | case3 c l hreturn ih =>
    obtain ⟨hc, hl⟩ : '\n' ≠ c ∧ '\n' ∉ l := by simpa using h
    rw [List.cons_append, lines, ih hl]
    · exact hc.symm
    · rintro rest rfl heq
      -- The line is the return alone, since no line feed is in it.
      cases l with
      | nil => exact hreturn rfl rfl
      | cons d l => exact hl (List.head_eq_of_cons_eq heq ▸ List.mem_cons_self)

/-- **What no line feed ends is a line of its own**, if it is anything. -/
theorem lines_of_not_mem {l : List Char} (h : '\n' ∉ l) :
    lines l = if l = [] then [] else [l] := by
  induction l with
  | nil => rfl
  | cons c l ih =>
    obtain ⟨hc, hl⟩ : '\n' ≠ c ∧ '\n' ∉ l := by simpa using h
    rw [lines, ih hl]
    · cases l <;> rfl
    · exact hc.symm
    · rintro rest rfl rfl
      simp at hl

/-- **A text put together from lines has these lines**, without carriage returns at their ends. -/
theorem lines_unlines_append {ls : List (List Char)} {last : List Char}
    (h : ∀ l ∈ ls, '\n' ∉ l) (hlast : '\n' ∉ last) :
    lines (unlines ls ++ last) =
      ls.map withoutReturn ++ if last = [] then [] else [last] := by
  induction ls with
  | nil => exact lines_of_not_mem hlast
  | cons l ls ih =>
    rw [unlines, List.flatMap_cons, List.append_assoc, List.append_assoc, List.singleton_append,
      lines_append (h l List.mem_cons_self)]
    exact congrArg _ (ih fun l hl => h l (List.mem_cons_of_mem _ hl))

end Sidecar.Text
