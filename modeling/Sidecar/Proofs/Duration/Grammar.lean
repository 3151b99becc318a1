import Mathlib
import Sidecar.Duration
import Sidecar.Proofs.Text.Blank

/-!
# Proofs/Duration/Grammar — the texts that stand for a duration

A `Spelling` is a duration as it is written: digits, then a unit in any letter case or none at all,
with blanks around them.  **A text is read just if it is spelled so, and both its number and its
milliseconds fit in 64 bits** (`parse_iff`); what is refused is refused for the first of four faults
that it has (`Refused`).
-/

namespace Sidecar.Duration

open Text

/-! ## Units -/

/-- The ways to write a unit; **seconds need not be written.** -/
def TimeUnit.spellings : TimeUnit → List (List Char)
  | hours => [['h'], ['H']]
  | minutes => [['m'], ['M']]
  | seconds => [[], ['s'], ['S']]
  | milliseconds => [['m', 's'], ['m', 'S'], ['M', 's'], ['M', 'S']]

/-- **A letter is the lower-case or the upper-case one.** -/
theorem eq_or_eq_toUpper {c d : Char} (h : c.toLower = d) : c = d ∨ c = d.toUpper := by
  by_cases hupper : c.isUpper
  · right
    rw [← h, Char.toUpper_toLower_eq_toUpper,
      Char.toUpper_eq_of_not_isLower (Char.not_isLower_of_isUpper hupper)]
  · left
    rw [← h, Char.toLower_eq_of_not_isUpper hupper]

/-- **A unit is read from its spellings, and from nothing else.** -/
theorem TimeUnit.ofSuffix?_eq_some_iff (cs : List Char) (unit : TimeUnit) :
    ofSuffix? cs = some unit ↔ cs ∈ unit.spellings := by
  constructor
  · have single {d : Char} (h : cs.map Char.toLower = [d]) : cs = [d] ∨ cs = [d.toUpper] := by
      obtain ⟨c, rfl, hc⟩ := List.map_eq_singleton_iff.mp h
      exact (eq_or_eq_toUpper hc).imp (congrArg ([·])) (congrArg ([·]))
    intro h
    unfold ofSuffix? at h
    split at h
    · obtain rfl := Option.some.inj h
      exact List.mem_cons.mpr (.inl (List.map_eq_nil_iff.mp ‹_›))
    · obtain rfl := Option.some.inj h
      rcases single ‹_› with rfl | rfl <;> decide
    · obtain rfl := Option.some.inj h
      obtain ⟨c, cs, rfl, hc, hcs⟩ := List.map_eq_cons_iff.mp ‹_›
      obtain ⟨d, rfl, hd⟩ := List.map_eq_singleton_iff.mp hcs
      rcases eq_or_eq_toUpper hc with rfl | rfl <;> rcases eq_or_eq_toUpper hd with rfl | rfl <;>
        decide
    · obtain rfl := Option.some.inj h
      rcases single ‹_› with rfl | rfl <;> decide
    · obtain rfl := Option.some.inj h
      rcases single ‹_› with rfl | rfl <;> decide
    · cases h
  · intro h
    cases unit <;> simp only [spellings, List.mem_cons, List.not_mem_nil, or_false] at h <;>
      rcases h with rfl | rfl | rfl | rfl <;> rfl

/-! ## Numbers -/

/-- What digits stand for, the last of them for the ones. -/
def value (digits : List Char) : Nat :=
  Nat.ofDigits 10 (digits.map fun c => c.toNat - '0'.toNat).reverse

theorem ofDigitChars_eq_value (digits : List Char) :
    Nat.ofDigitChars 10 digits 0 = value digits := by
  induction digits using List.reverseRecOn with
  | nil => rfl
  | append_singleton digits c ih =>
    rw [Nat.ofDigitChars_append, ih, value, value, List.map_append, List.reverse_append,
      List.map_singleton, List.reverse_singleton, List.singleton_append, Nat.ofDigits_cons]
    exact Nat.add_comm _ _

/-- **Digits that count 64 bits at most are a number.** -/
theorem number?_eq_some_iff (digits : List Char) (n : Nat) :
    number? digits = some n ↔ digits ≠ [] ∧ value digits < 2 ^ 64 ∧ n = value digits := by
  have hbound : wordBound = 2 ^ 64 := rfl
  rw [number?, ofDigitChars_eq_value, hbound]
  by_cases h : digits = [] ∨ 2 ^ 64 ≤ value digits
  · rw [if_pos (by simpa using h)]
    simp only [reduceCtorEq, false_iff]
    rintro ⟨hne, hlt, -⟩
    exact h.elim hne (Nat.not_le.mpr hlt)
  · rw [if_neg (by simpa using h)]
    rw [not_or, Nat.not_le] at h
    simp only [Option.some.injEq, h, ne_eq, not_false_eq_true, true_and]
    exact eq_comm

/-! ## Spellings -/

/-- A duration as it is written. -/
structure Spelling where
  before : List Char
  digits : List Char
  unit : TimeUnit
  suffix : List Char
  after : List Char
  blank_before : ∀ c ∈ before, isBlank c = true
  digits_ne_nil : digits ≠ []
  digit : ∀ c ∈ digits, c.isDigit = true
  suffix_mem : suffix ∈ unit.spellings
  blank_after : ∀ c ∈ after, isBlank c = true

namespace Spelling

variable (w : Spelling)

/-- The text of a written duration, with its padding. -/
def text : String := String.ofList (w.before ++ (w.digits ++ w.suffix) ++ w.after)

/-- The number that stands before the unit. -/
def number : Nat := value w.digits

/-- The milliseconds that it stands for. -/
def millis : Nat := w.number * w.unit.factor

end Spelling

/-! ## Where the digits end -/

/-- A text, without the blanks around it, cut behind the digits that it begins with. -/
structure Cut (text : String) (digits suffix : List Char) : Prop where
  trim_eq : trim text.toList = digits ++ suffix
  digit : ∀ c ∈ digits, c.isDigit = true
  suffix_head : suffix.head?.any Char.isDigit = false

/-- **Every text is digits and what follows them**, but for its padding. -/
theorem exists_cut (text : String) : ∃ digits suffix, Cut text digits suffix := by
  refine ⟨(trim text.toList).takeWhile Char.isDigit, (trim text.toList).dropWhile Char.isDigit,
    List.takeWhile_append_dropWhile.symm, fun _ => List.mem_takeWhile_imp, ?_⟩
  have hhead := List.head?_dropWhile_not Char.isDigit (trim text.toList)
  cases h : ((trim text.toList).dropWhile Char.isDigit).head? with
  | none => rfl
  | some c => simpa [h] using hhead

namespace Cut

variable {text : String} {digits suffix : List Char}

theorem takeWhile_eq (h : Cut text digits suffix) :
    (digits ++ suffix).takeWhile Char.isDigit = digits := by
  rw [List.takeWhile_append_of_pos h.digit]
  cases suffix with
  | nil => simp
  | cons c suffix => simpa using h.suffix_head

theorem dropWhile_eq (h : Cut text digits suffix) :
    (digits ++ suffix).dropWhile Char.isDigit = suffix := by
  have := List.takeWhile_append_dropWhile (p := Char.isDigit) (l := digits ++ suffix)
  rw [h.takeWhile_eq] at this
  exact List.append_cancel_left this

theorem parse_of_nil (h : Cut text [] []) : parse text = .error .empty := by
  rw [parse, h.trim_eq]
  rfl

/-- **What is read depends on the number and the unit of the cut.** -/
theorem parse_eq (h : Cut text digits suffix) (hne : digits ++ suffix ≠ []) :
    parse text = match number? digits, TimeUnit.ofSuffix? suffix with
      | none, _ => .error (.badNumber (String.ofList digits))
      | some _, none => .error (.unknownUnit (String.ofList suffix))
      | some n, some unit =>
        if n * unit.factor < wordBound then .ok (ofMillis (n * unit.factor))
        else .error (.tooLarge (String.ofList (digits ++ suffix))) := by
  obtain ⟨c, cs, hcs⟩ := List.exists_cons_of_ne_nil hne
  rw [parse, h.trim_eq, hcs]
  cases hnumber : number? digits <;> cases hunit : TimeUnit.ofSuffix? suffix <;>
    simp only [← hcs, h.takeWhile_eq, h.dropWhile_eq, hnumber, hunit]

end Cut

/-- **No unit is written with a digit or a blank.** -/
theorem TimeUnit.of_mem_spelling {unit : TimeUnit} {suffix : List Char}
    (h : suffix ∈ unit.spellings) : ∀ c ∈ suffix, c.isDigit = false ∧ isBlank c = false := by
  cases unit <;> simp only [spellings, List.mem_cons, List.not_mem_nil, or_false] at h <;>
    rcases h with rfl | rfl | rfl | rfl <;> simp [isBlank]

theorem head?_any_eq_false {cs : List Char} {p : Char → Bool} (h : ∀ c ∈ cs, p c = false) :
    cs.head?.any p = false := by
  cases cs with
  | nil => rfl
  | cons c cs => exact h c List.mem_cons_self

/-- **A spelling is cut behind its digits.** -/
theorem Spelling.cut (w : Spelling) : Cut w.text w.digits w.suffix where
  trim_eq := by
    have hblank : ∀ c ∈ w.digits ++ w.suffix, isBlank c = false := fun c hc =>
      (List.mem_append.mp hc).elim
        (fun hd => isBlank_of_isAlphanum (by simp [Char.isAlphanum, w.digit c hd]))
        fun hs => (TimeUnit.of_mem_spelling w.suffix_mem c hs).2
    have htrimmed : Trimmed (w.digits ++ w.suffix) := by
      refine ⟨head?_any_eq_false hblank, ?_⟩
      rw [List.getLast?_eq_head?_reverse]
      exact head?_any_eq_false fun c hc => hblank c (List.mem_reverse.mp hc)
    rw [text, String.toList_ofList, trim_append_right _ w.blank_after,
      trim_append_left w.blank_before, htrimmed.trim]
  digit := w.digit
  suffix_head := head?_any_eq_false fun c hc => (TimeUnit.of_mem_spelling w.suffix_mem c hc).1

/-- **A text that is cut so is spelled so.** -/
theorem Cut.exists_spelling {text : String} {digits suffix : List Char} {unit : TimeUnit}
    (h : Cut text digits suffix) (hne : digits ≠ []) (hsuffix : suffix ∈ unit.spellings) :
    ∃ w : Spelling, w.text = text ∧ w.digits = digits ∧ w.suffix = suffix ∧ w.unit = unit := by
  obtain ⟨before, after, hbefore, hafter, htext⟩ := exists_trim text.toList
  refine ⟨⟨before, digits, unit, suffix, after, hbefore, hne, h.digit, hsuffix, hafter⟩, ?_, rfl,
    rfl, rfl⟩
  rw [Spelling.text, ← h.trim_eq, ← htext, String.ofList_toList]

/-! ## What is read, and what is refused -/

/-- Why a text is refused: **it is blank, or has a bad number, or else a unit that there is not, or
else comes to too much.** -/
inductive Refused (text : String) : ParseError → Prop
  | empty : (∀ c ∈ text.toList, isBlank c = true) → Refused text .empty
  | badNumber {digits suffix : List Char} : Cut text digits suffix → digits ++ suffix ≠ [] →
      (digits = [] ∨ 2 ^ 64 ≤ value digits) → Refused text (.badNumber (String.ofList digits))
  | unknownUnit {digits suffix : List Char} : Cut text digits suffix → digits ≠ [] →
      value digits < 2 ^ 64 → (∀ unit : TimeUnit, suffix ∉ unit.spellings) →
      Refused text (.unknownUnit (String.ofList suffix))
  | tooLarge (w : Spelling) : w.text = text → w.number < 2 ^ 64 → 2 ^ 64 ≤ w.millis →
      Refused text (.tooLarge (String.ofList (w.digits ++ w.suffix)))

/-- What a text stands for, if it is no larger than 64 bits. -/
def StandsFor (text : String) (d : Duration) : Prop :=
  ∃ w : Spelling, w.text = text ∧ w.number < 2 ^ 64 ∧ w.millis < 2 ^ 64 ∧ d = ofMillis w.millis

/-- **A spelling whose number fits is read, unless it comes to too much.** -/
theorem Spelling.parse_written (w : Spelling) (h : w.number < 2 ^ 64) :
    parse w.text = if w.millis < 2 ^ 64 then .ok (ofMillis w.millis)
      else .error (.tooLarge (String.ofList (w.digits ++ w.suffix))) := by
  have hnumber := (number?_eq_some_iff w.digits w.number).mpr ⟨w.digits_ne_nil, h, rfl⟩
  have hunit := (TimeUnit.ofSuffix?_eq_some_iff w.suffix w.unit).mpr w.suffix_mem
  rw [w.cut.parse_eq (by simp [w.digits_ne_nil]), hnumber, hunit]
  rfl

/-- **A text that stands for a duration is read as it.** -/
theorem parse_of_standsFor {text : String} {d : Duration} (h : StandsFor text d) :
    parse text = .ok d := by
  obtain ⟨w, rfl, hnumber, hmillis, rfl⟩ := h
  rw [w.parse_written hnumber, if_pos hmillis]

/-- **Any other is refused with its error.** -/
theorem parse_of_refused {text : String} {e : ParseError} (h : Refused text e) :
    parse text = .error e := by
  cases h with
  | empty h =>
    have hcut : Cut text [] [] := ⟨(trim_eq_nil_iff _).mpr h, by simp, rfl⟩
    exact hcut.parse_of_nil
  | badNumber hcut hne hbad =>
    have hnone : number? _ = none := Option.eq_none_iff_forall_ne_some.mpr fun n hn => by
      obtain ⟨hdigits, hlt, -⟩ := (number?_eq_some_iff _ n).mp hn
      exact hbad.elim hdigits (Nat.not_le.mpr hlt)
    rw [hcut.parse_eq hne, hnone]
  | unknownUnit hcut hne hlt hunit =>
    have hnumber := (number?_eq_some_iff _ _).mpr ⟨hne, hlt, rfl⟩
    have hnone : TimeUnit.ofSuffix? _ = none := Option.eq_none_iff_forall_ne_some.mpr
      fun unit h => hunit unit ((TimeUnit.ofSuffix?_eq_some_iff _ unit).mp h)
    rw [hcut.parse_eq (by simp [hne]), hnumber, hnone]
  | tooLarge w htext hnumber hmillis =>
    rw [← htext, w.parse_written hnumber, if_neg (Nat.not_lt.mpr hmillis)]

/-- **Every text stands for a duration or is refused.** -/
theorem standsFor_or_refused (text : String) :
    (∃ d, StandsFor text d) ∨ ∃ e, Refused text e := by
  obtain ⟨digits, suffix, hcut⟩ := exists_cut text
  by_cases hnil : digits ++ suffix = []
  · exact .inr ⟨_, .empty ((trim_eq_nil_iff _).mp (hcut.trim_eq.trans hnil))⟩
  by_cases hnumber : digits = [] ∨ 2 ^ 64 ≤ value digits
  · exact .inr ⟨_, .badNumber hcut hnil hnumber⟩
  rw [not_or, Nat.not_le] at hnumber
  by_cases hunit : ∃ unit : TimeUnit, suffix ∈ unit.spellings
  · obtain ⟨unit, hsuffix⟩ := hunit
    obtain ⟨w, htext, rfl, -⟩ := hcut.exists_spelling hnumber.1 hsuffix
    by_cases hmillis : w.millis < 2 ^ 64
    · exact .inl ⟨_, w, htext, hnumber.2, hmillis, rfl⟩
    · exact .inr ⟨_, .tooLarge w htext hnumber.2 (Nat.not_lt.mp hmillis)⟩
  · exact .inr ⟨_, .unknownUnit hcut hnumber.1 hnumber.2 fun unit h => hunit ⟨unit, h⟩⟩

/-- **A text is read just if it is spelled as a duration whose number and whose milliseconds fit in
64 bits**, and then stands for exactly so many milliseconds.  Any other text is refused, for the
first fault that it has. -/
theorem parse_iff (text : String) :
    (∀ d, parse text = .ok d ↔ StandsFor text d) ∧
      ∀ e, parse text = .error e ↔ Refused text e := by
  refine ⟨fun d => ⟨fun h => ?_, parse_of_standsFor⟩, fun e => ⟨fun h => ?_, parse_of_refused⟩⟩
  · rcases standsFor_or_refused text with ⟨d', hd⟩ | ⟨e, he⟩
    · obtain rfl := Except.ok.inj (h.symm.trans (parse_of_standsFor hd))
      exact hd
    · cases h.symm.trans (parse_of_refused he)
  · rcases standsFor_or_refused text with ⟨d, hd⟩ | ⟨e', he⟩
    · cases h.symm.trans (parse_of_standsFor hd)
    · obtain rfl := Except.error.inj (h.symm.trans (parse_of_refused he))
      exact he

-- The number fits, and its milliseconds do not.
example : parse "18446744073709552" = .error (.tooLarge "18446744073709552") := by decide +kernel

end Sidecar.Duration
