import Mathlib
import Sidecar.Proofs.Config.Sound
import Sidecar.Proofs.Duration.Grammar

/-!
# Proofs/Duration/Canonical — the one text of a duration

Many texts stand for a duration, and `text` writes one of them: the one in the largest even unit
(`InLargestUnit`).  **It is read back as the whole milliseconds of the duration**, up to the 64 bits
in which these are counted (`parse_of_text`), so that two durations have one text just if they agree
in these (`text_eq_iff`), and writing what has been read is a canonical form (`canonical_text`).
-/

namespace Sidecar.Duration

/-! ## The largest even unit -/

namespace TimeUnit

/-- **No larger unit divides the milliseconds evenly.** -/
structure IsLargest (unit : TimeUnit) (millis : Nat) : Prop where
  dvd : unit.factor ∣ millis
  le : ∀ other : TimeUnit, other.factor ∣ millis → other.factor ≤ unit.factor

/-- **The unit that is written is the largest that divides the time.** -/
theorem isLargest_largestFor (millis : Nat) : (largestFor millis).IsLargest millis := by
  simp only [largestFor, beq_iff_eq, ← Nat.dvd_iff_mod_eq_zero]
  split_ifs with hhours hminutes hseconds
  · exact ⟨hhours, fun other _ => by cases other <;> decide⟩
  · refine ⟨hminutes, fun other h => ?_⟩
    cases other with
    | hours => exact absurd h hhours
    | minutes | seconds | milliseconds => decide
  · refine ⟨hseconds, fun other h => ?_⟩
    cases other with
    | hours => exact absurd h hhours
    | minutes => exact absurd h hminutes
    | seconds | milliseconds => decide
  · refine ⟨Nat.one_dvd millis, fun other h => ?_⟩
    cases other with
    | hours => exact absurd h hhours
    | minutes => exact absurd h hminutes
    | seconds => exact absurd h hseconds
    | milliseconds => decide

theorem suffix_mem_spellings (unit : TimeUnit) : unit.suffix.toList ∈ unit.spellings := by
  cases unit <;> decide

theorem factor_pos (unit : TimeUnit) : 0 < unit.factor := by
  cases unit <;> decide

end TimeUnit

/-! ## What is written -/

/-- The text of so many milliseconds: **a whole number of the largest even unit**, and `0s` for
none, which every unit divides. -/
inductive InLargestUnit : Nat → String → Prop
  | none : InLargestUnit 0 "0s"
  | some {unit : TimeUnit} {count : Nat} : 0 < count → unit.IsLargest (count * unit.factor) →
      InLargestUnit (count * unit.factor) (toString count ++ unit.suffix)

/-- A time that is written in its largest unit. -/
theorem InLargestUnit.of_isLargest {unit : TimeUnit} {millis : Nat} (h : unit.IsLargest millis)
    (hpos : 0 < millis) :
    InLargestUnit millis (toString (millis / unit.factor) ++ unit.suffix) := by
  obtain ⟨count, rfl⟩ := h.dvd
  rw [Nat.mul_div_cancel_left _ unit.factor_pos]
  rw [Nat.mul_comm] at h hpos ⊢
  exact .some (Nat.pos_of_mul_pos_right hpos) h

/-- **A duration is written in its largest even unit**, as far as 64 bits count it. -/
theorem inLargestUnit_text (d : Duration) : InLargestUnit (d.millis % 2 ^ 64) d.text := by
  have hbound : wordBound = 2 ^ 64 := rfl
  rw [text, hbound]
  generalize d.millis % 2 ^ 64 = millis
  by_cases hzero : millis = 0
  · rw [if_pos (beq_iff_eq.mpr hzero), hzero]
    exact .none
  · rw [if_neg (mt beq_iff_eq.mp hzero)]
    exact .of_isLargest (TimeUnit.isLargest_largestFor millis) (Nat.pos_of_ne_zero hzero)

/-! ## How it is spelled -/

namespace Spelling

/-- A count as it is spelled in a unit, **without blanks and in small letters.** -/
def plain (count : Nat) (unit : TimeUnit) : Spelling where
  before := []
  digits := Nat.toDigits 10 count
  unit
  suffix := unit.suffix.toList
  after := []
  blank_before := by simp
  digits_ne_nil := Nat.toDigits_ne_nil
  digit _ h := Nat.isDigit_of_mem_toDigits (by decide) (by decide) h
  suffix_mem := unit.suffix_mem_spellings
  blank_after := by simp

variable (count : Nat) (unit : TimeUnit)

theorem text_plain : (plain count unit).text = toString count ++ unit.suffix := by
  rw [Nat.toString_eq_ofList_toDigits]
  simp [text, plain, String.ofList_append]

theorem number_plain : (plain count unit).number = count := by
  rw [number, ← ofDigitChars_eq_value]
  exact Nat.ofDigitChars_ten_toDigits

theorem millis_plain : (plain count unit).millis = count * unit.factor := by
  rw [millis, number_plain]
  rfl

end Spelling

/-- **What is written stands for the milliseconds.** -/
theorem InLargestUnit.standsFor {millis : Nat} {text : String} (h : InLargestUnit millis text)
    (hmillis : millis < 2 ^ 64) : StandsFor text (ofMillis millis) := by
  cases h with
  | none =>
    exact ⟨.plain 0 .seconds, by rw [Spelling.text_plain]; decide, by decide, by decide, rfl⟩
  | @some unit count _ _ =>
    have hcount : count ≤ count * unit.factor := Nat.le_mul_of_pos_right count unit.factor_pos
    refine ⟨.plain count unit, Spelling.text_plain count unit, ?_, ?_, ?_⟩
    · rw [Spelling.number_plain]
      exact Nat.lt_of_le_of_lt hcount hmillis
    · rwa [Spelling.millis_plain]
    · rw [Spelling.millis_plain]

/-! ## Reading back -/

/-- **A duration is read back as its whole milliseconds**, as far as 64 bits count them. -/
theorem parse_of_text (d : Duration) : parse d.text = .ok (ofMillis (d.millis % 2 ^ 64)) :=
  parse_of_standsFor ((inLargestUnit_text d).standsFor (Nat.mod_lt _ (by decide)))

theorem ofMillis_injective : Function.Injective ofMillis := fun m n h => by
  rw [← millis_ofMillis m, h, millis_ofMillis]

/-- **Durations have one text just if 64 bits count them alike.** -/
theorem text_eq_iff (d e : Duration) : d.text = e.text ↔ d.millis ≡ e.millis [MOD 2 ^ 64] := by
  constructor
  · intro h
    have hparse := (parse_of_text d).symm.trans (h ▸ parse_of_text e)
    exact ofMillis_injective (Except.ok.inj hparse)
  · intro h
    have hmod : d.millis % wordBound = e.millis % wordBound := h
    rw [text, text, hmod]

/-- **A duration that a text stands for is read back as it is.** -/
theorem IsWritten.parse_text_eq {d : Duration} (h : d.IsWritten) : parse d.text = .ok d := by
  have hmod : d.millis % 2 ^ 64 = d.millis := Nat.mod_eq_of_lt h.millis_lt
  rw [parse_of_text, hmod, h.isWhole]

/-- How the duration is written that a text stands for. -/
def canonical (s : String) : Except ParseError String := (parse s).map text

theorem canonical_eq_ok_iff (s t : String) :
    canonical s = .ok t ↔ ∃ d, parse s = .ok d ∧ d.text = t := by
  rw [canonical]
  cases parse s with
  | error e => simp [Except.map]
  | ok d => simp [Except.map]

/-- **A duration is written in its largest even unit, and read back as its whole milliseconds**, if
64 bits count them.  Whole durations that are so counted have texts of their own, and longer ones
share the text of what is left of them.  Texts stand for one duration just if this is written in one
way, and **what it is written as is written as itself.** -/
theorem canonical_text :
    (∀ d : Duration, d.millis < 2 ^ 64 →
      parse d.text = .ok (ofMillis d.millis) ∧ InLargestUnit d.millis d.text) ∧
    (∀ d e : Duration, d.text = e.text ↔ d.millis ≡ e.millis [MOD 2 ^ 64]) ∧
    (∀ d e : Duration, d.IsWhole → e.IsWhole → d.millis < 2 ^ 64 → e.millis < 2 ^ 64 →
      d.text = e.text → d = e) ∧
    (∀ s t : String, ∀ d e : Duration, parse s = .ok d → parse t = .ok e →
      (parse s = parse t ↔ d.text = e.text)) ∧
    ∀ s t : String, canonical s = .ok t → parse t = parse s ∧ canonical t = .ok t := by
  refine ⟨fun d hd => ?_, text_eq_iff, fun d e hd he hdlt helt h => ?_, fun s t d e hs ht => ?_,
    fun s t h => ?_⟩
  · have hmod : d.millis % 2 ^ 64 = d.millis := Nat.mod_eq_of_lt hd
    exact hmod ▸ ⟨parse_of_text d, inLargestUnit_text d⟩
  · have hmillis := ((text_eq_iff d e).mp h).eq_of_lt_of_lt hdlt helt
    rw [← hd, hmillis, he]
  · rw [hs, ht, Except.ok.injEq]
    refine ⟨congrArg text, fun h => ?_⟩
    have hparse : _ = parse e.text := h ▸ (IsWritten.parse_text_eq ⟨s, hs⟩).symm
    rw [IsWritten.parse_text_eq ⟨t, ht⟩] at hparse
    exact Except.ok.inj hparse
  · obtain ⟨d, hs, rfl⟩ := (canonical_eq_ok_iff s t).mp h
    have hback := IsWritten.parse_text_eq ⟨s, hs⟩
    exact ⟨hback.trans hs.symm, (canonical_eq_ok_iff _ _).mpr ⟨d, hback, rfl⟩⟩

/-- The most milliseconds that 64 bits count, and a fraction of one more. -/
def longest : Duration := ⟨18446744073709551615999999⟩

/-- The longest duration, and sixty seconds in three spellings. -/
theorem longest_canonical :
    longest.millis < 2 ^ 64 ∧ parse longest.text = .ok (ofMillis 18446744073709551615) ∧
    parse " 60 " = .ok (ofSeconds 60) ∧ parse "1M" = .ok (ofSeconds 60) ∧
    canonical " 60 " = .ok "1m" ∧ canonical "1m" = .ok "1m" := by
  obtain ⟨hback, -, -, -, hcanonical⟩ := canonical_text
  have hform : canonical " 60 " = .ok "1m" := by decide +kernel
  exact ⟨by decide, (hback longest (by decide)).1, by decide +kernel, by decide +kernel, hform,
    (hcanonical _ _ hform).2⟩

end Sidecar.Duration
