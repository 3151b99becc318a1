import Mathlib
import Sidecar.Proofs.Report.Item

/-!
# Proofs/Report/Case — letter case does not count

Blanks and quotes are no letters, and so a line is taken apart at the same places in any letter
case.  `plainItem?` is what it says once its value is in lower case: **the plain items of a report
tell all the states** (`state?_eq_of_plain`), and a line has the same plain item when letters behind
a double space of it change case (`Recased.plainItem?_eq`).
-/

namespace Sidecar.Report

open Text

/-! ## Lower case -/

/-- **Only letters have a lower case of their own.** -/
theorem toLower_cases (c : Char) :
    c.toLower = c ∨ c.isAlphanum = true ∧ c.toLower.isAlphanum = true := by
  by_cases h : c.isUpper = true
  · have halpha : c.isAlpha = true := by simp [Char.isAlpha, h]
    have halpha' : c.toLower.isAlpha = true := (Char.isAlpha_toLower_eq_isAlpha c).trans halpha
    exact .inr ⟨by simp [Char.isAlphanum, halpha], by simp [Char.isAlphanum, halpha']⟩
  · exact .inl (Char.toLower_eq_of_not_isUpper h)

/-- **Blanks have no letter case.** -/
@[simp] theorem isBlank_toLower (c : Char) : isBlank c.toLower = isBlank c := by
  rcases toLower_cases c with h | ⟨h, h'⟩
  · rw [h]
  · rw [isBlank_of_isAlphanum h, isBlank_of_isAlphanum h']

@[simp] theorem toLower_eq_quote_iff (c : Char) : c.toLower = '\'' ↔ c = '\'' := by
  rcases toLower_cases c with h | ⟨h, h'⟩
  · rw [h]
  · exact iff_of_false (fun heq => by rw [heq] at h'; cases h') fun heq => by rw [heq] at h; cases h

theorem lower_idem (cs : List Char) : lower (lower cs) = lower cs := by
  rw [lower, lower, List.map_map]
  exact List.map_congr_left fun c _ => Char.toLower_toLower_eq_toLower c

theorem lower_append (cs cs' : List Char) : lower (cs ++ cs') = lower cs ++ lower cs' :=
  List.map_append

theorem lower_reverse (cs : List Char) : lower cs.reverse = (lower cs).reverse := List.map_reverse

/-! ## Lines are taken apart at the same places -/

theorem dropWhile_isBlank_lower (cs : List Char) :
    (lower cs).dropWhile isBlank = lower (cs.dropWhile isBlank) := by
  rw [lower, List.dropWhile_map, lower, Function.comp_def]
  simp only [isBlank_toLower]

theorem dropWhile_quote_lower (cs : List Char) :
    (lower cs).dropWhile (· ≠ '\'') = lower (cs.dropWhile (· ≠ '\'')) := by
  rw [lower, List.dropWhile_map, lower, Function.comp_def]
  simp only [ne_eq, toLower_eq_quote_iff]

theorem trim_lower (cs : List Char) : trim (lower cs) = lower (trim cs) := by
  simp only [trim, trimEnd_eq_rdropWhile, List.rdropWhile, dropWhile_isBlank_lower, ← lower_reverse]

theorem quotedName?_lower (line : List Char) :
    quotedName? (lower line) = (quotedName? line).map lower := by
  unfold quotedName?
  rw [dropWhile_quote_lower]
  cases line.dropWhile (· ≠ '\'') with
  | nil => rfl
  | cons c rest =>
    have hlast : (lower rest).reverse.dropWhile (· ≠ '\'') =
        lower (rest.reverse.dropWhile (· ≠ '\'')) := by
      rw [← lower_reverse, dropWhile_quote_lower]
    rw [show lower (c :: rest) = c.toLower :: lower rest from rfl]
    simp only [hlast]
    cases rest.reverse.dropWhile (· ≠ '\'') with
    | nil => rfl
    | cons d name => exact congrArg some (lower_reverse name).symm

/-- A header in lower case names what it did, in lower case. -/
theorem headerName?_lower (line : List Char) :
    headerName? (lower line) = (headerName? line).map lower := by
  have hhead : (lower line).head?.any isBlank = line.head?.any isBlank := by
    cases line with
    | nil => rfl
    | cons c line => exact isBlank_toLower c
  unfold headerName?
  rw [hhead, quotedName?_lower]
  split <;> rfl

/-- **Whether a line is a header does not depend on letter case.** -/
theorem headerName?_eq_none_congr {line line' : List Char} (h : lower line = lower line')
    (hheader : headerName? line = none) : headerName? line' = none := by
  have := headerName?_lower line'
  rw [← h, headerName?_lower, hheader] at this
  exact Option.map_eq_none_iff.mp this.symm

/-! ## What lines say but for letter case -/

/-- The item with its value in lower case. -/
def Item.plain : Item → Item
  | .header name => .header name
  | .field key value => .field key (lower value)

/-- The item of a line, in lower case where that does not matter. -/
def plainItem? (line : List Char) : Option Item := (item? line).map Item.plain

/-- The fields with their values in lower case. -/
def plainFields (fields : List (List Char × List Char)) : List (List Char × List Char) :=
  fields.map fun (key, value) => (key, lower value)

theorem leadingFields_plain (items : List Item) :
    leadingFields (items.map Item.plain) = plainFields (leadingFields items) := by
  induction items with
  | nil => rfl
  | cons item items ih =>
    cases item with
    | header name => rfl
    | field key value => exact congrArg ((key, lower value) :: ·) ih

/-- The fields under a name, whatever their values' letter case. -/
theorem fieldsOf?_plain (name : List Char) (items : List Item) :
    fieldsOf? name (items.map Item.plain) = (fieldsOf? name items).map plainFields := by
  induction items with
  | nil => rfl
  | cons item items ih =>
    cases item with
    | header name' =>
      rw [List.map_cons, Item.plain, fieldsOf?, fieldsOf?, leadingFields_plain, ih]
      split <;> rfl
    | field key value => exact ih

theorem lastValue_plain (key : String) (fields : List (List Char × List Char)) :
    lastValue key (plainFields fields) = lower (lastValue key fields) := by
  rw [lastValue, plainFields, List.filter_map, List.getLast?_map, lastValue, Function.comp_def]
  cases (fields.filter fun field => field.1 = key.toList).getLast? <;> rfl

/-- **The state does not depend on letter case.** -/
theorem classify_lower (status monitoring : List Char) :
    classify (lower status) (lower monitoring) = classify status monitoring := by
  rw [classify, classify, lower_idem, lower_idem]

/-- **The plain items of a report tell all the states.** -/
theorem state?_eq_plain (report service : String) :
    state? report service =
      (fieldsOf? service.toList ((Text.lines report.toList).filterMap plainItem?)).map fun fields =>
        classify (lastValue "status" fields) (lastValue "monitoring status" fields) := by
  rw [state?_eq, show plainItem? = fun line => (item? line).map Item.plain from rfl,
    ← List.map_filterMap, fieldsOf?_plain, Option.map_map]
  simp only [Function.comp_def, lastValue_plain, classify_lower]

/-! ## Lines with letters of another case -/

/-- The same character, or the same letter of either case. -/
def SameLetter (c c' : Char) : Prop := c' = c ∨ c' = c.toUpper ∨ c' = c.toLower

instance : DecidableRel SameLetter := fun _ _ => inferInstanceAs (Decidable (_ ∨ _ ∨ _))

theorem lower_eq_of_sameLetter {cs cs' : List Char} (h : List.Forall₂ SameLetter cs cs') :
    lower cs = lower cs' := by
  induction h with
  | nil => rfl
  | cons hc _ ih =>
    refine congrArg₂ List.cons ?_ ih
    rcases hc with rfl | rfl | rfl
    · rfl
    · exact (Char.toLower_toUpper_eq_toLower _).symm
    · exact (Char.toLower_toLower_eq_toLower _).symm

/-- A line, and what it becomes when **letters behind a double space of its trimmed text** change
case. -/
def Recased (line line' : List Char) : Prop :=
  ∃ before key value value' after : List Char,
    (∀ c ∈ before, isBlank c = true) ∧ (∀ c ∈ after, isBlank c = true) ∧
    Trimmed (key ++ [' ', ' '] ++ value) ∧ List.Forall₂ SameLetter value value' ∧
    line = before ++ (key ++ [' ', ' '] ++ value) ++ after ∧
    line' = before ++ (key ++ [' ', ' '] ++ value') ++ after

theorem splitDoubleSpace?_append_of_some {cs key rest : List Char}
    (h : splitDoubleSpace? cs = some (key, rest)) (cs' : List Char) :
    splitDoubleSpace? (cs ++ cs') = some (key, rest ++ cs') := by
  fun_induction splitDoubleSpace? cs generalizing key with
  | case1 => cases h
  | case2 rest' =>
    obtain ⟨rfl, rfl⟩ := Prod.mk.inj (Option.some.inj h)
    rfl
  | case3 c cs hsingle ih =>
    obtain ⟨⟨key', rest'⟩, hcs, heq⟩ := Option.map_eq_some_iff.mp h
    obtain ⟨rfl, rfl⟩ := Prod.mk.inj heq
    rw [List.cons_append, splitDoubleSpace?, ih hcs]
    · rfl
    · rintro more rfl hmore
      -- The two spaces would be in the text already.
      cases cs with
      | nil => cases hcs
      | cons d cs => exact hsingle cs rfl (congrArg (· :: cs) (List.head_eq_of_cons_eq hmore))

/-- **Two spaces part a line.** -/
theorem exists_splitDoubleSpace? (key : List Char) :
    ∃ key' rest, splitDoubleSpace? (key ++ [' ', ' ']) = some (key', rest) := by
  induction key with
  | nil => exact ⟨[], [' ', ' '], rfl⟩
  | cons c key ih =>
    obtain ⟨key', rest, hsplit⟩ := ih
    rw [List.cons_append]
    unfold splitDoubleSpace?
    split
    · cases ‹_ :: _ = []›
    · exact ⟨_, _, rfl⟩
    · obtain ⟨rfl, rfl⟩ := List.cons.inj ‹_›
      exact ⟨_, _, congrArg (Option.map _) hsplit⟩

theorem trimmed_of_lower_eq {cs cs' : List Char} (h : lower cs = lower cs') (htrim : Trimmed cs) :
    Trimmed cs' := by
  have hhead : ∀ ds : List Char, (lower ds).head?.any isBlank = ds.head?.any isBlank := fun ds => by
    rw [lower, List.head?_map, Option.any_map]
    simp only [isBlank_toLower]
  have hlast : ∀ ds : List Char, (lower ds).getLast?.any isBlank = ds.getLast?.any isBlank :=
    fun ds => by
      rw [lower, List.getLast?_map, Option.any_map]
      simp only [isBlank_toLower]
  exact ⟨by rw [← hhead, ← h, hhead, htrim.head], by rw [← hlast, ← h, hlast, htrim.last]⟩

/-- **A field keeps its key**, and its value but for letter case. -/
theorem Recased.field? {line line' : List Char} (h : Recased line line') :
    ∃ key value value', field? line = some (key, value) ∧ field? line' = some (key, value') ∧
      lower value = lower value' := by
  obtain ⟨before, key, value, value', after, hbefore, hafter, htrim, hsame, rfl, rfl⟩ := h
  have hlower := lower_eq_of_sameLetter hsame
  obtain ⟨key', rest, hsplit⟩ := exists_splitDoubleSpace? key
  have hread : ∀ v, Trimmed (key ++ [' ', ' '] ++ v) →
      Report.field? (before ++ (key ++ [' ', ' '] ++ v) ++ after) =
        some (trim key', trim (rest ++ v)) := fun v hv => by
    rw [Report.field?, trim_append_right _ hafter, trim_append_left hbefore, hv.trim,
      splitDoubleSpace?_append_of_some hsplit]
    rfl
  have hlowers : ∀ ds : List Char, lower (ds ++ value) = lower (ds ++ value') := fun ds => by
    rw [lower_append, lower_append, hlower]
  refine ⟨_, _, _, hread value htrim, hread value' (trimmed_of_lower_eq ?_ htrim), ?_⟩
  · exact hlowers _
  · rw [← trim_lower, ← trim_lower, hlowers]

/-- Lines that differ in letter case are alike in lower case. -/
theorem Recased.lower_eq {line line' : List Char} (h : Recased line line') :
    lower line = lower line' := by
  obtain ⟨before, key, value, value', after, -, -, -, hsame, rfl, rfl⟩ := h
  simp only [lower_append, lower_eq_of_sameLetter hsame]

/-- **Letters behind a double space do not matter.** -/
theorem Recased.plainItem?_eq {line line' : List Char} (h : Recased line line')
    (hheader : headerName? line = none) : plainItem? line = plainItem? line' := by
  obtain ⟨key, value, value', hfield, hfield', hvalue⟩ := h.field?
  rw [plainItem?, plainItem?, item?_of_not_header hheader,
    item?_of_not_header (headerName?_eq_none_congr h.lower_eq hheader), hfield, hfield']
  simp only [Option.map_some, Item.plain, hvalue]

end Sidecar.Report
