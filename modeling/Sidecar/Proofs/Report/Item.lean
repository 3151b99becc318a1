import Sidecar.Proofs.Text.Blank
import Sidecar.Supervisor.Report

/-!
# Proofs/Report/Item — what the lines of a report say

A line of a report is a header, a field or nothing at all.  **The state of a service is told by
these items alone** (`state?_eq`): lines that are neither may stand anywhere, and a carriage return
at the end of a line changes nothing (`item?_withoutReturn`).
-/

namespace Sidecar.Report

open Text

/-! ## Headers -/

theorem dropWhile_append_quote {cs : List Char} (h : '\'' ∉ cs) (rest : List Char) :
    (cs ++ '\'' :: rest).dropWhile (· ≠ '\'') = '\'' :: rest := by
  rw [List.dropWhile_append_of_pos fun c hc => by simpa using ne_of_mem_of_not_mem hc h]
  rfl

/-- **What stands between the first quote and the last is the name**, and may hold quotes. -/
theorem quotedName?_append {before name after : List Char} (h : '\'' ∉ before)
    (h' : '\'' ∉ after) :
    quotedName? (before ++ '\'' :: (name ++ '\'' :: after)) = some name := by
  have hafter : (name ++ '\'' :: after).reverse.dropWhile (· ≠ '\'') = '\'' :: name.reverse := by
    rw [List.reverse_append, List.reverse_cons, List.append_assoc]
    exact dropWhile_append_quote (by simpa using h') _
  rw [quotedName?, dropWhile_append_quote h]
  simp only [hafter, List.reverse_reverse]

/-- What comes from the first quote on, and what comes before it. -/
theorem exists_of_dropWhile_quote {cs rest : List Char} {c : Char}
    (h : cs.dropWhile (· ≠ '\'') = c :: rest) :
    ∃ before, '\'' ∉ before ∧ cs = before ++ '\'' :: rest := by
  obtain rfl : c = '\'' := by
    have := List.head?_dropWhile_not (· ≠ '\'') cs
    rw [h] at this
    simpa using this
  refine ⟨cs.takeWhile (· ≠ '\''), fun hmem => ?_, ?_⟩
  · simpa using List.mem_takeWhile_imp hmem
  · rw [← h, List.takeWhile_append_dropWhile]

/-- **There is no other name in a line.** -/
theorem quotedName?_eq_some_iff (line name : List Char) :
    quotedName? line = some name ↔ ∃ before after, '\'' ∉ before ∧ '\'' ∉ after ∧
      line = before ++ '\'' :: (name ++ '\'' :: after) := by
  refine ⟨fun h => ?_, fun ⟨before, after, hbefore, hafter, hline⟩ => ?_⟩
  · unfold quotedName? at h
    split at h
    · cases h
    rename_i c rest hfirst
    split at h
    · cases h
    rename_i d reversed hlast
    obtain rfl := Option.some.inj h
    obtain ⟨before, hbefore, rfl⟩ := exists_of_dropWhile_quote hfirst
    obtain ⟨after, hafter, hrest⟩ := exists_of_dropWhile_quote hlast
    refine ⟨before, after.reverse, hbefore, by simpa using hafter, ?_⟩
    rw [← List.reverse_reverse rest, hrest]
    simp
  · rw [hline, quotedName?_append hbefore hafter]

/-- **No name stands in fewer than two quotes.** -/
theorem quotedName?_eq_none {line : List Char} (h : line.count '\'' < 2) :
    quotedName? line = none := by
  refine Option.eq_none_iff_forall_ne_some.mpr fun name hname => ?_
  obtain ⟨before, after, -, -, rfl⟩ := (quotedName?_eq_some_iff line name).mp hname
  simp only [List.count_append, List.count_cons_self] at h
  omega

theorem quotedName?_concat (line : List Char) {c : Char} (h : c ≠ '\'') :
    quotedName? (line ++ [c]) = quotedName? line := by
  unfold quotedName?
  rw [List.dropWhile_append]
  cases hdrop : line.dropWhile (· ≠ '\'') with
  | nil => simp [h]
  | cons d rest => simp [h]

/-- An unindented line with two quotes, **and no other, is a header.** -/
def Titled (line : List Char) : Prop :=
  line.head?.any isBlank = false ∧ 2 ≤ line.count '\''

instance (line : List Char) : Decidable (Titled line) := inferInstanceAs (Decidable (_ ∧ _))

theorem headerName?_of_not_titled {line : List Char} (h : ¬ Titled line) :
    headerName? line = none := by
  unfold headerName?
  split
  · rfl
  · rename_i hhead
    rw [Bool.not_eq_true] at hhead
    exact quotedName?_eq_none (Nat.lt_of_not_le fun hquotes => h ⟨hhead, hquotes⟩)

/-- **A blank after a header changes nothing.** -/
theorem headerName?_concat (line : List Char) {c : Char} (hblank : isBlank c = true)
    (hquote : c ≠ '\'') : headerName? (line ++ [c]) = headerName? line := by
  cases line with
  | nil =>
    have hnone : headerName? [c] = none := if_pos hblank
    rw [List.nil_append, hnone]
    rfl
  | cons d line =>
    unfold headerName?
    rw [quotedName?_concat _ hquote]
    rfl

/-! ## Fields -/

/-- **The first two spaces in a row end the key.** -/
theorem splitDoubleSpace?_append {key : List Char} (h : ¬ [' ', ' '] <:+: key)
    (hlast : key.getLast? ≠ some ' ') (rest : List Char) :
    splitDoubleSpace? (key ++ ' ' :: ' ' :: rest) = some (key, ' ' :: ' ' :: rest) := by
  induction key with
  | nil => rfl
  | cons c key ih =>
    have hkey : splitDoubleSpace? (key ++ ' ' :: ' ' :: rest) = some (key, ' ' :: ' ' :: rest) := by
      refine ih (fun hin => h (hin.trans (List.suffix_cons c key).isInfix)) fun hend => hlast ?_
      rw [List.getLast?_cons, hend]
      rfl
    rw [List.cons_append, splitDoubleSpace?, hkey]
    · rfl
    · rintro more rfl heq
      cases key with
      | nil => exact hlast rfl
      | cons d key =>
        obtain rfl : d = ' ' := List.head_eq_of_cons_eq heq
        exact h ⟨[], key, rfl⟩

/-- So many spaces. -/
def spaces (n : Nat) : List Char := List.replicate n ' '

theorem isBlank_of_mem_spaces {n : Nat} {c : Char} (h : c ∈ spaces n) : isBlank c = true := by
  rw [List.eq_of_mem_replicate h]
  rfl

/-- **A field is read as it is written**, however wide the gaps around its key. -/
theorem field?_append {key value : List Char} (hkey : Trimmed key) (hvalue : Trimmed value)
    (hne : key ≠ []) (hne' : value ≠ []) (hsingle : ¬ [' ', ' '] <:+: key) (indent gap : Nat) :
    field? (spaces indent ++ (key ++ spaces (gap + 2) ++ value)) = some (key, value) := by
  have hlast : key.getLast? ≠ some ' ' := fun h => by simpa [h, isBlank] using hkey.last
  have hsplit : splitDoubleSpace? (key ++ spaces (gap + 2) ++ value)
      = some (key, spaces (gap + 2) ++ value) := by
    rw [List.append_assoc]
    exact splitDoubleSpace?_append hsingle hlast _
  have hend : trim (spaces (gap + 2) ++ value) = value := by
    rw [trim_append_left fun _ => isBlank_of_mem_spaces, hvalue.trim]
  rw [field?, trim_append_left fun _ => isBlank_of_mem_spaces,
    (hkey.append hvalue hne hne' _).trim, hsplit]
  simp only [Option.map_some, hkey.trim, hend]

/-- **A blank after a field changes nothing.** -/
theorem field?_concat (line : List Char) {c : Char} (h : isBlank c = true) :
    field? (line ++ [c]) = field? line := by
  rw [field?, trim_concat line h, field?]

theorem field?_of_blank {line : List Char} (h : ∀ c ∈ line, isBlank c = true) :
    field? line = none := by
  rw [field?, trim_eq_nil h]
  rfl

/-! ## Items -/

/-- What a line may say. -/
inductive Item where
  | header (name : List Char)
  | field (key value : List Char)
deriving DecidableEq

/-- What a line says, if it says anything. -/
def item? (line : List Char) : Option Item :=
  match headerName? line with
  | some name => some (.header name)
  | none => (field? line).map fun (key, value) => .field key value

theorem item?_of_headerName? {line name : List Char} (h : headerName? line = some name) :
    item? line = some (.header name) := by
  rw [item?, h]

theorem item?_of_not_header {line : List Char} (h : headerName? line = none) :
    item? line = (field? line).map fun (key, value) => .field key value := by
  rw [item?, h]

/-- **A blank line says nothing.** -/
theorem item?_of_blank {line : List Char} (h : ∀ c ∈ line, isBlank c = true) :
    item? line = none := by
  have hheader : headerName? line = none := by
    cases line with
    | nil => rfl
    | cons c line => exact if_pos (h c List.mem_cons_self)
  rw [item?_of_not_header hheader, field?_of_blank h]
  rfl

/-- **A carriage return at the end of a line changes nothing.** -/
theorem item?_withoutReturn (line : List Char) : item? (withoutReturn line) = item? line := by
  rcases withoutReturn_cases line with h | h
  · rw [h]
  · conv_rhs => rw [h]
    rw [item?, item?, headerName?_concat _ rfl (by decide), field?_concat _ rfl]

/-- The fields before the next header. -/
def leadingFields : List Item → List (List Char × List Char)
  | .field key value :: items => (key, value) :: leadingFields items
  | _ => []

/-- The fields of the first block that bears a name. -/
def fieldsOf? (name : List Char) : List Item → Option (List (List Char × List Char))
  | [] => none
  | .header name' :: items =>
    if name' = name then some (leadingFields items) else fieldsOf? name items
  | .field _ _ :: items => fieldsOf? name items

/-- The last value of a key, empty if there is none. -/
def lastValue (key : String) (fields : List (List Char × List Char)) : List Char :=
  (fields.filter fun field => field.1 = key.toList).getLast?.elim [] (·.2)

/-- **A value is the last one of its key.** -/
theorem value_eq_lastValue (key : String) (block : List (List Char)) :
    value key block = lastValue key (block.filterMap field?) := by
  rw [value, lastValue, List.getLast?_filter]

theorem filterMap_field?_takeWhile (lines : List (List Char)) :
    (lines.takeWhile fun line => (headerName? line).isNone).filterMap field? =
      leadingFields (lines.filterMap item?) := by
  induction lines with
  | nil => rfl
  | cons line lines ih =>
    cases hname : headerName? line with
    | some name => simp [hname, item?_of_headerName? hname, leadingFields]
    | none =>
      cases hfield : field? line with
      | none => simp [hname, hfield, item?_of_not_header hname, ih]
      | some field => simp [hname, hfield, item?_of_not_header hname, ih, leadingFields]

/-- **The fields of a block are those of its items.** -/
theorem map_filterMap_block? (name : List Char) (lines : List (List Char)) :
    (block? name lines).map (·.filterMap field?) = fieldsOf? name (lines.filterMap item?) := by
  induction lines with
  | nil => rfl
  | cons line lines ih =>
    cases hname : headerName? line with
    | some name' =>
      rw [block?, List.filterMap_cons, item?_of_headerName? hname, hname]
      by_cases heq : name' = name
      · simp [heq, fieldsOf?, filterMap_field?_takeWhile]
      · simp [heq, fieldsOf?, ih]
    | none =>
      rw [block?, List.filterMap_cons, item?_of_not_header hname, hname]
      cases field? line with
      | none => simpa using ih
      | some field => simpa [fieldsOf?] using ih

/-- **The items of a report tell all the states.** -/
theorem state?_eq (report service : String) :
    state? report service =
      (fieldsOf? service.toList ((Text.lines report.toList).filterMap item?)).map fun fields =>
        classify (lastValue "status" fields) (lastValue "monitoring status" fields) := by
  rw [state?, ← map_filterMap_block?, Option.map_map]
  simp only [value_eq_lastValue, Function.comp_def]

end Sidecar.Report
