import Mathlib.Data.List.Infix
import Sidecar.Proofs.Report.Item

/-!
# Proofs/Report/Sheet — reading a report undoes writing it

A `Sheet` is a report before it is written: a preamble, and blocks of fields under their headers.
Each part carries what makes it well-formed, so that there is nothing more to assume: **of whatever
sheet is written, a service has the state that its first block tells** (`state?_text`).
-/

namespace Sidecar.Report

open Text

/-! ## Sheets -/

/-- A text for a field: **one line, with no blank at either end.** -/
structure Word where
  text : List Char
  ne_nil : text ≠ []
  one_line : '\n' ∉ text
  trimmed : Trimmed text

/-- A field, with `gap` spaces more than it needs between its key and its value. -/
structure Field where
  key : Word
  /-- **The key has no two spaces in a row**; the value may have. -/
  key_single : ¬ [' ', ' '] <:+: key.text
  gap : Nat
  value : Word

/-- A header with its fields, and the blank lines below them. -/
structure Block where
  kind : List Char
  kind_ne_nil : kind ≠ []
  kind_one_line : '\n' ∉ kind
  kind_unquoted : '\'' ∉ kind
  kind_head : kind.head?.any isBlank = false
  name : List Char
  name_one_line : '\n' ∉ name
  fields : List Field
  blanks : List (List Char)
  blank : ∀ line ∈ blanks, '\n' ∉ line ∧ ∀ c ∈ line, isBlank c = true

/-- A report as it is written: lines that title nothing, and then blocks. -/
structure Sheet where
  preamble : List (List Char)
  /-- **No line of the preamble is a header.** -/
  untitled : ∀ line ∈ preamble, '\n' ∉ line ∧ ¬ Titled line
  blocks : List Block

/-! ## Writing -/

/-- The line that a field is written as. -/
def Field.line (f : Field) : List Char :=
  spaces 2 ++ (f.key.text ++ spaces (f.gap + 2) ++ f.value.text)

/-- The item that a field is read as. -/
def Field.item (f : Field) : Item := .field f.key.text f.value.text

namespace Block

variable (b : Block)

/-- The line that begins a block. -/
def header : List Char := b.kind ++ [' ', '\''] ++ b.name ++ ['\'']

/-- The lines of a block. -/
def lines : List (List Char) := b.header :: b.fields.map Field.line ++ b.blanks

/-- The last value of a key, empty if there is none. -/
def value (key : String) : List Char :=
  (b.fields.filter fun f => f.key.text = key.toList).getLast?.elim [] (·.value.text)

end Block

namespace Sheet

variable (r : Sheet)

/-- The lines of a report. -/
def lines : List (List Char) := r.preamble ++ r.blocks.flatMap Block.lines

/-- The sheet as it is written; **its last line may be left without a line feed.** -/
def text (closed : Bool) : String :=
  String.ofList (if closed then unlines r.lines else (unlines r.lines).dropLast)

end Sheet

/-! ## What the written lines say -/

/-- **A field is read as it is written.** -/
theorem Field.item?_line (f : Field) : item? f.line = some f.item := by
  rw [item?_of_not_header rfl, line, field?_append f.key.trimmed f.value.trimmed f.key.ne_nil
    f.value.ne_nil f.key_single]
  rfl

/-- **A header is read as it is written.** -/
theorem Block.item?_header (b : Block) : item? b.header = some (.header b.name) := by
  have hhead : b.header.head?.any isBlank = false := by
    rw [header, List.append_assoc, List.append_assoc, List.head?_append_of_ne_nil _ b.kind_ne_nil,
      b.kind_head]
  have hname : quotedName? b.header = some b.name := by
    rw [header, show b.kind ++ [' ', '\''] ++ b.name ++ ['\'']
      = (b.kind ++ [' ']) ++ '\'' :: (b.name ++ '\'' :: []) by simp]
    exact quotedName?_append (by simpa using b.kind_unquoted) (by simp)
  exact item?_of_headerName? (by rw [headerName?, if_neg (by simp [hhead]), hname])

/-- **The items of a block are its header and its fields.** -/
theorem Block.filterMap_lines (b : Block) :
    b.lines.filterMap item? = .header b.name :: b.fields.map Field.item := by
  have hfields : (b.fields.map Field.line).filterMap item? = b.fields.map Field.item := by
    rw [List.filterMap_map, ← List.filterMap_eq_map]
    exact List.filterMap_congr fun f _ => f.item?_line
  have hblanks : b.blanks.filterMap item? = [] :=
    List.filterMap_eq_nil_iff.mpr fun line hline => item?_of_blank (b.blank line hline).2
  rw [lines, List.cons_append, List.filterMap_cons_some b.item?_header, List.filterMap_append,
    hfields, hblanks, List.append_nil]

theorem Block.one_line (b : Block) : ∀ line ∈ b.lines, '\n' ∉ line := by
  intro line hline
  rw [lines, List.mem_append, List.mem_cons, List.mem_map] at hline
  rcases hline with (rfl | ⟨f, -, rfl⟩) | hline
  · simp [header, b.kind_one_line, b.name_one_line]
  · simp [Field.line, spaces, f.key.one_line, f.value.one_line]
  · exact (b.blank line hline).1

theorem Sheet.one_line (r : Sheet) : ∀ line ∈ r.lines, '\n' ∉ line := by
  intro line hline
  rw [lines, List.mem_append, List.mem_flatMap] at hline
  rcases hline with hline | ⟨b, -, hline⟩
  · exact (r.untitled line hline).1
  · exact b.one_line line hline

/-- **Written lines say what they said**, whether or not the last one is closed. -/
theorem filterMap_item?_lines {ls : List (List Char)} (h : ∀ line ∈ ls, '\n' ∉ line)
    (closed : Bool) :
    (Text.lines (if closed then unlines ls else (unlines ls).dropLast)).filterMap item? =
      ls.filterMap item? := by
  have hreturn : ∀ ls : List (List Char), (ls.map withoutReturn).filterMap item?
      = ls.filterMap item? := fun ls => by
    rw [List.filterMap_map]
    exact List.filterMap_congr fun line _ => item?_withoutReturn line
  cases closed with
  | true =>
    rw [if_pos rfl, ← List.append_nil (unlines ls), lines_unlines_append h (by simp), if_pos rfl,
      List.append_nil, hreturn]
  | false =>
    rw [if_neg (by simp)]
    rcases ls.eq_nil_or_concat' with rfl | ⟨init, last, rfl⟩
    · rfl
    have hdrop : (unlines (init ++ [last])).dropLast = unlines init ++ last := by
      simp [unlines, ← List.append_assoc]
    rw [hdrop, lines_unlines_append (fun line hl => h line (by simp [hl])) (h last (by simp)),
      List.filterMap_append, List.filterMap_append, hreturn]
    by_cases hlast : last = []
    · subst hlast
      rfl
    · rw [if_neg hlast]

/-! ## What they come to -/

/-- **Only headers open a block.** -/
theorem fieldsOf?_append_of_fields {items : List Item} (h : ∀ name, .header name ∉ items)
    (name : List Char) (rest : List Item) :
    fieldsOf? name (items ++ rest) = fieldsOf? name rest := by
  induction items with
  | nil => rfl
  | cons item items ih =>
    cases item with
    | header name' => exact absurd List.mem_cons_self (h name')
    | field key value => exact ih fun name' hmem => h name' (List.mem_cons_of_mem _ hmem)

/-- A field's key and its value. -/
def Field.pair (f : Field) : List Char × List Char := (f.key.text, f.value.text)

theorem leadingFields_append (fields : List Field) {rest : List Item}
    (h : leadingFields rest = []) :
    leadingFields (fields.map Field.item ++ rest) = fields.map Field.pair := by
  induction fields with
  | nil => exact h
  | cons f fields ih => exact congrArg (f.pair :: ·) ih

/-- The items of blocks begin with a header. -/
theorem leadingFields_blocks (blocks : List Block) :
    leadingFields (blocks.flatMap fun b => b.lines.filterMap item?) = [] := by
  cases blocks with
  | nil => rfl
  | cons b blocks =>
    rw [List.flatMap_cons, b.filterMap_lines]
    rfl

/-- **The first block of a name is found, with all its fields.** -/
theorem fieldsOf?_blocks (name : List Char) (blocks : List Block) :
    fieldsOf? name (blocks.flatMap fun b => b.lines.filterMap item?) =
      (blocks.find? fun b => b.name = name).map fun b => b.fields.map Field.pair := by
  induction blocks with
  | nil => rfl
  | cons b blocks ih =>
    rw [List.flatMap_cons, b.filterMap_lines, List.cons_append, fieldsOf?]
    by_cases hname : b.name = name
    · simp [hname, leadingFields_append _ (leadingFields_blocks blocks)]
    · have hfields : ∀ name', Item.header name' ∉ b.fields.map Field.item := by
        simp [Field.item]
      simp [hname, fieldsOf?_append_of_fields hfields, ih]

/-- **A block's value of a key is the last field's.** -/
theorem lastValue_fields (key : String) (b : Block) :
    lastValue key (b.fields.map Field.pair) = b.value key := by
  rw [lastValue, List.filter_map, List.getLast?_map, Block.value, Option.elim_map]
  rfl

/-- **The fields under a name are those of the first block of that name.** -/
theorem Sheet.fieldsOf?_text (r : Sheet) (closed : Bool) (name : List Char) :
    fieldsOf? name ((Text.lines (r.text closed).toList).filterMap item?) =
      (r.blocks.find? fun b => b.name = name).map fun b => b.fields.map Field.pair := by
  have hpreamble : ∀ name', Item.header name' ∉ r.preamble.filterMap item? := by
    intro name' hmem
    obtain ⟨line, hline, hitem⟩ := List.mem_filterMap.mp hmem
    rw [item?_of_not_header (headerName?_of_not_titled (r.untitled line hline).2)] at hitem
    obtain ⟨field, -, hfield⟩ := Option.map_eq_some_iff.mp hitem
    cases hfield
  rw [text, String.toList_ofList, filterMap_item?_lines r.one_line, lines, List.filterMap_append,
    fieldsOf?_append_of_fields hpreamble, List.filterMap_flatMap, fieldsOf?_blocks]

/-- **The fields tell a state in this order of precedence.** -/
theorem classify_eq (status monitoring : List Char) :
    classify status monitoring =
      if "pending".toList <:+: lower status ∨ "initializing".toList <+: lower monitoring ∨
          lower monitoring = "waiting".toList then .pending
      else if "not monitored".toList <+: lower status ∨
          "not monitored".toList <+: lower monitoring then .stopped
      else if lower status = "running".toList ∨ lower status = "ok".toList then .running
      else .failing := by
  simp only [classify, Bool.or_eq_true, decide_eq_true_eq, Text.holds_iff_isInfix,
    List.isPrefixOf_iff_prefix, or_assoc, or_comm (a := "not monitored".toList <+: lower monitoring)]

/-- **Of a written sheet every service is told the state of its first block**, and a service without
a block is told none.  The state is that of the last `status` and the last `monitoring status`, in
lower case. -/
theorem Sheet.state?_text (r : Sheet) (closed : Bool) (service : String) :
    (state? (r.text closed) service = none ↔ ∀ b ∈ r.blocks, b.name ≠ service.toList) ∧
    ∀ b, r.blocks.find? (fun b => b.name = service.toList) = some b →
      let status := lower (b.value "status")
      let monitoring := lower (b.value "monitoring status")
      state? (r.text closed) service = some (
        if "pending".toList <:+: status ∨ "initializing".toList <+: monitoring ∨
            monitoring = "waiting".toList then .pending
        else if "not monitored".toList <+: status ∨ "not monitored".toList <+: monitoring then
          .stopped
        else if status = "running".toList ∨ status = "ok".toList then .running
        else .failing) := by
  rw [state?_eq, r.fieldsOf?_text, Option.map_map]
  refine ⟨by simp, fun b hb => ?_⟩
  rw [hb, Option.map_some, Function.comp_apply, lastValue_fields, lastValue_fields, classify_eq]

/-- A field of words that have been checked. -/
def Field.of (key value : String) (gap : Nat)
    (hkey : Trimmed key.toList ∧ key.toList ≠ [] ∧ '\n' ∉ key.toList ∧
      holds [' ', ' '] key.toList = false)
    (hvalue : Trimmed value.toList ∧ value.toList ≠ [] ∧ '\n' ∉ value.toList) : Field where
  key := ⟨_, hkey.2.1, hkey.2.2.1, hkey.1⟩
  key_single := by simp [← holds_iff_isInfix, hkey.2.2.2]
  gap
  value := ⟨_, hvalue.2.1, hvalue.2.2, hvalue.1⟩

/-- A service that waits for its first check, under a name with quotes. -/
def waitingBlock : Block where
  kind := "Process".toList
  kind_ne_nil := by decide
  kind_one_line := by decide
  kind_unquoted := by decide
  kind_head := by decide
  name := "it's 'up'".toList
  name_one_line := by decide
  fields := [.of "status" "Not  monitored" 20 (by decide) (by decide),
    .of "status" "OK" 20 (by decide) (by decide),
    .of "monitoring status" "Waiting" 0 (by decide) (by decide)]
  blanks := [[]]
  blank := by simp

/-- A sheet with two blocks of one name, and one of a name that it starts with. -/
def waitingSheet : Sheet where
  preamble := ["Monit 5.26.0  uptime: 3h".toList, [], " 'indented'".toList]
  untitled := by decide
  blocks := [{ waitingBlock with name := "it".toList, name_one_line := by decide }, waitingBlock,
    { waitingBlock with fields := [] }]

/-- A block that waits, under a name with quotes in it. -/
theorem waitingSheet_told :
    waitingSheet.blocks.find? (fun b => b.name = "it's 'up'".toList) = some waitingBlock ∧
      state? (waitingSheet.text false) "it's 'up'" = some .pending := by
  have hfind : waitingSheet.blocks.find? (fun b => b.name = "it's 'up'".toList)
      = some waitingBlock := rfl
  have hwaiting : lower (waitingBlock.value "monitoring status") = "waiting".toList := by decide
  refine ⟨hfind, ?_⟩
  rw [(waitingSheet.state?_text false "it's 'up'").2 waitingBlock hfind,
    if_pos (.inr (.inr hwaiting))]

end Sidecar.Report
