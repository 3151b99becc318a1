import Sidecar.Proofs.Report.Case
import Sidecar.Proofs.Report.Sheet

/-!
# Proofs/Report/Edit — what may be edited in a report

Every text is written in lines, and a line that heads a block has the block's name between its first
quote and its last.  An `Edit` leaves the first block of one name alone: it touches what stands
above the first header, whole blocks of other names, all that stands below the first block of the
name, or the letter case of values.  **No number of edits changes the state of that service**
(`told_by_first_block`), whether or not the report is a sheet.
-/

namespace Sidecar.Report

open Text
open Relation (ReflTransGen)

/-! ## Lines -/

/-- The text has these lines; **its last one may be left without a line feed.** -/
structure Writes (ls : List (List Char)) (report : String) : Prop where
  one_line : ∀ line ∈ ls, '\n' ∉ line
  text : report.toList = unlines ls ∨ report.toList ++ ['\n'] = unlines ls

/-- **Every text is lines**, each with its line break. -/
theorem exists_unlines (cs : List Char) : ∃ line ls, (∀ l ∈ line :: ls, '\n' ∉ l) ∧
    cs ++ ['\n'] = unlines (line :: ls) := by
  induction cs with
  | nil => exact ⟨[], [], by simp, rfl⟩
  | cons c cs ih =>
    obtain ⟨line, ls, hone, hcs⟩ := ih
    rw [List.forall_mem_cons] at hone
    by_cases hc : c = '\n'
    · exact ⟨[], line :: ls, by simpa using hone, by rw [hc, List.cons_append, hcs]; rfl⟩
    · exact ⟨c :: line, ls, by simpa [Ne.symm hc] using hone, by rw [List.cons_append, hcs]; rfl⟩

/-- **Every text is written in lines.** -/
theorem exists_writes (report : String) : ∃ ls, Writes ls report := by
  obtain ⟨line, ls, hone, htext⟩ := exists_unlines report.toList
  exact ⟨line :: ls, hone, .inr htext⟩

/-- **The items of a report are those of its lines.** -/
theorem Writes.filterMap_item? {ls : List (List Char)} {report : String} (h : Writes ls report) :
    (Text.lines report.toList).filterMap item? = ls.filterMap item? := by
  rcases h.text with htext | htext
  · rw [htext]
    exact filterMap_item?_lines h.one_line true
  · rw [← filterMap_item?_lines h.one_line false, ← htext]
    simp

/-! ## Headers -/

/-- A line that heads a block of a name. -/
structure Heads (line name : List Char) : Prop where
  unindented : line.head?.any isBlank = false
  quoted : ∃ before after, '\'' ∉ before ∧ '\'' ∉ after ∧
    line = before ++ '\'' :: (name ++ '\'' :: after)

/-- **A header is read as what it heads.** -/
theorem headerName?_eq_some_iff (line name : List Char) :
    headerName? line = some name ↔ Heads line name := by
  unfold headerName?
  split
  · rename_i hblank
    refine iff_of_false (by simp) fun h => ?_
    rw [h.unindented] at hblank
    cases hblank
  · rename_i hblank
    rw [quotedName?_eq_some_iff]
    exact ⟨fun h => ⟨by simpa using hblank, h⟩, Heads.quoted⟩

instance (line name : List Char) : Decidable (Heads line name) :=
  decidable_of_iff _ (headerName?_eq_some_iff line name)

theorem headerName?_eq_none_iff (line : List Char) :
    headerName? line = none ↔ ∀ name, ¬ Heads line name := by
  simp only [Option.eq_none_iff_forall_ne_some, ne_eq, headerName?_eq_some_iff]

/-! ## Items of an edited report -/

theorem plainItem?_of_heads {line name : List Char} (h : Heads line name) :
    plainItem? line = some (.header name) := by
  rw [plainItem?, item?_of_headerName? ((headerName?_eq_some_iff line name).mpr h)]
  rfl

theorem heads_of_plainItem? {line name : List Char} (h : plainItem? line = some (.header name)) :
    Heads line name := by
  obtain ⟨item, hitem, hplain⟩ := Option.map_eq_some_iff.mp h
  cases item with
  | field key value => cases hplain
  | header name' =>
    obtain rfl := Item.header.inj hplain
    rw [← headerName?_eq_some_iff]
    unfold item? at hitem
    split at hitem
    · obtain rfl := Item.header.inj (Option.some.inj hitem)
      assumption
    · obtain ⟨_, -, hfield⟩ := Option.map_eq_some_iff.mp hitem
      cases hfield

/-- Lines that do not head a name hold no header of it. -/
theorem header_not_mem_plainItems {ls : List (List Char)} {name : List Char}
    (h : ∀ line ∈ ls, ¬ Heads line name) : Item.header name ∉ ls.filterMap plainItem? := by
  intro hmem
  obtain ⟨line, hline, hitem⟩ := List.mem_filterMap.mp hmem
  exact h line hline (heads_of_plainItem? hitem)

/-- Lines that are whole blocks: **if there are any, the first of them is a header.** -/
def AreBlocks (ls : List (List Char)) : Prop := ∀ line ∈ ls.head?, ∃ name, Heads line name

instance (ls : List (List Char)) : Decidable (AreBlocks ls) :=
  decidable_of_iff (∀ line ∈ ls.head?, headerName? line ≠ none) <| by
    simp only [AreBlocks, ne_eq, headerName?_eq_none_iff, not_forall, not_not]

theorem AreBlocks.leadingFields {ls : List (List Char)} (h : AreBlocks ls) :
    leadingFields (ls.filterMap plainItem?) = [] := by
  cases ls with
  | nil => rfl
  | cons line ls =>
    obtain ⟨name, hheads⟩ := h line rfl
    rw [List.filterMap_cons_some (plainItem?_of_heads hheads)]
    rfl

/-- **Blocks after blocks are blocks.** -/
theorem AreBlocks.append {ls ls' : List (List Char)} (h : AreBlocks ls) (h' : AreBlocks ls') :
    AreBlocks (ls ++ ls') := by
  cases ls with
  | nil => exact h'
  | cons line ls => exact h

/-- **A name has no fields just if no header names it.** -/
theorem fieldsOf?_eq_none_iff (name : List Char) (items : List Item) :
    fieldsOf? name items = none ↔ .header name ∉ items := by
  induction items with
  | nil => simp [fieldsOf?]
  | cons item items ih =>
    cases item with
    | header name' =>
      rw [fieldsOf?]
      by_cases heq : name' = name
      · simp [heq]
      · simp [heq, ih, Ne.symm heq]
    | field key value => simpa [fieldsOf?] using ih

theorem leadingFields_append_of_nil (items : List Item) {rest : List Item}
    (h : leadingFields rest = []) : leadingFields (items ++ rest) = leadingFields items := by
  induction items with
  | nil => exact h
  | cons item items ih =>
    cases item with
    | header name => rfl
    | field key value => exact congrArg ((key, value) :: ·) ih

/-- **A block ends where the next one begins**, and the first block of a name counts. -/
theorem fieldsOf?_append (name : List Char) (items : List Item) {rest : List Item}
    (h : leadingFields rest = []) :
    fieldsOf? name (items ++ rest) = (fieldsOf? name items).or (fieldsOf? name rest) := by
  induction items with
  | nil => rfl
  | cons item items ih =>
    cases item with
    | header name' =>
      rw [List.cons_append, fieldsOf?, fieldsOf?, leadingFields_append_of_nil _ h, ih]
      split <;> rfl
    | field key value => exact ih

/-! ## Edits -/

variable {name : List Char}

/-- One edit of the lines of a report that leaves the first block of a name alone, but for letter
case. -/
inductive Edit (name : List Char) : List (List Char) → List (List Char) → Prop
  /-- **Lines above the first header** come and go. -/
  | preamble (ls ls' rest : List (List Char)) (untitled : ∀ line ∈ ls ++ ls', ∀ n, ¬ Heads line n) :
      Edit name (ls ++ rest) (ls' ++ rest)
  /-- **Blocks of other names** come and go, between blocks. -/
  | others (before ls ls' after : List (List Char)) (blocks : AreBlocks ls) (blocks' : AreBlocks ls')
      (next : AreBlocks after) (foreign : ∀ line ∈ ls ++ ls', ¬ Heads line name) :
      Edit name (before ++ ls ++ after) (before ++ ls' ++ after)
  /-- **Whatever blocks follow the first one of the name** give way to others, of any name. -/
  | below (kept after after' : List (List Char)) (headed : ∃ line ∈ kept, Heads line name)
      (blocks : AreBlocks after) (blocks' : AreBlocks after') :
      Edit name (kept ++ after) (kept ++ after')
  /-- **Letters of a value** change case. -/
  | recase (before after : List (List Char)) {line line' : List Char}
      (untitled : ∀ n, ¬ Heads line n) (recased : Recased line line') :
      Edit name (before ++ line :: after) (before ++ line' :: after)

/-- **An edit leaves the plain fields of the first block as they are.** -/
theorem Edit.fieldsOf?_eq {ls ls' : List (List Char)} (h : Edit name ls ls') :
    fieldsOf? name (ls.filterMap plainItem?) = fieldsOf? name (ls'.filterMap plainItem?) := by
  cases h with
  | preamble ls ls' rest untitled =>
    have hfields : ∀ {ls : List (List Char)}, (∀ line ∈ ls, ∀ n, ¬ Heads line n) →
        fieldsOf? name ((ls ++ rest).filterMap plainItem?) =
          fieldsOf? name (rest.filterMap plainItem?) := fun hls => by
      rw [List.filterMap_append, fieldsOf?_append_of_fields fun n =>
        header_not_mem_plainItems fun line hline => hls line hline n]
    rw [List.forall_mem_append] at untitled
    rw [hfields untitled.1, hfields untitled.2]
  | others before ls ls' after blocks blocks' next foreign =>
    have hskip : ∀ {ls : List (List Char)}, AreBlocks ls → (∀ line ∈ ls, ¬ Heads line name) →
        fieldsOf? name ((before ++ ls ++ after).filterMap plainItem?) =
          (fieldsOf? name (before.filterMap plainItem?)).or
            (fieldsOf? name (after.filterMap plainItem?)) := fun hls hforeign => by
      rw [List.append_assoc, List.filterMap_append,
        fieldsOf?_append _ _ (hls.append next).leadingFields, List.filterMap_append,
        fieldsOf?_append _ _ next.leadingFields,
        (fieldsOf?_eq_none_iff _ _).mpr (header_not_mem_plainItems hforeign), Option.none_or]
    rw [List.forall_mem_append] at foreign
    rw [hskip blocks foreign.1, hskip blocks' foreign.2]
  | below kept after after' headed blocks blocks' =>
    have hmem : Item.header name ∈ kept.filterMap plainItem? :=
      List.mem_filterMap.mpr (headed.imp fun _ h => ⟨h.1, plainItem?_of_heads h.2⟩)
    obtain ⟨fields, hfields⟩ := Option.ne_none_iff_exists'.mp fun hnone =>
      (fieldsOf?_eq_none_iff name _).mp hnone hmem
    rw [List.filterMap_append, fieldsOf?_append _ _ blocks.leadingFields, List.filterMap_append,
      fieldsOf?_append _ _ blocks'.leadingFields, hfields, Option.some_or, Option.some_or]
  | recase before after untitled recased =>
    have hitem := recased.plainItem?_eq ((headerName?_eq_none_iff _).mpr untitled)
    rw [List.filterMap_append, List.filterMap_cons, hitem, List.filterMap_append,
      List.filterMap_cons]

/-- **Edits add up.** -/
theorem fieldsOf?_eq_of_edits {ls ls' : List (List Char)} (h : ReflTransGen (Edit name) ls ls') :
    fieldsOf? name (ls.filterMap plainItem?) = fieldsOf? name (ls'.filterMap plainItem?) := by
  induction h with
  | refl => rfl
  | tail _ hedit ih => exact ih.trans hedit.fieldsOf?_eq

/-! ## What is told of a report as it is written -/

variable {ls ls' : List (List Char)} {report report' : String}

/-- **The lines may be read as they are written.** -/
theorem Writes.state?_eq_block (h : Writes ls report) (service : String) :
    state? report service = (block? service.toList ls).map fun block =>
      classify (value "status" block) (value "monitoring status" block) := by
  rw [Report.state?_eq, h.filterMap_item?, ← map_filterMap_block?, Option.map_map]
  simp only [value_eq_lastValue, Function.comp_def]

/-- **The state is that of the first block of the name**, whatever the letter case of its values. -/
theorem Writes.state?_eq_plain (h : Writes ls report) (service : String) :
    state? report service = (fieldsOf? service.toList (ls.filterMap plainItem?)).map fun fields =>
      classify (lastValue "status" fields) (lastValue "monitoring status" fields) := by
  have hplain : (Text.lines report.toList).filterMap plainItem? = ls.filterMap plainItem? := by
    rw [show plainItem? = fun line => (item? line).map Item.plain from rfl, ← List.map_filterMap,
      ← List.map_filterMap, h.filterMap_item?]
  rw [Report.state?_eq_plain, hplain]

theorem block?_eq_none_iff (name : List Char) (ls : List (List Char)) :
    block? name ls = none ↔ ∀ line ∈ ls, ¬ Heads line name := by
  induction ls with
  | nil => simp [block?]
  | cons line ls ih =>
    rw [List.forall_mem_cons, ← headerName?_eq_some_iff, block?]
    split
    · simp [*]
    · simp [*]

/-- **A block goes on to the next header.** -/
theorem block?_append_of_heads {before body after : List (List Char)} {header : List Char}
    (first : ∀ line ∈ before, ¬ Heads line name) (heads : Heads header name)
    (untitled : ∀ line ∈ body, ∀ n, ¬ Heads line n) (next : AreBlocks after) :
    block? name (before ++ header :: body ++ after) = some body := by
  induction before with
  | nil =>
    have hbody : ∀ line ∈ body, (headerName? line).isNone = true := fun line hline =>
      Option.isNone_iff_eq_none.mpr ((headerName?_eq_none_iff line).mpr (untitled line hline))
    have hafter : after.takeWhile (fun line => (headerName? line).isNone) = [] := by
      cases after with
      | nil => rfl
      | cons line after =>
        obtain ⟨n, hn⟩ := next line rfl
        rw [List.takeWhile_cons_of_neg]
        simp [(headerName?_eq_some_iff line n).mpr hn]
    rw [List.nil_append, List.cons_append, block?, if_pos ((headerName?_eq_some_iff _ _).mpr heads),
      List.takeWhile_append_of_pos hbody, hafter, List.append_nil]
  | cons line before ih =>
    rw [List.forall_mem_cons, ← headerName?_eq_some_iff] at first
    rw [List.cons_append, List.cons_append, block?, if_neg first.1, ih first.2]

/-- **The state of a service is told by its own first block alone, and not by the letter case of
values.**  Every report is written in lines.  Of a service that no line heads a block of nothing is
told, and else the fields of its first block tell its state, whatever stands around that block.  No
edits of the lines, one after the other, change what is told. -/
theorem told_by_first_block (service : String) :
    (∀ report, ∃ ls, Writes ls report) ∧
    (∀ ls report, Writes ls report →
      (state? report service = none ↔ ∀ line ∈ ls, ¬ Heads line service.toList)) ∧
    (∀ before header body after report, Writes (before ++ header :: body ++ after) report →
      (∀ line ∈ before, ¬ Heads line service.toList) → Heads header service.toList →
      (∀ line ∈ body, ∀ name, ¬ Heads line name) → AreBlocks after →
      state? report service =
        some (classify (value "status" body) (value "monitoring status" body))) ∧
    ∀ ls ls', ReflTransGen (Edit service.toList) ls ls' → ∀ report report', Writes ls report →
      Writes ls' report' → state? report service = state? report' service := by
  refine ⟨exists_writes, fun ls report h => ?_,
    fun before header body after report h first heads untitled next => ?_,
    fun ls ls' hedits report report' h h' => ?_⟩
  · rw [h.state?_eq_block, Option.map_eq_none_iff, block?_eq_none_iff]
  · rw [h.state?_eq_block, block?_append_of_heads first heads untitled next, Option.map_some]
  · rw [h.state?_eq_plain, h'.state?_eq_plain, fieldsOf?_eq_of_edits hedits]

/-- The first block of a service with a quote in its name. -/
def quotedBlock : List (List Char) := ["Process 'it's'".toList, "  status   Running\r".toList]

/-- The block again, with its value in another case. -/
def loudBlock : List (List Char) := ["Process 'it's'".toList, "  status   RUNNING\r".toList]

/-- A block of a name that the service's name starts with. -/
def shorterBlock : List (List Char) := ["Process 'it'".toList, "  status  failing".toList]

/-- A block without fields, of no name. -/
def namelessBlock : List (List Char) := ["Program ''".toList]

/-- A later block of the service's own name. -/
def laterBlock : List (List Char) := ["Process 'it's'".toList, "  status  pending".toList]

/-- Edits of all four kinds, between a report that ends in a line feed and one that does not. -/
theorem loudBlock_told :
    let name := "it's"
    let ls := ["Monit 5.2.5 uptime: 3h".toList] ++ shorterBlock ++ quotedBlock ++ laterBlock
    let ls' := namelessBlock ++ loudBlock
    let report := String.ofList (unlines ls)
    let report' := String.ofList (unlines ls').dropLast
    ReflTransGen (Edit name.toList) ls ls' ∧ Writes ls report ∧ Writes ls' report' ∧
      state? report name = state? report' name ∧ state? report' name = some .running := by
  intro name ls ls' report report'
  have hedits : ReflTransGen (Edit name.toList) ls ls' :=
    .head (.preamble ["Monit 5.2.5 uptime: 3h".toList] []
      (shorterBlock ++ quotedBlock ++ laterBlock) <| by
        simp only [← headerName?_eq_none_iff]
        decide) <|
    .head (.others [] shorterBlock namelessBlock (quotedBlock ++ laterBlock) (by decide +kernel)
      (by decide +kernel) (by decide +kernel) (by decide +kernel)) <|
    .head (.below (namelessBlock ++ quotedBlock) laterBlock [] (by decide +kernel)
      (by decide +kernel) (by decide +kernel)) <|
    .single (.recase (namelessBlock ++ ["Process 'it's'".toList]) []
      ((headerName?_eq_none_iff _).mp (by decide))
      ⟨spaces 2, "status".toList, " Running".toList, " RUNNING".toList, ['\r'],
        fun _ => isBlank_of_mem_spaces, by simp [isBlank], by decide +kernel, by decide +kernel,
        rfl, rfl⟩)
  have hwrites : Writes ls report := ⟨by decide, .inl String.toList_ofList⟩
  have hwrites' : Writes ls' report' :=
    ⟨by decide, .inr (by rw [String.toList_ofList]; decide)⟩
  obtain ⟨-, -, htold, hsame⟩ := told_by_first_block name
  exact ⟨hedits, hwrites, hwrites', hsame ls ls' hedits report report' hwrites hwrites',
    (htold namelessBlock "Process 'it's'".toList ["  status   RUNNING\r".toList] [] report' hwrites'
      (by decide) (by decide) (by simp only [← headerName?_eq_none_iff]; decide)
      (by decide)).trans (by decide +kernel)⟩

end Sidecar.Report
