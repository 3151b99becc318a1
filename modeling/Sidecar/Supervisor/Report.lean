import Sidecar.Supervisor
import Sidecar.Text.Blank
import Sidecar.Text.Search

/-!
# Supervisor/Report — the plain-text status report

A report is a preamble and one block per service: an unindented header line that carries the
service's name in single quotes, and indented lines `key  value` below it.  `Report.state?` finds
the state of one service in it.
-/

namespace Sidecar.Report

/-! ## Lines -/

/-- The text between the first and the last single quote. -/
def quotedName? (line : List Char) : Option (List Char) :=
  match line.dropWhile (· ≠ '\'') with
  | [] => none
  | _ :: rest =>
    match rest.reverse.dropWhile (· ≠ '\'') with
    | [] => none
    | _ :: name => some name.reverse

/-- The name in a header line.  **A line that starts with a blank is no header.** -/
def headerName? (line : List Char) : Option (List Char) :=
  if line.head?.any Text.isBlank then none else quotedName? line

/-- The text before the first two spaces in a row, and the text from them on. -/
def splitDoubleSpace? : List Char → Option (List Char × List Char)
  | [] => none
  | ' ' :: ' ' :: rest => some ([], ' ' :: ' ' :: rest)
  | c :: rest => (splitDoubleSpace? rest).map fun (key, value) => (c :: key, value)

/-- Reads a field: **two or more spaces part its key from its value.** -/
def field? (line : List Char) : Option (List Char × List Char) :=
  (splitDoubleSpace? (Text.trim line)).map fun (key, value) => (Text.trim key, Text.trim value)

/-! ## Blocks -/

/-- The lines of the first block that bears a name. -/
def block? (name : List Char) : List (List Char) → Option (List (List Char))
  | [] => none
  | line :: rest =>
    if headerName? line = some name then some (rest.takeWhile fun l => (headerName? l).isNone)
    else block? name rest

/-- The value of a key in a block, empty if there is none; **the last of several counts.** -/
def value (key : String) (block : List (List Char)) : List Char :=
  ((block.filterMap field?).reverse.find? fun (k, _) => k = key.toList).elim [] (·.2)

/-! ## States -/

/-- The text in lower case; **only plain letters are changed.** -/
def lower (cs : List Char) : List Char := cs.map Char.toLower

/-- The state that the two status fields tell.  **Letter case does not count.** -/
def classify (status monitoring : List Char) : ProcessState :=
  let status := lower status
  let monitoring := lower monitoring
  let startsWith (cs : List Char) (text : String) : Bool := text.toList.isPrefixOf cs
  if Text.holds "pending".toList status || startsWith monitoring "initializing"
      || monitoring = "waiting".toList then
    .pending
  else if startsWith monitoring "not monitored" || startsWith status "not monitored" then .stopped
  else if status = "running".toList || status = "ok".toList then .running
  else .failing

/-- The state of a service, if the report has a block for it. -/
def state? (report service : String) : Option ProcessState :=
  (block? service.toList (Text.lines report.toList)).map fun block =>
    classify (value "status" block) (value "monitoring status" block)

end Sidecar.Report
