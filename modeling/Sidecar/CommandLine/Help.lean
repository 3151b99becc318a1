import Sidecar.CommandLine.Grammar

/-!
# CommandLine/Help — the help texts

Every help text is a sentence, a usage line and tables of two columns.
-/

namespace Sidecar.CommandLine

/-- What a help text is about. -/
inductive Topic where
  | level (l : Level)
  /-- The help command itself. -/
  | help
deriving DecidableEq, Repr

/-- A table under a title; **its second column starts two spaces after the widest first cell.** -/
def table (title : String) (rows : List (String × String)) : String :=
  let width := (rows.map (·.1.length)).foldl max 0
  let line : String × String → String := fun (left, right) =>
    let padding := String.ofList (List.replicate (width - left.length) ' ')
    "  " ++ left ++ padding ++ "  " ++ right ++ "\n"
  title ++ ":\n" ++ String.join (rows.map line)

/-- What help says about a flag of a level. -/
def Flag.about (l : Level) : Flag → String
  | file => s!"Path to the sidecar configuration file [default: {defaultFile}]"
  | maxWait =>
    if l = some (.run .bootstrap) then
      "Give up if the node is not ready in time (e.g. \"10m\")"
    else ""
  | verbose => "Verbose output"
  | help => "Print help"
  | version => "Print version"

/-- The flag as help lists it, **long names in one column.** -/
def Flag.usage (f : Flag) : String :=
  match f.short? with
  | some c => s!"-{c}, {f.text}"
  | none => s!"    {f.text}"

/-- The flags that may be given here. -/
def flagTable (l : Level) : String :=
  table "Options" (l.flags.map fun f => (f.usage, f.about l))

/-- The commands, and the one for help. -/
def commandTable : String :=
  table "Commands" (Command.all.map (fun c => (c.name, c.about)) ++ [(helpName, helpAbout)])

namespace Topic

/-- How the arguments are put together. -/
def usage : Topic → String
  | level none => s!"{program} [OPTIONS] <COMMAND>"
  | level (some c) => s!"{program} {c.name} [OPTIONS]"
  | help => s!"{program} {helpName} [COMMAND]..."

/-- What is said about a topic. -/
def sentence : Topic → String
  | level none => CommandLine.about
  | level (some c) => c.about
  | help => helpAbout

/-- The tables that belong to a topic. -/
def tables : Topic → List String
  | level none => [commandTable, flagTable none]
  | level (some c) => [flagTable (some c)]
  | help => [table "Arguments" [("[COMMAND]...", "Print help for the subcommand(s)")]]

/-- The page of help on a topic. -/
def text (t : Topic) : String :=
  "\n".intercalate ((t.sentence ++ "\n") :: s!"Usage: {t.usage}\n" :: t.tables)

/-- The topic that names after the help command ask for, or the first name that is none. -/
def ofNames : List String → Except String Topic
  | [] => .ok (.level none)
  | name :: rest =>
    let found := if name = helpName then some .help else (Command.ofName? name).map (.level ∘ some)
    match found, rest with
    | none, _ => .error name
    | some t, [] => .ok t
    | some _, other :: _ => .error other

end Topic

end Sidecar.CommandLine
