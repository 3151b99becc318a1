import Sidecar.Duration
import Sidecar.Intent

/-!
# CommandLine/Grammar — the commands and flags of the program

The program has a command for every intent and one for the status.  Flags stand before the command
or after it; each level has its own.
-/

namespace Sidecar.CommandLine

/-- The name of the program. -/
def program : String := "galera-sidecar"

/-- The version of the program. -/
def version : String := "0.1.0"

/-- What the program is for. -/
def about : String := "Galera sidecar - drive the local database node through its lifecycle"

/-- The configuration file that is read if none is named. -/
def defaultFile : String := "/etc/galera-sidecar/sidecar.yml"

/-! ## Commands -/

/-- What the program can be told to do. -/
inductive Command where
  | run (intent : Intent)
  | status
deriving DecidableEq, Repr

namespace Command

/-- All commands, in the order in which help lists them. -/
def all : List Command := Intent.all.map run ++ [status]

/-- The name of a command. -/
def name : Command → String
  | run intent => intent.name
  | status => "status"

/-- What a command is for. -/
def about : Command → String
  | run .bootstrap => "Seed a new cluster from this node"
  | run .join => "Start the node and join the existing cluster"
  | run .singleNode => "Start the node outside of any cluster"
  | run .stop => "Stop the database service"
  | status => "Print the supervisor's status for the database service"

/-- The command of a name. -/
def ofName? (text : String) : Option Command := all.find? (·.name == text)

/-- Whether the command starts the node and waits for it. -/
def isStart : Command → Bool
  | run intent => intent.declared.isSome
  | status => false

end Command

/-- The command that prints help; it stands among the others but takes names instead of flags. -/
def helpName : String := "help"

/-- What the command for help is for. -/
def helpAbout : String := "Print this message or the help of the given subcommand(s)"

/-! ## Flags -/

/-- What may be given besides a command. -/
inductive Flag where
  | file
  | maxWait
  | verbose
  | help
  | version
deriving DecidableEq, Repr

namespace Flag

/-- The long name of a flag. -/
def long : Flag → String
  | file => "file"
  | maxWait => "max-wait"
  | verbose => "verbose"
  | help => "help"
  | version => "version"

/-- The letter of a flag, if it has one. -/
def short? : Flag → Option Char
  | file => some 'f'
  | maxWait => none
  | verbose => some 'v'
  | help => some 'h'
  | version => some 'V'

/-- What stands for the value of a flag that takes one. -/
def value? : Flag → Option String
  | file => some "FILE"
  | maxWait => some "MAX_WAIT"
  | _ => none

/-- The flag as messages name it. -/
def text (f : Flag) : String :=
  match f.value? with
  | some value => s!"--{f.long} <{value}>"
  | none => s!"--{f.long}"

end Flag

/-- What flags stand after: the program's name, or a command. -/
abbrev Level := Option Command

/-- The flags of a level, in the order in which help lists them. -/
def Level.flags : Level → List Flag
  | none => [.file, .verbose, .help, .version]
  | some c => if c.isStart then [.file, .maxWait, .verbose, .help] else [.file, .verbose, .help]

/-- The flag of a long name, **if it may be given here.** -/
def Level.flagOfLong? (l : Level) (text : String) : Option Flag :=
  l.flags.find? (·.long == text)

/-- The flag of a letter, if it may be given here. -/
def Level.flagOfShort? (l : Level) (c : Char) : Option Flag :=
  l.flags.find? (·.short? == some c)

end Sidecar.CommandLine
