import Sidecar.CommandLine.Help

/-!
# CommandLine — reading the arguments of the program

Arguments are read from left to right, those before the command first.  A flag's value may be
attached to it or be the next argument; **such a value is judged only when the next flag, or the end
of its level, is reached.**
-/

namespace Sidecar.CommandLine

/-! ## What may come of the arguments -/

/-- Why arguments are no invocation. -/
inductive UsageError where
  | unexpectedArgument (arg : String)
  | unknownCommand (name : String)
  | commandMissing
  | valueMissing (flag : Flag)
  | badValue (flag : Flag) (value : String) (reason : Duration.ParseError)
  | unneededValue (flag : Flag) (value : String)
  | repeated (flag : Flag)
deriving DecidableEq, Repr

/-- What is told of arguments that are no invocation. -/
def UsageError.message : UsageError → String
  | unexpectedArgument arg => s!"unexpected argument '{arg}' found"
  | unknownCommand name => s!"unrecognized subcommand '{name}'"
  | commandMissing => s!"'{program}' requires a subcommand but one was not provided"
  | valueMissing flag => s!"a value is required for '{flag.text}' but none was supplied"
  | badValue flag value reason => s!"invalid value '{value}' for '{flag.text}': {reason.message}"
  | unneededValue flag value =>
    s!"unexpected value '{value}' for '{flag.text}' found; no more were expected"
  | repeated flag => s!"the argument '{flag.text}' cannot be used multiple times"

/-- Why arguments ask for no operation. -/
inductive Refusal where
  | help (topic : Topic)
  | version
  /-- There is nothing at all among the arguments. -/
  | idle
  | misused (e : UsageError)
deriving DecidableEq, Repr

/-- What the arguments ask for. -/
structure Invocation where
  file : String
  isVerbose : Bool
  command : Command
  maxWait : Option Duration
deriving DecidableEq, Repr

/-! ## Flags -/

/-- The flags of one level, as far as they have been read. -/
structure Given where
  file : Option String
  maxWait : Option Duration
  isVerbose : Bool
  /-- A flag that waits for its value, or for its value to be judged. -/
  pending : Option (Flag × Option String)

namespace Given

/-- Nothing has been given yet. -/
def none : Given := ⟨.none, .none, false, .none⟩

/-- Whether the next argument may be the value of a flag. -/
def isOpen (g : Given) : Bool :=
  match g.pending with
  | some (_, .none) => true
  | _ => false

/-- Whether no flag has been given a value, nor `--verbose` been set. -/
def isNone (g : Given) : Bool := g.file.isNone && g.maxWait.isNone && !g.isVerbose

/-- Takes a flag with its value. -/
def take (g : Given) (flag : Flag) (value : String) : Except UsageError Given :=
  match flag with
  | .file =>
    if g.file.isSome then .error (.repeated flag)
    else if value.isEmpty then .error (.valueMissing flag)
    else .ok { g with file := some value }
  | .maxWait =>
    if g.maxWait.isSome then .error (.repeated flag)
    else
      match Duration.parse value with
      | .ok d => .ok { g with maxWait := some d }
      | .error reason => .error (.badValue flag value reason)
  | _ => .error (.unneededValue flag value)

/-- Judges the pending flag. -/
def settle (g : Given) : Except UsageError Given :=
  match g.pending with
  | .none => .ok g
  | some (flag, .none) => .error (.valueMissing flag)
  | some (flag, some value) => { g with pending := .none }.take flag value

/-- Meets a flag that takes no value. -/
def meet (g : Given) (l : Level) (flag : Flag) : Except Refusal Given := do
  let g ← g.settle.mapError .misused
  match flag with
  | .help => throw (.help (.level l))
  | .version => throw .version
  | _ =>
    if g.isVerbose then throw (.misused (.repeated flag)) else return { g with isVerbose := true }

/-- Meets a flag that takes a value, attached or not. -/
def meetValued (g : Given) (flag : Flag) (attached : Option String) : Except Refusal Given := do
  let g ← g.settle.mapError .misused
  match attached with
  | some value => (g.take flag value).mapError .misused
  | .none => return { g with pending := some (flag, .none) }

end Given

/-- Reads what follows two dashes. -/
def readLong (l : Level) (g : Given) (cs : List Char) : Except Refusal Given :=
  let name := String.ofList (cs.takeWhile (· ≠ '='))
  let attached : Option String := match cs.dropWhile (· ≠ '=') with
    | [] => none
    | _ :: value => some (String.ofList value)
  match l.flagOfLong? name with
  | none => .error (.misused (.unexpectedArgument s!"--{name}"))
  | some flag =>
    match flag.value?, attached with
    | some _, _ => g.meetValued flag attached
    | none, some value => .error (.misused (.unneededValue flag value))
    | none, none => g.meet l flag

/-- Reads what follows one dash: flags of one letter each.  **After one that takes a value, the rest
is that value**, less an equals sign in front. -/
def readShort (l : Level) (g : Given) : List Char → Except Refusal Given
  | [] => .ok g
  | c :: cs =>
    match l.flagOfShort? c with
    | none => .error (.misused (.unexpectedArgument s!"-{c}"))
    | some flag =>
      match flag.value?, cs with
      | some _, [] => g.meetValued flag none
      | some _, '=' :: value => g.meetValued flag (some (String.ofList value))
      | some _, value => g.meetValued flag (some (String.ofList value))
      | none, _ => do readShort l (← g.meet l flag) cs

/-! ## Levels -/

/-- What is wrong with an argument that is neither a flag nor a value nor a command in its place.
`isPlain` tells that two dashes alone stand before it. -/
def misplaced (l : Level) (isPlain : Bool) (arg : String) : UsageError :=
  let isCommand := arg = helpName || (Command.ofName? arg).isSome
  if l.isSome || (isPlain && isCommand) then .unexpectedArgument arg else .unknownCommand arg

/-- The end of a level: its flags, and the command after it with the arguments that are left. -/
abbrev LevelEnd := Given × Option (Command × List String)

/-- Reads the arguments of a level. -/
def readLevel (l : Level) (g : Given) : List String → Except Refusal LevelEnd
  | [] => .ok (g, none)
  | arg :: rest =>
    if l.isNone && !g.isOpen && arg = helpName then
      match Topic.ofNames rest with
      | .ok topic => .error (.help topic)
      | .error name => .error (.misused (.unknownCommand name))
    else
      match (if l.isNone && !g.isOpen then Command.ofName? arg else none) with
      | some command => .ok (g, some (command, rest))
      | none =>
        match arg.toList, g.pending with
        | ['-', '-'], _ =>
          match rest with
          | [] => .ok (g, none)
          | other :: _ => .error (.misused (misplaced l true other))
        | '-' :: '-' :: cs, _ => do readLevel l (← readLong l g cs) rest
        | '-' :: c :: cs, _ => do readLevel l (← readShort l g (c :: cs)) rest
        | _, some (flag, none) => readLevel l { g with pending := some (flag, some arg) } rest
        | _, _ => .error (.misused (misplaced l false arg))

/-- Reads the arguments of the program. -/
def read (args : List String) : Except Refusal Invocation := do
  let (outer, next) ← readLevel none .none args
  match next with
  | some (command, rest) =>
    let (inner, _) ← readLevel (some command) .none rest
    let inner ← inner.settle.mapError .misused
    let outer ← outer.settle.mapError .misused
    return {
      file := (inner.file.or outer.file).getD defaultFile
      isVerbose := inner.isVerbose || outer.isVerbose
      command
      maxWait := inner.maxWait }
  | none =>
    let outer ← outer.settle.mapError .misused
    throw (if outer.isNone then .idle else .misused .commandMissing)

end Sidecar.CommandLine
