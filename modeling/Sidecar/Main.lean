import Std.Async.DNS
import Std.Async.TCP
import Std.Async.Timer
import Sidecar.CommandLine.Session
import Sidecar.Http.Wire

/-!
# Main — the program

The program shows the disk and the servers to `CommandLine.play`, and does what that says: it keeps
the files as they are to be, sends a request when it is due, and prints what is left at the end.
-/

namespace Sidecar.Program

open Std.Async

/-! ## The disk -/

/-- The path of a location, from the root. -/
def placeOf (l : Location) : String := "/" ++ "/".intercalate (l.map String.ofList)

/-- The locations that a look-up of a path passes through. -/
def passed (workingDirectory : Location) (path : List Char) : List Location :=
  let step : Location × List Location → List Char → Location × List Location :=
    fun (here, done) name =>
      let here :=
        if name = ['.'] then here
        else if name = ['.', '.'] then here.dropLast
        else here ++ [name]
      (here, done ++ [here])
  ((Path.names path).foldl step (if Path.isAbsolute path then [] else workingDirectory, [])).2

/-- What stands at a location of the disk. -/
def look (l : Location) : IO (Option Entry) := do
  let place := (← IO.currentDir) / placeOf l
  if ← place.isDir then return some .directory
  else if ← place.pathExists then
    return some (.file Marker.privateMode (← IO.FS.readBinFile place).toList)
  else return none

/-- Adds what the look-up of a path finds on the disk. -/
def observe (tree : FileTree) (path : String) : IO FileTree :=
  (passed tree.workingDirectory path.toList).foldlM (fun tree l => do
    match ← look l with
    | some e => return if l.isEmpty then tree else tree.put l e
    | none => return tree) tree

/-- The part of the disk that a run with these arguments can see. -/
def survey (args : List String) : IO FileTree := do
  let here := (← IO.currentDir).toString
  let tree := FileTree.empty (Path.names here.toList)
  match CommandLine.read args with
  | .error _ => return tree
  | .ok invocation =>
    let tree ← observe tree invocation.file
    match Config.load tree invocation.file with
    | .error _ => return tree
    | .ok config => observe tree config.statePath

/-- The rights that a mode grants to a file's owner, its group and others. -/
def rights (mode : Nat) : IO.FileRight :=
  let access (n : Nat) : IO.AccessRight := ⟨n / 4 % 2 = 1, n / 2 % 2 = 1, n % 2 = 1⟩
  ⟨access (mode / 64 % 8), access (mode / 8 % 8), access (mode % 8)⟩

/-- Brings the files that differ between two trees to the disk, **each by a rename.** -/
def install (name : String) (before after : FileTree) : IO Unit := do
  for (l, e) in after.entries do
    match e with
    | .file mode content =>
      if before.get? l ≠ some e then
        let temporary := placeOf (l.dropLast ++ [name.toList])
        IO.FS.writeBinFile temporary ⟨content.toArray⟩
        IO.setAccessRights temporary (rights mode)
        IO.FS.rename temporary (placeOf l)
    | _ => pure ()

/-! ## The servers -/

/-- The address of a server, if its name can be resolved. -/
def addressOf? (url : Url) : Async (Option Std.Net.SocketAddress) := do
  let port := url.effectivePort.toUInt16
  match url.host with
  | .ipv4 n =>
    let octet (k : Nat) : UInt8 := (n / Nat.pow 256 k % 256).toUInt8
    return some (.v4 ⟨.ofParts (octet 3) (octet 2) (octet 1) (octet 0), port⟩)
  | .ipv6 pieces =>
    let piece (k : Nat) : UInt16 := (pieces.getD k 0).toUInt16
    let addr := .ofParts (piece 0) (piece 1) (piece 2) (piece 3) (piece 4) (piece 5) (piece 6)
      (piece 7)
    return some (.v6 ⟨addr, port⟩)
  | .domain name =>
    let found ← DNS.getAddrInfo (String.ofList name) ""
    return found.toList.head?.map fun
      | .v4 addr => .v4 ⟨addr, port⟩
      | .v6 addr => .v6 ⟨addr, port⟩

/-- Receives a response, after the octets that have come already. -/
partial def receive (client : TCP.Socket.Client) (octets : List UInt8) : Async Http.Answer := do
  match ← client.recv? 65536 with
  | none => return ((Http.Response.ofOctets? true octets).map .response).getD (.fault .closed)
  | some more =>
    let octets := octets ++ more.toList
    match Http.Response.ofOctets? false octets with
    | some response => return .response response
    | none => receive client octets

/-- Connects to a server. -/
def connect? (url : Url) : Async (Except Http.Fault TCP.Socket.Client) := do
  try
    match ← addressOf? url with
    | none => return .error .unreachable
    | some address =>
      let client ← TCP.Socket.Client.mk
      client.connect address
      return .ok client
  catch e =>
    let isRefusal := Text.holds "refused".toList (toString e).toList
    return .error (if isRefusal then .refused else .unreachable)

/-- Takes a request to its server. -/
def converse (request : Http.Request) : Async Http.Answer := do
  match ← connect? request.url with
  | .error fault => return .fault fault
  | .ok client =>
    try
      client.send ⟨request.octets.toArray⟩
      receive client []
    catch _ => return .fault .closed

instance : Inhabited Http.Answer := ⟨.silence⟩

/-- Exchanges a request for an answer, **or for silence when its time is over.** -/
def exchange (missed : Http.Missed) : IO Http.Answer :=
  (Async.race (converse missed.request) (do
    sleep (.ofNat missed.timeout)
    return .silence)).block

/-! ## The run -/

/-- Goes on with a run that has had some answers, until it ends. -/
partial def proceed (args : List String) (name : String) (started : Nat) (files onDisk : FileTree)
    (answers : List Http.Answer) : IO UInt32 := do
  match CommandLine.play args answers name files with
  | .ended last after =>
    install name onDisk after
    IO.print last.output
    IO.eprint last.complaint
    return last.status.toUInt32
  | .sends time next after =>
    install name onDisk after
    let now ← IO.monoMsNow
    IO.sleep (started + time - now).toUInt32
    let answer ← exchange next
    proceed args name started files after (answers ++ [answer])

/-- A name for a temporary file. -/
def temporaryName : IO String := do
  let letters ← (List.replicate 6 ()).mapM fun _ => do
    return Char.ofNat (97 + (← IO.rand 0 25))
  return ".tmp" ++ String.ofList letters

end Sidecar.Program

/-- Carries a command line out, in the world. -/
def main (args : List String) : IO UInt32 := do
  let files ← Sidecar.Program.survey args
  let name ← Sidecar.Program.temporaryName
  Sidecar.Program.proceed args name (← IO.monoMsNow) files files []
