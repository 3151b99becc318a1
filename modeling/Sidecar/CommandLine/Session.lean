import Sidecar.CommandLine.Run
import Sidecar.Http.Record

/-!
# CommandLine/Session — a run that learns its answers one by one

A run of the program is played over the answers that servers have given so far.  Either it comes to
its end, or it shows the next request to send, when to send it, and what the files are to be by
then.
-/

namespace Sidecar.CommandLine

/-- How far a run gets. -/
inductive Progress where
  | ended (last : Exit) (files : FileTree)
  | sends (time : Nat) (next : Http.Missed) (files : FileTree)

/-- How long a run is watched: longer than any clock runs. -/
def forever : Nat := Nat.pow 2 62

/-- How a run exits that never came to its end. -/
def Exit.unfinished : Exit := .ofFailure "the operation did not end" []

/-- When the first call was made whose request met silence.  **Every call has met silence from then
on.** -/
def silenceTime {σ : Type} (s : Scene σ) (missed : Nat) : Nat :=
  ((s.events.drop (s.events.length - missed)).head?.map (·.time)).getD s.now

/-- Plays a run over the answers given so far. -/
def play (args : List String) (answers : List Http.Answer) (temp : Marker.TempFile)
    (files : FileTree) : Progress :=
  let (s, ending) := run args Http.Record.network forever temp
    ⟨0, .fresh, files, .ofAnswers answers, []⟩
  match s.world.next?, ending with
  | some next, _ => .sends (silenceTime s s.world.missed.length) next s.files
  | none, .returned last => .ended last s.files
  | none, _ => .ended .unfinished s.files

end Sidecar.CommandLine
