import Federation.Command.Run
import Std.Time.DateTime.Timestamp

namespace Federation

def wallClock : IO Instant := do
  let nanoseconds := (← Std.Time.Timestamp.now).toNanosecondsSinceUnixEpoch.val
  return (Instant.ofParts? (nanoseconds / 1_000_000_000)
    (nanoseconds % 1_000_000_000).toNat).getD .epoch

def loadEntry (path : String) (modified : Int) : IO (Option Entry) := do
  try
    let content ← IO.FS.readBinFile path
    return some (.file ⟨content.toList, modified, true⟩)
  catch
    | .inappropriateType .. => return some .directory
    | _ => return none

def loadSteps (modified : Int) (walked : String) (place : Place) (files : Storage) :
    List String → IO Storage
  | [] => return files
  | step :: rest => do
    if Path.isStill step then loadSteps modified (walked ++ step ++ "/") place files rest
    else
      let place := if step = ".." then place.dropLast else place ++ [step]
      let files ← match ← loadEntry (walked ++ step) modified with
        | some entry => pure (files.put place entry)
        | none => pure files
      loadSteps modified (walked ++ step ++ "/") place files rest

def loadFiles (arguments : Command.SourceArguments) (now : Instant) : IO Storage :=
  [arguments.file, arguments.backup].foldlM (fun files path =>
    match path with
    | some path => loadSteps now.sinceEpoch "" [] files (Path.steps path)
    | none => pure files) .empty

def surroundingsOf (arguments : Command.SourceArguments) (now : Instant) : IO Surroundings := do
  return ⟨← loadFiles arguments now, fun _ => .unanswered, true⟩

partial def keepWatching (arguments : Command.SourceArguments) (timed : TimedResolver) : IO Unit := do
  match timed.deadline with
  | none => return
  | some deadline =>
    let time := deadline - timed.elapsed
    IO.sleep (UInt32.ofNat (min ((time + 999_999) / 1_000_000) 0xFFFFFFFF))
    let now ← wallClock
    let surroundings ← surroundingsOf arguments now
    let (timed, _) := timed.pass ((Duration.ofNanoseconds? time).getD .zero) (.still now) surroundings
    keepWatching arguments timed

def sourceArguments? (words : List String) : Option Command.SourceArguments :=
  match Command.Arguments.read words with
  | .ok (.run _ (.lookUp arguments)) => some arguments.source
  | .ok (.run _ (.watch arguments)) => some arguments.source
  | _ => none

end Federation

open Federation in
def main (words : List String) : IO UInt32 := do
  let now ← wallClock
  let arguments := sourceArguments? words
  let surroundings ← surroundingsOf (arguments.getD ⟨none, none, none, 0⟩) now
  let (outcome, _) := Command.run words (.still now) now surroundings
  IO.print outcome.output
  IO.eprint outcome.errors
  (← IO.getStdout).flush
  match Command.Arguments.read words with
  | .ok (.run _ (.watch watch)) =>
    match Command.watch watch (.still now) surroundings with
    | (.ok watching, _) => keepWatching watch.source watching.timed
    | (.error _, _) => pure ()
  | _ => pure ()
  return outcome.status.toUInt32
