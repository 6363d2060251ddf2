import Federation.Command.Arguments
import Federation.Command.Report
import Federation.Resolver.Timer

namespace Federation.Command

structure Outcome where
  status : UInt8
  output : String
  errors : String
deriving DecidableEq, Repr

namespace Outcome

def success (output : String) : Outcome := ⟨0, output, ""⟩

def failure (error : MetadataError) : Outcome :=
  ⟨if error.isCallerError then 2 else 1, "", s!"Error: {error.message}\n"⟩

def misuse (fault : WordFault) : Outcome := ⟨2, "", s!"error: {fault.message}\n"⟩

end Outcome

def version : String := "fedmeta 0.3.0"

def help : List String := [
  "Resolve and watch federation metadata",
  "",
  "Usage: fedmeta [-v] [-f FORMAT] resolve|watch (--file PATH | --url URL [--backup PATH])",
  "         [--timeout SECONDS]",
  "",
  "resolve: [--entity-id ID] [--role KIND] [--protocol ID] [--require-valid] [--no-fail-fast]",
  "watch:   [--min-delay SECONDS] [--max-delay SECONDS]"]

def source (files : Storage) (arguments : SourceArguments) : Except MetadataError Source :=
  match arguments.file, arguments.url, arguments.backup with
  | some path, _, _ => .ok (.file path)
  | none, some url, some backup => Source.ofBackedUrl files url backup
  | none, some url, none => Source.ofUrl url
  | none, none, _ => .error (.configuration "Either --file or --url is required")

def criteria (arguments : LookUp) : Except MetadataError (Option CriteriaSet) := do
  let given := [("entityID", arguments.entityId), ("role", arguments.role),
    ("protocol", arguments.protocol)]
  let pairs := given.filterMap fun (name, value) => value.map fun value => (name, value)
  let set ← CriteriaSet.ofPairs pairs
  return if set.isEmpty then none else some set

def pipeline (settings : Settings) : Pipeline := ⟨settings, Document.parse, []⟩

def lookUp (arguments : LookUp) (readings : Readings) (now : Instant)
    (surroundings : Surroundings) : Except MetadataError Report × Storage :=
  let prepared : Except MetadataError (Option CriteriaSet × Settings) := do
    let source ← source surroundings.files arguments.source
    let criteria ← criteria arguments
    let draft : Settings.Draft := { id := "cli", source }
    let settings ← (draft.chooseAll [
      .timeout (.ofSeconds arguments.source.timeout),
      .requiresValid arguments.requiresValid,
      .failsFast arguments.failsFast,
      .background false]).check
    return (criteria, settings)
  match prepared with
  | .error error => (.error error, surroundings.files)
  | .ok (criteria, settings) =>
    let started := Resolver.start (pipeline settings) readings .zero surroundings
    let report : Except MetadataError Report := do
      let resolver ← started.resolver
      let entities ← match criteria with
        | some criteria => do pure (← resolver.resolve criteria now).toList
        | none => pure resolver.state.index.entities
      return ⟨criteria, entities, settings, resolver.state⟩
    (report, started.files)

structure Watching where
  timed : TimedResolver
  lines : List String

def offsetText (time : Instant) : String := time.dateText ++ "T" ++ time.clockText ++ "+00:00"

def watch (arguments : Watch) (readings : Readings) (surroundings : Surroundings) :
    Except MetadataError Watching × Storage :=
  let prepared : Except MetadataError Settings := do
    let source ← source surroundings.files arguments.source
    let draft : Settings.Draft := { id := "watch", source }
    (draft.chooseAll [
      .timeout (.ofSeconds arguments.source.timeout),
      .minDelay (.ofSeconds arguments.minDelay),
      .maxDelay (.ofSeconds arguments.maxDelay),
      .failsFast false]).check
  match prepared with
  | .error error => (.error error, surroundings.files)
  | .ok settings =>
    let started := Resolver.start (pipeline settings) readings .zero surroundings
    let watching : Except MetadataError Watching := do
      let resolver ← started.resolver
      let next := (resolver.state.nextRefresh.map offsetText).getD "not scheduled"
      return {
        timed := .ofResolver resolver started.delay
        lines := [
          s!"Watching {settings.source.display} ({resolver.state.entityCount} entities, " ++
            s!"next refresh {next})",
          "Press Ctrl-C to stop."] }
    (watching, started.files)

/-- What a command line does up to the point where a watch waits, and the files it leaves. -/
def run (words : List String) (readings : Readings) (now : Instant) (surroundings : Surroundings) :
    Outcome × Storage :=
  match Arguments.read words with
  | .error fault => (.misuse fault, surroundings.files)
  | .ok .help => (.success (printLines help), surroundings.files)
  | .ok .version => (.success (printLines [version]), surroundings.files)
  | .ok (.run json (.lookUp arguments)) =>
    match lookUp arguments readings now surroundings with
    | (.ok report, files) => (.success (report.print json), files)
    | (.error error, files) => (.failure error, files)
  | .ok (.run _ (.watch arguments)) =>
    match watch arguments readings surroundings with
    | (.ok watching, files) => (.success (printLines watching.lines), files)
    | (.error error, files) => (.failure error, files)

end Federation.Command
