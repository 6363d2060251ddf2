import Federation.Http
import Federation.Source.Basic
import Federation.Time.Instant

namespace Federation

inductive Origin where
  | file
  | network
  | backup
deriving DecidableEq, Repr

inductive Validators where
  | response (etag lastModified : Option String)
  /-- When the file was last modified, in nanoseconds from the start of 1970. -/
  | file (modified : Int)
deriving DecidableEq, Repr

structure Fetched where
  bytes : Bytes
  origin : Origin
  validators : Option Validators
deriving DecidableEq, Repr

inductive FetchOutcome where
  | fetched (fetched : Fetched)
  | notModified
deriving DecidableEq, Repr

structure Surroundings where
  files : Storage
  send : Http.Request → Http.Delivery
  hasSpace : Bool

namespace Validators

def headers : Option Validators → List (String × String)
  | some (response etag lastModified) =>
    (etag.map (("if-none-match", ·))).toList ++ (lastModified.map (("if-modified-since", ·))).toList
  | _ => []

end Validators

namespace Source

def request (address : Url) (previous : Option Validators) : Http.Request :=
  ⟨address.withoutCredentials,
    (address.credentials?.map Http.authorization).toList ++ Validators.headers previous ++
      [("user-agent", Http.agent)]⟩

def interpret (address : Url) : Http.Delivery → Except MetadataError FetchOutcome
  | .unanswered =>
    let requested := address.withoutCredentials
    .error (.fetch
      s!"Request to {address.text} failed: error sending request for url ({requested.text})")
  | .misdirected next =>
    .error (.fetch s!"Request to {address.text} failed: error following redirect for url ({next})")
  | .answered response =>
    if response.isNotModified then .ok .notModified
    else if !response.isSuccess then
      .error (.fetch s!"HTTP {Http.statusText response.status} from {address.text}")
    else
      match response.body with
      | none =>
        .error (.fetch
          s!"Failed to read response body from {address.text}: error decoding response body")
      | some bytes =>
        .ok (.fetched {
          bytes
          origin := .network
          validators := some
            (.response (response.header? "etag") (response.header? "last-modified")) })

def exchange (address : Url) (previous : Option Validators) (surroundings : Surroundings) :
    Except MetadataError FetchOutcome :=
  let requested := address.withoutCredentials
  if Http.canName requested then interpret address (surroundings.send (request address previous))
  else
    .error (.fetch s!"Request to {address.text} failed: builder error for url ({requested.text})")

def fileError (path : String) : Storage.Fault → MetadataError
  | .notFound => .notFound path
  | fault => .unreadable path fault.message

def readFile (storage : Storage) (path : String) (previous : Option Validators) :
    Except MetadataError FetchOutcome :=
  match storage.find path with
  | .error fault => .error (fileError path fault)
  | .ok .directory => .error (.unreadable path "path is a directory")
  | .ok (.file found) =>
    let unchanged := match previous with
      | some (.file seen) => decide (found.modified ≤ seen)
      | _ => false
    if unchanged then .ok .notModified
    else .ok (.fetched ⟨found.content, .file, some (.file found.modified)⟩)

/-- The bytes of a backup file that has any; else the failure that made it needed. -/
def readBackup (storage : Storage) (path : String) (failure : MetadataError) :
    Except MetadataError FetchOutcome :=
  match storage.read path with
  | .ok (first :: rest) => .ok (.fetched ⟨first :: rest, .backup, none⟩)
  | _ => .error failure

/-- The files after an attempt to replace a backup file; without room they stay as they are. -/
def writeBackup (surroundings : Surroundings) (path : String) (bytes : Bytes) (now : Instant) :
    Storage :=
  if surroundings.hasSpace then
    (surroundings.files.replace path bytes now.sinceEpoch).toOption.getD surroundings.files
  else surroundings.files

def fetch (source : Source) (previous : Option Validators) (now : Instant)
    (surroundings : Surroundings) : Except MetadataError FetchOutcome × Storage :=
  let files := surroundings.files
  match source with
  | file path => (readFile files path previous, files)
  | url address => (exchange address previous surroundings, files)
  | backedUrl address backup =>
    match exchange address previous surroundings with
    | .ok (.fetched fetched) =>
      (.ok (.fetched fetched), writeBackup surroundings backup fetched.bytes now)
    | .ok .notModified => (.ok .notModified, files)
    | .error failure => (readBackup files backup failure, files)

end Source

end Federation
