import Federation.Command.Switches

namespace Federation.Command

structure SourceArguments where
  file : Option String
  url : Option String
  backup : Option String
  timeout : UInt64
deriving DecidableEq, Repr

structure LookUp where
  source : SourceArguments
  entityId : Option String
  role : Option String
  protocol : Option String
  requiresValid : Bool
  failsFast : Bool
deriving DecidableEq, Repr

structure Watch where
  source : SourceArguments
  minDelay : UInt64
  maxDelay : UInt64
deriving DecidableEq, Repr

inductive Action where
  | lookUp (arguments : LookUp)
  | watch (arguments : Watch)
deriving DecidableEq, Repr

inductive Arguments where
  | help
  | version
  | run (json : Bool) (action : Action)
deriving DecidableEq, Repr

def helpSwitch : Switch := ⟨"help", some 'h', none⟩

def plainSwitch (name : String) : Switch := ⟨name, none, none⟩

def valueSwitch (kind : ValueKind) (name : String) : Switch := ⟨name, none, some kind⟩

def commonSwitches : List Switch :=
  [⟨"verbose", some 'v', none⟩, ⟨"format", some 'f', some .text⟩, ⟨"version", some 'V', none⟩,
    helpSwitch]

def sourceSwitches : List Switch :=
  [valueSwitch .path "file", valueSwitch .text "url", valueSwitch .path "backup",
    valueSwitch .natural "timeout", helpSwitch]

def lookUpSwitches : List Switch :=
  sourceSwitches ++ ["entity-id", "role", "protocol"].map (valueSwitch .text) ++
    ["require-valid", "no-fail-fast"].map plainSwitch

def watchSwitches : List Switch :=
  sourceSwitches ++ ["min-delay", "max-delay"].map (valueSwitch .natural)

def natural (given : Given) (name : String) (default : UInt64) : UInt64 :=
  ((given.value? name).bind natural?).getD default

/-- One of file and URL must be given, and a backup goes with a URL. Beside a file, which stands in
    for the URL, a backup is not used. -/
def readSource (given : Given) : Except WordFault SourceArguments := do
  let file := given.value? "file"
  let backup := given.value? "backup"
  let timeout := natural given "timeout" 30
  let url := given.value? "url"
  if file.isSome && url.isSome then .error (.conflict "file" "url")
  else if file.isNone && url.isNone then .error (.switchMissing "file")
  else return { file, url, backup, timeout }

def readAction (known : List Switch) (build : Given → Except WordFault Action) (json : Bool)
    (words : List String) : Except WordFault Arguments := do
  match ← readSwitches known [] words with
  | .asked _ => return .help
  | .given _ (word :: _) => .error (.unexpected word)
  | .given given [] => return .run json (← build given)

def readLookUp (given : Given) : Except WordFault Action := do
  return .lookUp {
    source := ← readSource given
    entityId := given.value? "entity-id"
    role := given.value? "role"
    protocol := given.value? "protocol"
    requiresValid := given.has "require-valid"
    failsFast := !given.has "no-fail-fast" }

def readWatch (given : Given) : Except WordFault Action := do
  return .watch {
    source := ← readSource given
    minDelay := natural given "min-delay" 300
    maxDelay := natural given "max-delay" 14400 }

def isJson (given : Given) : Bool := given.value? "format" == some "json"

def readHelp : List String → Except WordFault Arguments
  | [] => return .help
  | word :: rest =>
    if ["resolve", "watch", "help"].contains word then
      match rest with
      | [] => return .help
      | next :: _ => .error (.unexpected next)
    else .error (.unexpected word)

def Arguments.read (words : List String) : Except WordFault Arguments := do
  match ← readSwitches commonSwitches [] words with
  | .asked name => return if name = "help" then .help else .version
  | .given _ [] => .error .actionMissing
  | .given given (action :: rest) =>
    if action = "resolve" then readAction lookUpSwitches readLookUp (isJson given) rest
    else if action = "watch" then readAction watchSwitches readWatch (isJson given) rest
    else if action = "help" then readHelp rest
    else .error (.unexpected action)

end Federation.Command
