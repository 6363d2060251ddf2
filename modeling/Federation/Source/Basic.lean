import Federation.Error
import Federation.Storage.Basic
import Federation.Url.Reader

namespace Federation

inductive Source where
  | file (path : String)
  | url (url : Url)
  | backedUrl (url : Url) (backup : String)
deriving DecidableEq, Repr

namespace Source

def backup? : Source → Option String
  | backedUrl _ backup => some backup
  | _ => none

def display : Source → String
  | file path => s!"file:{path}"
  | url address => address.text
  | backedUrl address backup => s!"{address.text} (backup {backup})"

def readUrl (text : String) : Except MetadataError Url :=
  match Url.read text with
  | .error fault => .error (.configuration s!"Invalid metadata URL '{text}': {fault.message}")
  | .ok address =>
    if address.scheme = "http" ∨ address.scheme = "https" then .ok address
    else .error (.configuration s!"Unsupported URL scheme '{address.scheme}' in '{text}'")

/-- Requires a path that can hold a backup: a writable file, or nothing yet in a directory. -/
def checkBackup (storage : Storage) (path : String) : Except MetadataError Unit :=
  match storage.find path with
  | .ok .directory => .error (.configuration s!"Backup path {path} is a directory")
  | .ok (.file found) =>
    if found.isWritable then .ok ()
    else .error (.configuration s!"Backup path {path} is not writable")
  | .error _ =>
    if storage.isDirectory (Path.parent path) then .ok ()
    else .error (.configuration s!"Parent directory of backup path {path} does not exist")

def ofUrl (text : String) : Except MetadataError Source := (readUrl text).map url

def ofBackedUrl (storage : Storage) (text path : String) : Except MetadataError Source := do
  checkBackup storage path
  let address ← readUrl text
  return backedUrl address path

end Source

end Federation
