import Federation.Bytes.Basic
import Federation.Storage.Path

namespace Federation

structure File where
  content : Bytes
  /-- Nanoseconds from the start of 1970. -/
  modified : Int
  isWritable : Bool
deriving DecidableEq, Repr

inductive Entry where
  | file (file : File)
  | directory
deriving DecidableEq, Repr

abbrev Place := List String

structure Storage where
  entries : List (Place × Entry)
deriving Repr

namespace Storage

inductive Fault where
  | notFound
  | exists
  | notDirectory
  | isDirectory
  | noSpace
  | nameTooLong
  | zeroInName
deriving DecidableEq, Repr

def Fault.message : Fault → String
  | .notFound => "No such file or directory (os error 2)"
  | .exists => "File exists (os error 17)"
  | .notDirectory => "Not a directory (os error 20)"
  | .isDirectory => "Is a directory (os error 21)"
  | .noSpace => "No space left on device (os error 28)"
  | .nameTooLong => "File name too long (os error 36)"
  | .zeroInName => "file name contained an unexpected NUL byte"

def empty : Storage := ⟨[]⟩

instance : Inhabited Storage := ⟨empty⟩

def lookup (place : Place) : List (Place × Entry) → Option Entry
  | [] => none
  | (here, entry) :: rest => if here = place then some entry else lookup place rest

def entryAt (storage : Storage) (place : Place) : Option Entry :=
  if place = [] then some .directory else lookup place storage.entries

def erase (storage : Storage) (place : Place) : Storage :=
  ⟨storage.entries.filter fun entry => !decide (entry.1 = place)⟩

def put (storage : Storage) (place : Place) (entry : Entry) : Storage :=
  ⟨(place, entry) :: (storage.erase place).entries⟩

def walk (storage : Storage) : Place → List String → Except Fault Place
  | place, [] => .ok place
  | place, step :: rest =>
    match storage.entryAt place with
    | none => .error .notFound
    | some (.file _) => .error .notDirectory
    | some .directory =>
      if Path.longestName < step.utf8ByteSize then .error .nameTooLong
      else if Path.isStill step then walk storage place rest
      else if step = ".." then walk storage place.dropLast rest
      else walk storage (place ++ [step]) rest

def locate (storage : Storage) (path : String) : Except Fault Place :=
  if path.toList.contains '\x00' then .error .zeroInName
  else if path.isEmpty then .error .notFound
  else if Path.longestPath < path.utf8ByteSize then .error .nameTooLong
  else storage.walk [] (Path.steps path)

def find (storage : Storage) (path : String) : Except Fault Entry := do
  let place ← storage.locate path
  match storage.entryAt place with
  | some entry => .ok entry
  | none => .error .notFound

def isDirectory (storage : Storage) (path : String) : Bool :=
  match storage.find path with
  | .ok .directory => true
  | _ => false

def read (storage : Storage) (path : String) : Except Fault Bytes := do
  match ← storage.find path with
  | .file file => .ok file.content
  | .directory => .error .isDirectory

def putFile (storage : Storage) (path : String) (file : Option File → File) : Except Fault Storage := do
  let place ← storage.locate path
  match storage.entryAt place with
  | some .directory => .error .isDirectory
  | some (.file old) => .ok (storage.put place (.file (file (some old))))
  | none => .ok (storage.put place (.file (file none)))

def write (storage : Storage) (path : String) (content : Bytes) (modified : Int) :
    Except Fault Storage :=
  storage.putFile path fun old => ⟨content, modified, old.all (·.isWritable)⟩

/-- Puts a new file in the place of an old one, or where there was none. A reader finds one of the
    two whole. -/
def replace (storage : Storage) (path : String) (content : Bytes) (modified : Int) :
    Except Fault Storage :=
  storage.putFile path fun _ => ⟨content, modified, true⟩

def makeDirectory (storage : Storage) (path : String) : Except Fault Storage := do
  let place ← storage.locate path
  match storage.entryAt place with
  | some _ => .error .exists
  | none => .ok (storage.put place .directory)

def remove (storage : Storage) (path : String) : Except Fault Storage := do
  let place ← storage.locate path
  match storage.entryAt place with
  | some _ => .ok ⟨storage.entries.filter fun entry => !place.isPrefixOf entry.1⟩
  | none => .error .notFound

def protect (storage : Storage) (path : String) : Except Fault Storage := do
  let place ← storage.locate path
  match storage.entryAt place with
  | some (.file file) => .ok (storage.put place (.file { file with isWritable := false }))
  | some .directory => .ok storage
  | none => .error .notFound

def names (storage : Storage) (path : String) : Except Fault (List String) := do
  let place ← storage.locate path
  match storage.entryAt place with
  | some .directory =>
    let inside := storage.entries.filterMap fun entry =>
      if entry.1.dropLast = place ∧ entry.1 ≠ [] then entry.1.getLast? else none
    .ok (inside.mergeSort fun left right => decide (left ≤ right))
  | some (.file _) => .error .notDirectory
  | none => .error .notFound

theorem lookup_filter_ne {place other : Place} (entries : List (Place × Entry))
    (different : other ≠ place) :
    lookup other (entries.filter fun entry => !decide (entry.1 = place)) = lookup other entries := by
  induction entries with
  | nil => rfl
  | cons first rest ih =>
    by_cases same : first.1 = place
    · have apart : first.1 ≠ other := fun equal => different (equal ▸ same)
      simp [same, lookup, ih, Ne.symm different]
    · simp [same, lookup, ih]

theorem entryAt_put_same {storage : Storage} {place : Place} {entry : Entry} (below : place ≠ []) :
    (storage.put place entry).entryAt place = some entry := by
  simp [entryAt, put, lookup, below]

theorem entryAt_put_other {storage : Storage} {place other : Place} {entry : Entry}
    (different : other ≠ place) : (storage.put place entry).entryAt other = storage.entryAt other := by
  by_cases top : other = []
  · simp [entryAt, top]
  · simp [entryAt, top, put, erase, lookup, Ne.symm different, lookup_filter_ne _ different]

end Storage

end Federation
