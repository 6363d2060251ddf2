import Federation.Url.Host

namespace Federation

inductive Url.Path where
  | segments (segments : List String)
  | opaquePath (text : String)
deriving DecidableEq, Repr

structure Url where
  scheme : String
  username : String
  password : Option String
  host : Option Url.Host
  port : Option Nat
  path : Url.Path
  query : Option String
  fragment : Option String
deriving DecidableEq, Repr

namespace Url

def isSpecial (scheme : String) : Bool := ["http", "https", "ws", "wss", "ftp", "file"].contains scheme

def defaultPort? (scheme : String) : Option Nat :=
  if scheme = "http" ∨ scheme = "ws" then some 80
  else if scheme = "https" ∨ scheme = "wss" then some 443
  else if scheme = "ftp" then some 21
  else none

def Path.text : Path → String
  | .segments parts => String.join (parts.map ("/" ++ ·))
  | .opaquePath whole => whole

def userText (url : Url) : String :=
  match url.username.isEmpty, url.password with
  | true, none => ""
  | _, none => url.username ++ "@"
  | _, some password => url.username ++ ":" ++ password ++ "@"

def authorityText (url : Url) : String :=
  match url.host with
  | none => if url.scheme = "file" then "//" else ""
  | some host =>
    "//" ++ url.userText ++ host.text ++ (url.port.map fun port => s!":{port}").getD ""

def text (url : Url) : String :=
  url.scheme ++ ":" ++ url.authorityText ++ url.path.text ++
    (url.query.map ("?" ++ ·)).getD "" ++ (url.fragment.map ("#" ++ ·)).getD ""

/-- The user name and the password, if there is either, with escapes resolved. A name that is then no
    text counts for the whole as none, such a password only for itself. -/
def credentials? (url : Url) : Option (String × Option String) := do
  let plain (text : String) := (percentDecode (Bytes.ofText text)).toText?
  let username ← plain url.username
  let password := url.password.bind plain
  if username.isEmpty && password.isNone then none else some (username, password)

def withoutCredentials (url : Url) : Url :=
  if url.credentials?.isSome then { url with username := "", password := none } else url

theorem credentials?_eq_none {url : Url} (unnamed : url.username = "") (without : url.password = none) :
    url.credentials? = none := by
  have empty : Bytes.ofText "" = [] := ByteArray.toList_empty
  have plain : (percentDecode []).toText? = some "" := Bytes.toText?_encoding []
  simp only [credentials?, unnamed, without, empty, plain]
  rfl

theorem withoutCredentials_of_anonymous {url : Url} (anonymous : url.credentials? = none) :
    url.withoutCredentials = url := by
  unfold withoutCredentials
  rw [anonymous]
  rfl

end Url

end Federation
