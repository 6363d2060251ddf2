import Federation.Url.Basic

namespace Federation.Url

def isControl (c : Char) : Bool := c.toNat < 0x20 || c.toNat == 0x7F

def percentEscape (byte : UInt8) : List Char :=
  let digit (value : Nat) := (Hex.digit value).toUpper
  ['%', digit (byte.toNat / 16), digit (byte.toNat % 16)]

def escape (escaped : List Char) (text : List Char) : List Char :=
  text.flatMap fun c =>
    if isControl c || 0x80 ≤ c.toNat || escaped.contains c then
      (Bytes.ofText c.toString).flatMap percentEscape
    else [c]

def fragmentEscapes : List Char := [' ', '\x22', '<', '>', '\x60']

def pathEscapes : List Char := fragmentEscapes ++ ['#', '?', '\x7b', '\x7d']

def userEscapes : List Char := pathEscapes ++ ['/', ':', ';', '=', '@', '[', '\\', ']', '^', '|']

def queryEscapes (special : Bool) : List Char :=
  [' ', '\x22', '#', '<', '>'] ++ if special then ['\x27'] else []

def endsAuthority (special : Bool) (c : Char) : Bool :=
  c == '/' || c == '?' || c == '#' || special && c == '\\'

def separates (special : Bool) (c : Char) : Bool := c == '/' || special && c == '\\'

def scheme? (text : List Char) : Option (String × List Char) :=
  let isSchemeChar (c : Char) : Bool := c.isAlphanum || c == '+' || c == '-' || c == '.'
  match text.takeWhile isSchemeChar, text.dropWhile isSchemeChar with
  | first :: scheme, ':' :: rest =>
    if first.isAlpha then some (String.ofList ((first :: scheme).map Char.toLower), rest) else none
  | _, _ => none

def splitLast? (separator : Char) (text : List Char) : Option (List Char × List Char) :=
  if text.contains separator then
    let after := (text.reverse.takeWhile (· != separator)).reverse
    some (text.take (text.length - after.length - 1), after)
  else none

structure User where
  username : String
  password : Option String

def readUser (text : List Char) : User :=
  let name := text.takeWhile (· != ':')
  let encoded (part : List Char) := String.ofList (escape userEscapes part)
  match text.dropWhile (· != ':') with
  | _ :: first :: rest => ⟨encoded name, some (encoded (first :: rest))⟩
  | _ => ⟨encoded name, none⟩

def splitPort : (inBrackets : Bool) → List Char → List Char × Option (List Char)
  | _, [] => ([], none)
  | inBrackets, c :: rest =>
    if c = ':' ∧ inBrackets = false then ([], some rest)
    else
      let inBrackets := if c = '[' then true else if c = ']' then false else inBrackets
      let (host, port) := splitPort inBrackets rest
      (c :: host, port)

def readPort (scheme : String) (digits : List Char) : Except Fault (Option Nat) :=
  if !digits.all fun c => '0' ≤ c && c ≤ '9' then .error .port
  else
    let port := numberIn 10 digits
    if 65535 < port then .error .port
    else if digits.isEmpty || defaultPort? scheme == some port then .ok none
    else .ok (some port)

def readOpaqueHost (text : List Char) : Except Fault Host :=
  match text with
  | '[' :: rest =>
    if rest.getLast? = some ']' then address6 rest.dropLast else .error .address6
  | _ =>
    if text.any fun c => c.toNat == 0 || " #/:<>?@[\\]^|".toList.contains c then
      .error .domainCharacter
    else .ok (.name (String.ofList (escape [] text)))

def isDot (segment : List Char) : Bool :=
  [".", "%2e"].contains (String.ofList (segment.map Char.toLower))

def isDoubleDot (segment : List Char) : Bool :=
  ["..", "%2e.", ".%2e", "%2e%2e"].contains (String.ofList (segment.map Char.toLower))

def resolveDots : (placed : List String) → List (List Char) → List String
  | placed, [] => placed.reverse
  | placed, segment :: rest =>
    if isDoubleDot segment then
      resolveDots (if rest.isEmpty then "" :: placed.drop 1 else placed.drop 1) rest
    else if isDot segment then resolveDots (if rest.isEmpty then "" :: placed else placed) rest
    else resolveDots (String.ofList (escape pathEscapes segment) :: placed) rest

def readPath (special : Bool) (text : List Char) : List String :=
  let text := text.map fun c => if separates special c then '/' else c
  match text with
  | '/' :: rest => resolveDots [] (splitAll '/' rest)
  | [] => if special then [""] else []
  | rest => resolveDots [] (splitAll '/' rest)

structure Tail where
  path : List Char
  query : Option String
  fragment : Option String

def splitTail (special : Bool) (text : List Char) : Tail :=
  let beforeFragment := text.takeWhile (· != '#')
  let fragment := (text.dropWhile (· != '#')).tail?.map fun rest =>
    String.ofList (escape fragmentEscapes rest)
  let query := (beforeFragment.dropWhile (· != '?')).tail?.map fun rest =>
    String.ofList (escape (queryEscapes special) rest)
  ⟨beforeFragment.takeWhile (· != '?'), query, fragment⟩

def readAuthority (scheme : String) (text : List Char) : Except Fault Url := do
  let special := isSpecial scheme
  let authority := text.takeWhile (!endsAuthority special ·)
  let rest := text.dropWhile (!endsAuthority special ·)
  let (user, place) := match splitLast? '@' authority with
    | some (before, after) => (readUser before, after)
    | none => (⟨"", none⟩, authority)
  let (hostText, portText) := splitPort false place
  if hostText.isEmpty && (special || portText.isSome || authority.contains '@') then
    .error .emptyHost
  else
    let host ← if special then readHost hostText else readOpaqueHost hostText
    let port ← match portText with
      | some digits => readPort scheme digits
      | none => .ok none
    let tail := splitTail special rest
    return {
      scheme, host := some host, port
      username := user.username
      password := user.password
      path := .segments (readPath special tail.path)
      query := tail.query
      fragment := tail.fragment }

def isDriveLetter (text : List Char) : Bool :=
  match text with
  | [letter, mark] => letter.isAlpha && (mark == ':' || mark == '|')
  | _ => false

def readFile (text : List Char) : Except Fault Url := do
  let build (host : Option Host) (rest : List Char) : Url :=
    let tail := splitTail true rest
    { scheme := "file", username := "", password := none, host, port := none
      path := .segments (readPath true tail.path)
      query := tail.query
      fragment := tail.fragment }
  match text with
  | first :: second :: rest =>
    if separates true first && separates true second then
      let hostText := rest.takeWhile (!endsAuthority true ·)
      if hostText.isEmpty || isDriveLetter hostText then return build none rest
      else
        let host ← readHost hostText
        let host := if host = .name "localhost" then none else some host
        return build host (rest.dropWhile (!endsAuthority true ·))
    else return build none text
  | _ => return build none text

def readPlain (scheme : String) (text : List Char) : Url :=
  let tail := splitTail false text
  let path := match tail.path with
    | '/' :: _ => .segments (readPath false tail.path)
    | path => .opaquePath (String.ofList (escape [] path))
  { scheme, username := "", password := none, host := none, port := none, path
    query := tail.query
    fragment := tail.fragment }

def meaningful (text : String) : List Char :=
  let isEdge (c : Char) : Bool := c.toNat ≤ 0x20
  let trimmed := ((text.toList.dropWhile isEdge).reverse.dropWhile isEdge).reverse
  trimmed.filter fun c => c != '\t' && c != '\n' && c != '\r'

def read (text : String) : Except Fault Url :=
  match scheme? (meaningful text) with
  | none => .error .relative
  | some (scheme, rest) =>
    if scheme = "file" then readFile rest
    else if isSpecial scheme then readAuthority scheme (rest.dropWhile (separates true))
    else
      match rest with
      | '/' :: '/' :: rest => readAuthority scheme rest
      | rest => .ok (readPlain scheme rest)

end Federation.Url
