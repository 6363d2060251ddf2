import Federation.Decimal.Numeral

/-!
Words of a command line. A switch has a long name after two dashes, and may have a letter after one;
a switch that takes a value finds it in the same word or in the next one, which then must not look
like a switch. Letters can be joined in one word.
-/

namespace Federation.Command

inductive ValueKind where
  | text
  | path
  | natural
deriving DecidableEq, Repr

structure Switch where
  name : String
  letter : Option Char
  value : Option ValueKind
deriving DecidableEq, Repr

def natural? (text : String) : Option UInt64 :=
  let digits := match text.toList with
    | '+' :: rest => rest
    | digits => digits
  let value := Decimal.digitsValue digits
  if digits.isEmpty || !digits.all Decimal.isDigit || 0x10000000000000000 ≤ value then none
  else some (UInt64.ofNat value)

def ValueKind.accepts : ValueKind → String → Bool
  | .text, _ => true
  | .path, value => !value.isEmpty
  | .natural, value => (natural? value).isSome

inductive WordFault where
  | unexpected (word : String)
  | valueMissing (name : String)
  | valueUnwanted (name : String)
  | repeated (name : String)
  | switchMissing (name : String)
  | conflict (first second : String)
  | invalidValue (name value : String)
  | actionMissing
deriving DecidableEq, Repr

def WordFault.message : WordFault → String
  | .unexpected word => s!"unexpected argument '{word}' found"
  | .valueMissing name => s!"a value is required for '--{name}' but none was supplied"
  | .valueUnwanted name => s!"unexpected value for '--{name}' found; no more were expected"
  | .repeated name => s!"the argument '--{name}' cannot be used multiple times"
  | .switchMissing name => s!"the argument '--{name}' was not provided"
  | .conflict first second => s!"the argument '--{first}' cannot be used with '--{second}'"
  | .invalidValue name value => s!"invalid value '{value}' for '--{name}'"
  | .actionMissing => "a subcommand is required"

abbrev Given := List (String × Option String)

inductive Words where
  | given (switches : Given) (rest : List String)
  | asked (name : String)
deriving DecidableEq, Repr

inductive Taken where
  | given (switches : Given)
  | awaiting (switches : Given) (last : Switch)
  | asked (name : String)
deriving DecidableEq, Repr

def immediate : List String := ["help", "version"]

def looksLikeSwitch (word : String) : Bool := word.startsWith "-" && word != "-"

def splitValue (word : List Char) : String × Option String :=
  let name := word.takeWhile (· != '=')
  match word.dropWhile (· != '=') with
  | [] => (String.ofList name, none)
  | _ :: value => (String.ofList name, some (String.ofList value))

def take (given : Given) (switch : Switch) (value : Option String) : Except WordFault Taken :=
  if given.any (·.1 == switch.name) then .error (.repeated switch.name)
  else
    match switch.value, value with
    | none, some _ => .error (.valueUnwanted switch.name)
    | none, none =>
      if immediate.contains switch.name then .ok (.asked switch.name)
      else .ok (.given (given ++ [(switch.name, none)]))
    | some _, none => .ok (.awaiting given switch)
    | some kind, some value =>
      if kind.accepts value then .ok (.given (given ++ [(switch.name, some value)]))
      else .error (.invalidValue switch.name value)

/-- The switches of some letters, one after another. A switch with a value takes what is left of the
    word, without an equals sign before it. -/
def takeLetters (known : List Switch) : Given → List Char → Except WordFault Taken
  | given, [] => .ok (.given given)
  | given, letter :: rest =>
    match known.find? (·.letter == some letter) with
    | none => .error (.unexpected ("-" ++ letter.toString))
    | some switch =>
      if switch.value.isSome then
        match rest with
        | [] => take given switch none
        | '=' :: value => take given switch (some (String.ofList value))
        | value => take given switch (some (String.ofList value))
      else do
        match ← take given switch none with
        | .given given => takeLetters known given rest
        | taken => return taken

def takeWord (known : List Switch) (given : Given) (word : String) : Except WordFault Taken :=
  match word.toList with
  | '-' :: '-' :: long =>
    let (name, value) := splitValue long
    match known.find? (·.name == name) with
    | none => .error (.unexpected word)
    | some switch => take given switch value
  | _ :: letters => takeLetters known given letters
  | [] => .ok (.given given)

/-- Reads switches up to the first word that is none. Two dashes alone end the switches, and no
    words may come after them. -/
def readSwitches (known : List Switch) : Given → List String → Except WordFault Words
  | given, [] => .ok (.given given [])
  | given, word :: rest =>
    if !looksLikeSwitch word then .ok (.given given (word :: rest))
    else if word = "--" then
      match rest with
      | [] => .ok (.given given [])
      | next :: _ => .error (.unexpected next)
    else do
      match ← takeWord known given word with
      | .asked name => .ok (.asked name)
      | .given given => readSwitches known given rest
      | .awaiting given switch =>
        match rest with
        | [] => .error (.valueMissing switch.name)
        | value :: rest =>
          if looksLikeSwitch value then .error (.valueMissing switch.name)
          else do
            match ← take given switch (some value) with
            | .given given => readSwitches known given rest
            | _ => .error (.valueMissing switch.name)

namespace Given

def has (given : Given) (name : String) : Bool := List.any given (·.1 == name)

def value? (given : Given) (name : String) : Option String :=
  (List.find? (·.1 == name) given).bind (·.2)

end Given

end Federation.Command
