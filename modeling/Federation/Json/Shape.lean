import Federation.Json.Printer
import Federation.Text.Quoted
import Federation.Time.Timestamp

namespace Federation.Json

inductive ShapeFault where
  | wrongType (found : Value) (expected : String)
  | wrongSign (magnitude : Nat)
  | missing (name : String)
  | unknownVariant (found : String) (known : List String)
  | wrongLength (length : Nat) (expected : String)
  | notSingle
  | timestamp (fault : Timestamp.Fault)
deriving BEq, Repr

def Value.description : Value → String
  | .null => "null"
  | .boolean value => "boolean `" ++ (if value then "true" else "false") ++ "`"
  | .number (.real value) => "floating point `" ++ Decimal.quoted.writeFloat value ++ "`"
  | .number value => "integer `" ++ value.write ++ "`"
  | .string value => "string " ++ Text.quoted value
  | .array _ => "sequence"
  | .object _ => "map"

def alternatives (known : List String) : String :=
  let marked := known.map fun name => "`" ++ name ++ "`"
  match marked with
  | [] => "nothing"
  | [only] => only
  | [first, second] => first ++ " or " ++ second
  | _ => "one of " ++ ", ".intercalate marked

def ShapeFault.message : ShapeFault → String
  | .wrongType found expected => "invalid type: " ++ found.description ++ ", expected " ++ expected
  | .wrongSign magnitude => s!"invalid value: integer `-{magnitude}`, expected u64"
  | .missing name => "missing field `" ++ name ++ "`"
  | .unknownVariant found known => "unknown variant `" ++ found ++ "`, expected " ++ alternatives known
  | .wrongLength length expected => s!"invalid length {length}, expected {expected}"
  | .notSingle => "invalid value: map, expected map with a single key"
  | .timestamp fault => fault.message

abbrev Shape := Except ShapeFault

def asString : Value → Shape String
  | .string text => .ok text
  | found => .error (.wrongType found "a string")

def asNatural : Value → Shape UInt64
  | .number (.natural value) => .ok (UInt64.ofNat value)
  | .number (.negative magnitude) => .error (.wrongSign magnitude)
  | found => .error (.wrongType found "u64")

def asInstant : Value → Shape Instant
  | .string text =>
    match Timestamp.read text with
    | .ok t => .ok t
    | .error fault => .error (.timestamp fault)
  | found => .error (.wrongType found "an RFC 3339 formatted date and time string")

def asOptional {α : Type} (read : Value → Shape α) : Value → Shape (Option α)
  | .null => .ok none
  | found => do return some (← read found)

def readAll {α : Type} (read : Value → Shape α) : List Value → Shape (List α)
  | [] => .ok []
  | first :: rest => do
    let value ← read first
    let values ← readAll read rest
    return value :: values

def asList {α : Type} (read : Value → Shape α) : Value → Shape (List α)
  | .array elements => readAll read elements
  | found => .error (.wrongType found "a sequence")

def variantOf {α : Type} (known : List (String × α)) (name : String) : Shape α :=
  match known.find? (·.1 == name) with
  | some (_, variant) => .ok variant
  | none => .error (.unknownVariant name (known.map (·.1)))

/-- A variant by its name, or as the name of the only member of an object, whose value is null. -/
def asVariant {α : Type} (known : List (String × α)) : Value → Shape α
  | .string name => variantOf known name
  | .object [(name, content)] => do
    let variant ← variantOf known name
    match content with
    | .null => return variant
    | found => .error (.wrongType found "unit")
  | .object _ => .error .notSingle
  | found => .error (.wrongType found "string or map")

def member {α : Type} (name : String) (read : Value → Shape α) (members : List (String × Value)) :
    Shape (Option α) :=
  match member? name members with
  | none => .ok none
  | some found => do return some (← read found)

def optionalMember {α : Type} (name : String) (read : Value → Shape α)
    (members : List (String × Value)) : Shape (Option α) := do
  return (← member name (asOptional read) members).join

def required {α : Type} (name : String) : Option α → Shape α
  | some value => .ok value
  | none => .error (.missing name)

def positionAt {α : Type} (expected : String) (position : Nat) (read : Value → Shape α)
    (fields : List Value) : Shape α :=
  match fields[position]? with
  | some found => read found
  | none => .error (.wrongLength position expected)

def positionOr {α : Type} (default : α) (position : Nat) (read : Value → Shape α)
    (fields : List Value) : Shape α :=
  match fields[position]? with
  | some found => read found
  | none => .ok default

def noneAfter (count : Nat) (fields : List Value) : Shape Unit :=
  if fields.length ≤ count then .ok () else .error (.wrongLength fields.length "fewer elements in array")

end Federation.Json
