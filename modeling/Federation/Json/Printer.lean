import Federation.Bytes.Hex
import Federation.Decimal.Layout
import Federation.Json.Value

namespace Federation.Json

def escaped (c : Char) : List Char :=
  if c = '\x22' then ['\\', '\x22']
  else if c = '\\' then ['\\', '\\']
  else if c = '\x08' then ['\\', 'b']
  else if c = '\x0C' then ['\\', 'f']
  else if c = '\n' then ['\\', 'n']
  else if c = '\r' then ['\\', 'r']
  else if c = '\t' then ['\\', 't']
  else if c.toNat < 0x20 then
    ['\\', 'u', '0', '0', Hex.digit (c.toNat / 16), Hex.digit (c.toNat % 16)]
  else [c]

def quote (text : String) : String :=
  String.ofList ('\x22' :: text.toList.flatMap escaped ++ ['\x22'])

def Number.write : Number → String
  | .natural value => toString value
  | .negative magnitude => "-" ++ toString magnitude
  | .real value => Decimal.quoted.writeFloat value

def indent (depth : Nat) : String := String.ofList (List.replicate (2 * depth) ' ')

mutual

def Value.lines (depth : Nat) : Value → String
  | .null => "null"
  | .boolean value => if value then "true" else "false"
  | .number value => value.write
  | .string value => quote value
  | .array [] => "[]"
  | .array (first :: rest) =>
    "[\n" ++ elementLines (depth + 1) (first :: rest) ++ "\n" ++ indent depth ++ "]"
  | .object [] => "\x7b\x7d"
  | .object (first :: rest) =>
    "\x7b\n" ++ memberLines (depth + 1) (first :: rest) ++ "\n" ++ indent depth ++ "\x7d"

def elementLines (depth : Nat) : List Value → String
  | [] => ""
  | [last] => indent depth ++ last.lines depth
  | first :: rest => indent depth ++ first.lines depth ++ ",\n" ++ elementLines depth rest

def memberLines (depth : Nat) : List (String × Value) → String
  | [] => ""
  | [(name, last)] => indent depth ++ quote name ++ ": " ++ last.lines depth
  | (name, first) :: rest =>
    indent depth ++ quote name ++ ": " ++ first.lines depth ++ ",\n" ++ memberLines depth rest

end

def Value.pretty (value : Value) : String := value.lines 0

end Federation.Json
