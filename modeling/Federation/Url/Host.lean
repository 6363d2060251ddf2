import Federation.Bytes.Hex
import Federation.Url.Label

namespace Federation.Url

inductive Fault where
  | relative
  | emptyHost
  | port
  | internationalName
  | domainCharacter
  | address4
  | address6
deriving DecidableEq, Repr

def Fault.message : Fault → String
  | .relative => "relative URL without a base"
  | .emptyHost => "empty host"
  | .port => "invalid port number"
  | .internationalName => "invalid international domain name"
  | .domainCharacter => "invalid domain character"
  | .address4 => "invalid IPv4 address"
  | .address6 => "invalid IPv6 address"

inductive Host where
  | name (name : String)
  | address4 (value : Nat)
  | address6 (groups : List Nat)
deriving DecidableEq, Repr

def percentDecode : Bytes → Bytes
  | 0x25 :: high :: low :: rest =>
    match Hex.digitValue? (Char.ofNat high.toNat), Hex.digitValue? (Char.ofNat low.toNat) with
    | some h, some l => UInt8.ofNat (16 * h + l) :: percentDecode rest
    | _, _ => 0x25 :: percentDecode (high :: low :: rest)
  | byte :: rest => byte :: percentDecode rest
  | [] => []

def splitAll (separator : Char) : List Char → List (List Char)
  | [] => [[]]
  | c :: rest =>
    match splitAll separator rest with
    | [] => [[c]]
    | part :: parts => if c = separator then [] :: part :: parts else (c :: part) :: parts

def numberIn (base : Nat) (digits : List Char) : Nat :=
  digits.foldl (fun value c => value * base + (Hex.digitValue? c).getD 0) 0

def part4? (part : List Char) : Option Nat :=
  let read (base : Nat) (digits : List Char) : Option Nat :=
    if digits.all fun c => (Hex.digitValue? c).any (· < base) then some (numberIn base digits) else none
  match part with
  | [] => none
  | '0' :: 'x' :: digits => read 16 digits
  | '0' :: 'X' :: digits => read 16 digits
  | '0' :: digit :: digits => read 8 (digit :: digits)
  | digits => read 10 digits

def withoutTrailingDot (parts : List (List Char)) : List (List Char) :=
  if parts.length ≠ 1 ∧ parts.getLast? = some [] then parts.dropLast else parts

def endsInNumber (name : List Char) : Bool :=
  match (withoutTrailingDot (splitAll '.' name)).getLast? with
  | some last => (!last.isEmpty && last.all fun c => '0' ≤ c && c ≤ '9') || (part4? last).isSome
  | none => false

def address4 (name : List Char) : Except Fault Host :=
  let numbers := (withoutTrailingDot (splitAll '.' name)).map part4?
  if 4 < numbers.length || numbers.any (·.isNone) then .error .address4
  else
    let numbers := numbers.filterMap id
    let leading := numbers.dropLast
    let last := numbers.getLastD 0
    if Nat.pow 256 (4 - leading.length) ≤ last || leading.any (255 < ·) then .error .address4
    else
      let high := leading.foldl (fun value n => value * 256 + n) 0
      .ok (.address4 (high * Nat.pow 256 (4 - leading.length) + last))

def byte4? (part : List Char) : Option Nat :=
  if part.isEmpty || !part.all (fun c => '0' ≤ c && c ≤ '9') || 1 < part.length && part.head? == some '0' then
    none
  else
    let value := numberIn 10 part
    if value < 256 then some value else none

def groups6? : List (List Char) → Option (List Nat)
  | [] => some []
  | [last] =>
    if last.contains '.' then
      match (splitAll '.' last).map byte4? with
      | [some a, some b, some c, some d] => some [a * 256 + b, c * 256 + d]
      | _ => none
    else group6? last |>.map ([·])
  | part :: parts => do
    let group ← group6? part
    let groups ← groups6? parts
    return group :: groups
where
  group6? (part : List Char) : Option Nat :=
    if part.isEmpty || 4 < part.length || !part.all (fun c => (Hex.digitValue? c).isSome) then none
    else some (numberIn 16 part)

def splitGap : List Char → Option (List Char × List Char)
  | ':' :: ':' :: rest => some ([], rest)
  | c :: rest => (splitGap rest).map fun (before, after) => (c :: before, after)
  | [] => none

def side6? (text : List Char) : Option (List Nat) :=
  if text.isEmpty then some [] else groups6? (splitAll ':' text)

/-- Eight groups, or fewer around a double colon that stands for zeros. An address of numbers may
    only come last. -/
def address6 (text : List Char) : Except Fault Host :=
  match splitGap text with
  | none =>
    match groups6? (splitAll ':' text) with
    | some groups => if groups.length = 8 then .ok (.address6 groups) else .error .address6
    | none => .error .address6
  | some (before, after) =>
    match side6? before, side6? after with
    | some left, some right =>
      if 7 < left.length + right.length || before.contains '.' then .error .address6
      else
        .ok (.address6 (left ++ List.replicate (8 - left.length - right.length) 0 ++ right))
    | _, _ => .error .address6

def isForbidden (c : Char) : Bool :=
  c.toNat ≤ 0x20 || c.toNat == 0x7F || "%#/:<>?@[\\]^|".toList.contains c

/-- A name in ASCII. The name is folded, which also turns full stops of other scripts into the plain
    one, and its labels are then read and written each by itself. -/
def asciiName? (bytes : Bytes) : Option (List Char) := do
  let name ← bytes.toText?
  let folded ← Text.fold? name.toList
  if folded.any isForbidden then none
  else
    let labels ← Label.writeAll? (splitAll '.' folded)
    return [ '.' ].intercalate labels

def readHost (text : List Char) : Except Fault Host :=
  match text with
  | '[' :: rest =>
    if rest.getLast? = some ']' then address6 rest.dropLast else .error .address6
  | _ =>
    match asciiName? (percentDecode (Bytes.ofText (String.ofList text))) with
    | none => .error .internationalName
    | some name =>
      if name.isEmpty then .error .emptyHost
      else if endsInNumber name then address4 name
      else .ok (.name (String.ofList name))

def write4 (value : Nat) : String :=
  ".".intercalate
    ([value / 0x1000000, value / 0x10000 % 256, value / 0x100 % 256, value % 256].map toString)

def longestZeros : (position : Nat) → List Nat → Nat × Nat
  | _, [] => (0, 0)
  | position, group :: rest =>
    let here := ((group :: rest).takeWhile (· == 0)).length
    let (start, length) := longestZeros (position + 1) rest
    if here ≠ 0 ∧ length ≤ here then (position, here) else (start, length)

def writeGroups (groups : List Nat) : String :=
  ":".intercalate (groups.map fun group => String.ofList (Nat.toDigits 16 group))

def write6 (groups : List Nat) : String :=
  let (start, length) := longestZeros 0 groups
  if length < 2 then writeGroups groups
  else writeGroups (groups.take start) ++ "::" ++ writeGroups (groups.drop (start + length))

def Host.text : Host → String
  | .name text => text
  | .address4 value => write4 value
  | .address6 groups => "[" ++ write6 groups ++ "]"

end Federation.Url
