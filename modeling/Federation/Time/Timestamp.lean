import Federation.Decimal.Numeral
import Federation.Text.Blank
import Federation.Time.Instant

namespace Federation.Timestamp

inductive Fault where
  | premature
  | invalid
  | outOfRange
  | trailing
  | impossible
deriving DecidableEq, Repr

def Fault.message : Fault → String
  | .premature => "premature end of input"
  | .invalid => "input contains invalid characters"
  | .outOfRange => "input is out of range"
  | .trailing => "trailing input"
  | .impossible => "no possible date and time matching input"

abbrev Reading := Except Fault

def digits (width : Option Nat) (text : List Char) : Reading (Nat × List Char) :=
  let all := text.takeWhile Decimal.isDigit
  let taken := match width with
    | some width => all.take width
    | none => all
  match taken with
  | [] => .error (if text.isEmpty then .premature else .invalid)
  | taken =>
    let value := Decimal.digitsValue taken
    if value < 0x8000000000000000 then .ok (value, text.drop taken.length) else .error .outOfRange

def field (low high : Nat) (text : List Char) : Reading (Nat × List Char) := do
  let (value, rest) ← digits (some 2) (Text.trimStart text)
  if low ≤ value ∧ value ≤ high then return (value, rest) else .error .outOfRange

def year (text : List Char) : Reading (Int × List Char) := do
  let inRange (value : Int) (rest : List Char) : Reading (Int × List Char) :=
    if -0x80000000 ≤ value ∧ value < 0x80000000 then .ok (value, rest) else .error .outOfRange
  match Text.trimStart text with
  | '-' :: rest =>
    let (value, rest) ← digits none rest
    inRange (-(value : Int)) rest
  | '+' :: rest =>
    let (value, rest) ← digits none rest
    inRange value rest
  | rest =>
    let (value, rest) ← digits (some 4) rest
    inRange value rest

def mark (c : Char) (text : List Char) : Reading (List Char) :=
  match Text.trimStart text with
  | [] => .error .premature
  | first :: rest => if first = c then .ok rest else .error .invalid

def date (text : List Char) : Reading (Date × List Char) := do
  let (year, rest) ← year text
  let (month, rest) ← field 1 12 (← mark '-' rest)
  let (day, rest) ← field 1 31 (← mark '-' rest)
  return (⟨year, month, day⟩, rest)

def separator : List Char → Reading (List Char)
  | [] => .error .premature
  | c :: rest => if c = 'T' ∨ c = 't' ∨ c = ' ' then .ok rest else .error .invalid

def fraction : List Char → Reading (Nat × List Char)
  | '.' :: rest => do
    let (value, after) ← digits (some 9) rest
    let taken := rest.length - after.length
    return (value * Nat.pow 10 (9 - taken), after.dropWhile Decimal.isDigit)
  | rest => .ok (0, rest)

structure Clock where
  second : Nat
  nanosecond : Nat
deriving DecidableEq, Repr

def clock (text : List Char) : Reading (Clock × List Char) := do
  let (hour, rest) ← field 0 23 text
  let (minute, rest) ← field 0 59 (← mark ':' rest)
  let (second, rest) ← field 0 60 (← mark ':' rest)
  let (nanosecond, rest) ← fraction rest
  let whole := hour * 3600 + minute * 60
  if second = 60 then return (⟨whole + 59, 1_000_000_000 + nanosecond⟩, rest)
  else return (⟨whole + second, nanosecond⟩, rest)

/-- Two digits that stand together. A lone character is only too short if it takes one byte. -/
def pair : List Char → Reading (Nat × Nat × List Char)
  | [] => .error .premature
  | [c] => .error (if c.toNat < 0x80 then .premature else .invalid)
  | a :: b :: rest =>
    if Decimal.isDigit a && Decimal.isDigit b then .ok (a.toNat - 0x30, b.toNat - 0x30, rest)
    else .error .invalid

def signedOffset (negative : Bool) (text : List Char) : Reading (Int × List Char) := do
  let (h, h', rest) ← pair text
  let rest := rest.dropWhile fun c => c == ':' || Text.isBlank c
  let (m, m', rest) ← pair rest
  if 6 ≤ m then .error .outOfRange
  else
    let seconds : Int := (h * 10 + h') * 3600 + (m * 10 + m') * 60
    return (if negative then -seconds else seconds, rest)

def offset (text : List Char) : Reading (Int × List Char) :=
  let text := Text.trimStart text
  if (text.take 3).map Char.toLower = ['u', 't', 'c'] then .ok (0, text.drop 3)
  else
    match text with
    | [] => .error .premature
    | c :: rest =>
      if c = 'Z' ∨ c = 'z' then .ok (0, rest)
      else if c = '+' then signedOffset false rest
      else if c = '-' ∨ c = '\u2212' then signedOffset true rest
      else .error .invalid

/-- The instant of a date and a time of day at an offset. The date must lie in the range of instants
    before and after the offset is taken away. -/
def instant (date : Date) (clock : Clock) (offset : Int) : Reading Instant :=
  let start := date.toDays * 86400
  if !date.isValid || start < firstSecond || lastSecond < start then .error .outOfRange
  else if 86400 ≤ offset.natAbs then .error .outOfRange
  else
    match Instant.ofParts? (start + clock.second - offset) clock.nanosecond with
    | some t => .ok t
    | none => .error .impossible

def readChars (text : List Char) : Reading Instant := do
  let (date, rest) ← date text
  let (clock, rest) ← clock (← separator rest)
  let (offset, rest) ← offset rest
  if (Text.trimStart rest).isEmpty then instant date clock offset else .error .trailing

def read (text : String) : Reading Instant := readChars text.toList

end Federation.Timestamp
