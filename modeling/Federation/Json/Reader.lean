import Federation.Bytes.Hex
import Federation.Decimal.Numeral
import Federation.Json.Value

/-!
Reading JSON text strictly: one value between blanks, at most 127 nested arrays and objects, no
control characters in strings, no lone surrogates, and no number beyond the range of doubles. Of
members with one name the last counts.

Every reader takes the rest of the text and returns what it leaves. The reader of values has fuel;
the length of the text is enough, as each level and each element takes a character.
-/

namespace Federation.Json

inductive SyntaxFault where
  | notText
  | unexpectedEnd
  | unexpected (c : Char)
  | controlCharacter
  | loneSurrogate
  | numberOutOfRange
  | tooDeep
  | trailing (c : Char)
deriving DecidableEq, Repr

def SyntaxFault.message : SyntaxFault → String
  | .notText => "invalid unicode code point"
  | .unexpectedEnd => "unexpected end of input"
  | .unexpected c => s!"unexpected character {c}"
  | .controlCharacter => "control character in a string"
  | .loneSurrogate => "lone surrogate in a string"
  | .numberOutOfRange => "number out of range"
  | .tooDeep => "recursion limit exceeded"
  | .trailing c => s!"trailing character {c}"

abbrev Reading := Except SyntaxFault

def isSpace (c : Char) : Bool := c == ' ' || c == '\t' || c == '\n' || c == '\r'

def skipSpaces (text : List Char) : List Char := text.dropWhile isSpace

def expect (word : List Char) (text : List Char) : Reading (List Char) :=
  match word, text with
  | [], rest => .ok rest
  | _ :: _, [] => .error .unexpectedEnd
  | w :: word, c :: rest => if w = c then expect word rest else .error (.unexpected c)

def codeUnit? (a b c d : Char) : Option Nat := do
  return (((← Hex.digitValue? a) * 16 + (← Hex.digitValue? b)) * 16 + (← Hex.digitValue? c)) * 16 +
    (← Hex.digitValue? d)

def isHighSurrogate (unit : Nat) : Bool := 0xD800 ≤ unit && unit ≤ 0xDBFF

def isLowSurrogate (unit : Nat) : Bool := 0xDC00 ≤ unit && unit ≤ 0xDFFF

def escape? : Char → Option Char
  | '\x22' => some '\x22'
  | '\\' => some '\\'
  | '/' => some '/'
  | 'b' => some '\x08'
  | 'f' => some '\x0C'
  | 'n' => some '\n'
  | 'r' => some '\r'
  | 't' => some '\t'
  | _ => none

/-- The rest of a string after its opening quote; characters so far are kept in reverse. A high
    surrogate waits for the low one, which must be next. -/
def stringTail : (high : Option Nat) → (seen : List Char) → List Char →
    Reading (String × List Char)
  | _, _, [] => .error .unexpectedEnd
  | high, seen, c :: rest =>
    if c = '\\' then
      match rest with
      | [] => .error .unexpectedEnd
      | letter :: rest =>
        if letter = 'u' then
          match rest with
          | a :: b :: c :: d :: rest =>
            match codeUnit? a b c d, high with
            | none, _ => .error (.unexpected a)
            | some unit, some high =>
              if isLowSurrogate unit then
                let point := 0x10000 + (high - 0xD800) * 1024 + (unit - 0xDC00)
                stringTail none (Char.ofNat point :: seen) rest
              else .error .loneSurrogate
            | some unit, none =>
              if isLowSurrogate unit then .error .loneSurrogate
              else if isHighSurrogate unit then stringTail (some unit) seen rest
              else stringTail none (Char.ofNat unit :: seen) rest
          | _ => .error .unexpectedEnd
        else
          match high, escape? letter with
          | some _, _ => .error .loneSurrogate
          | none, some plain => stringTail none (plain :: seen) rest
          | none, none => .error (.unexpected letter)
    else if high.isSome then .error .loneSurrogate
    else if c = '\x22' then .ok (String.ofList seen.reverse, rest)
    else if c.toNat < 0x20 then .error .controlCharacter
    else stringTail none (c :: seen) rest

/-- Scales by a power of ten in doubles: one multiplication or division by the power, after
    divisions by `10 ^ 308` while the exponent is below that. -/
def scaleFloat : (steps : Nat) → Float → Int → Reading Float
  | 0, x, _ => .ok x
  | steps + 1, x, exponent =>
    if exponent.natAbs ≤ 308 then
      let power := Float.ofScientific 1 false exponent.natAbs
      if 0 ≤ exponent then
        if (x * power).isInf then .error .numberOutOfRange else .ok (x * power)
      else .ok (x / power)
    else if x == 0 then .ok x
    else if 0 ≤ exponent then .error .numberOutOfRange
    else scaleFloat steps (x / Float.ofScientific 1 false 308) (exponent + 308)

/-- The double of a decimal whose digits were kept up to 64 bits. A dozen divisions take any
    number to zero. -/
def floatOf (isNegative : Bool) (significand : Nat) (exponent : Int) : Reading Number := do
  let x ← scaleFloat 12 (UInt64.ofNat significand).toFloat exponent
  return .real (if isNegative then -x else x)

def takeDigits (significand : Nat) : List Char → Nat × List Char
  | [] => (significand, [])
  | c :: rest =>
    let next := significand * 10 + (c.toNat - 0x30)
    if next < 0x10000000000000000 then takeDigits next rest else (significand, c :: rest)

def exponentPart (isNegative : Bool) (significand : Nat) (base : Int) (text : List Char) :
    Reading (Number × List Char) := do
  let (down, text) := match text with
    | '-' :: rest => (true, rest)
    | '+' :: rest => (false, rest)
    | _ => (false, text)
  let digits := text.takeWhile Decimal.isDigit
  let rest := text.dropWhile Decimal.isDigit
  if digits.isEmpty then
    match rest with
    | [] => .error .unexpectedEnd
    | c :: _ => .error (.unexpected c)
  else
    let magnitude := Decimal.digitsValue digits
    if magnitude < 0x80000000 then
      let exponent := if down then base - magnitude else base + magnitude
      let number ← floatOf isNegative significand exponent
      return (number, rest)
    else if significand ≠ 0 ∧ down = false then .error .numberOutOfRange
    else .ok (.real (if isNegative then -0.0 else 0.0), rest)

/-- What follows the digits before the point; `dropped` of them did not fit the significand. -/
def fractionPart (isNegative : Bool) (significand dropped : Nat) (text : List Char) : Reading (Number × List Char) :=
  match text with
  | '.' :: rest => do
    let digits := rest.takeWhile Decimal.isDigit
    let rest := rest.dropWhile Decimal.isDigit
    if digits.isEmpty then
      match rest with
      | [] => .error .unexpectedEnd
      | c :: _ => .error (.unexpected c)
    else
      let (significand, left) := takeDigits significand digits
      let base : Int := (dropped : Int) - ((digits.length - left.length : Nat) : Int)
      match rest with
      | 'e' :: rest => exponentPart isNegative significand base rest
      | 'E' :: rest => exponentPart isNegative significand base rest
      | _ =>
        let number ← floatOf isNegative significand base
        return (number, rest)
  | 'e' :: rest => exponentPart isNegative significand dropped rest
  | 'E' :: rest => exponentPart isNegative significand dropped rest
  | _ =>
    if dropped ≠ 0 then do
      let number ← floatOf isNegative significand dropped
      return (number, text)
    else if isNegative then
      if 0 < significand ∧ significand ≤ 0x8000000000000000 then .ok (.negative significand, text)
      else .ok (.real (-(UInt64.ofNat significand).toFloat), text)
    else .ok (.natural significand, text)

def number (isNegative : Bool) (text : List Char) : Reading (Number × List Char) :=
  let digits := text.takeWhile Decimal.isDigit
  let rest := text.dropWhile Decimal.isDigit
  match digits with
  | [] =>
    match rest with
    | [] => .error .unexpectedEnd
    | c :: _ => .error (.unexpected c)
  | '0' :: next :: _ => .error (.unexpected next)
  | _ =>
    let (significand, left) := takeDigits 0 digits
    fractionPart isNegative significand left.length rest

mutual

/-- A value; `depth` more arrays and objects may be opened. -/
def value : (fuel depth : Nat) → List Char → Reading (Value × List Char)
  | 0, _, _ => .error .unexpectedEnd
  | fuel + 1, depth, text =>
    match skipSpaces text with
    | [] => .error .unexpectedEnd
    | 'n' :: rest => do return (.null, ← expect ['u', 'l', 'l'] rest)
    | 't' :: rest => do return (.boolean true, ← expect ['r', 'u', 'e'] rest)
    | 'f' :: rest => do return (.boolean false, ← expect ['a', 'l', 's', 'e'] rest)
    | '-' :: rest => do
      let (n, rest) ← number true rest
      return (.number n, rest)
    | '\x22' :: rest => do
      let (s, rest) ← stringTail none [] rest
      return (.string s, rest)
    | '[' :: rest =>
      if depth = 0 then .error .tooDeep
      else
        match skipSpaces rest with
        | ']' :: rest => .ok (.array [], rest)
        | rest => do
          let (elements, rest) ← elements fuel (depth - 1) rest
          return (.array elements, rest)
    | '\x7b' :: rest =>
      if depth = 0 then .error .tooDeep
      else
        match skipSpaces rest with
        | '\x7d' :: rest => .ok (.object [], rest)
        | rest => do
          let (members, rest) ← members fuel (depth - 1) rest
          return (.ofMembers members, rest)
    | c :: rest =>
      if Decimal.isDigit c then do
        let (n, rest) ← number false (c :: rest)
        return (.number n, rest)
      else .error (.unexpected c)

def elements : (fuel depth : Nat) → List Char → Reading (List Value × List Char)
  | 0, _, _ => .error .unexpectedEnd
  | fuel + 1, depth, text => do
    let (first, rest) ← value fuel depth text
    match skipSpaces rest with
    | [] => .error .unexpectedEnd
    | ']' :: rest => return ([first], rest)
    | ',' :: rest =>
      let (others, rest) ← elements fuel depth rest
      return (first :: others, rest)
    | c :: _ => .error (.unexpected c)

def members : (fuel depth : Nat) → List Char → Reading (List (String × Value) × List Char)
  | 0, _, _ => .error .unexpectedEnd
  | fuel + 1, depth, text =>
    match skipSpaces text with
    | [] => .error .unexpectedEnd
    | '\x22' :: rest => do
      let (name, rest) ← stringTail none [] rest
      match skipSpaces rest with
      | [] => .error .unexpectedEnd
      | ':' :: rest =>
        let (first, rest) ← value fuel depth rest
        match skipSpaces rest with
        | [] => .error .unexpectedEnd
        | '\x7d' :: rest => return ([(name, first)], rest)
        | ',' :: rest =>
          let (others, rest) ← members fuel depth rest
          return ((name, first) :: others, rest)
        | c :: _ => .error (.unexpected c)
      | c :: _ => .error (.unexpected c)
    | c :: _ => .error (.unexpected c)

end

def maxDepth : Nat := 127

def readText (text : List Char) : Reading Value := do
  let (read, rest) ← value (text.length + 1) maxDepth text
  match skipSpaces rest with
  | [] => return read
  | c :: _ => .error (.trailing c)

def read (bytes : Bytes) : Reading Value :=
  match bytes.toText? with
  | some text => readText text.toList
  | none => .error .notText

end Federation.Json
