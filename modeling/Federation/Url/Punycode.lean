namespace Federation.Punycode

def digit (value : Nat) : Char :=
  if value < 26 then Char.ofNat (0x61 + value) else Char.ofNat (0x30 + (value - 26))

def digitValue? (c : Char) : Option Nat :=
  let n := c.toNat
  if 0x61 ≤ n ∧ n ≤ 0x7A then some (n - 0x61)
  else if 0x41 ≤ n ∧ n ≤ 0x5A then some (n - 0x41)
  else if 0x30 ≤ n ∧ n ≤ 0x39 then some (n - 0x30 + 26)
  else none

def threshold (place bias : Nat) : Nat :=
  if place ≤ bias + 1 then 1 else if bias + 26 ≤ place then 26 else place - bias

def shrink : (fuel number steps : Nat) → Nat × Nat
  | 0, number, steps => (number, steps)
  | fuel + 1, number, steps =>
    if 455 < number then shrink fuel (number / 35) (steps + 36) else (number, steps)

def adapt (number points : Nat) (first : Bool) : Nat :=
  let damped := if first then number / 700 else number / 2
  let (rest, steps) := shrink 32 (damped + damped / points) 0
  steps + 36 * rest / (rest + 38)

def writeNumber (bias : Nat) : (fuel place number : Nat) → List Char
  | 0, _, _ => []
  | fuel + 1, place, number =>
    let t := threshold place bias
    if number < t then [digit number]
    else
      digit (t + (number - t) % (36 - t)) ::
        writeNumber bias fuel (place + 36) ((number - t) / (36 - t))

structure Encoding where
  written : List Char
  gap : Nat
  bias : Nat
  handled : Nat

def writePoint (basic point : Nat) (state : Encoding) (c : Char) : Encoding :=
  if c.toNat < point then { state with gap := state.gap + 1 }
  else if c.toNat = point then
    { written := state.written ++ writeNumber state.bias 64 36 state.gap
      gap := 0
      bias := adapt state.gap (state.handled + 1) (state.handled == basic)
      handled := state.handled + 1 }
  else state

def writePoints (text : List Char) (basic : Nat) : List Nat → Nat → Encoding → Encoding
  | [], _, state => state
  | point :: points, least, state =>
    let state := { state with gap := state.gap + (point - least) * (state.handled + 1) }
    let state := text.foldl (writePoint basic point) state
    writePoints text basic points (point + 1) { state with gap := state.gap + 1 }

def placePoint (point : Nat) : List Nat → List Nat
  | [] => [point]
  | first :: rest =>
    if point < first then point :: first :: rest
    else if point = first then first :: rest
    else first :: placePoint point rest

def isBasic (c : Char) : Bool := c.toNat < 0x80

def encode (text : List Char) : List Char :=
  let basic := text.filter isBasic
  let points := (text.filter (!isBasic ·)).foldl (fun points c => placePoint c.toNat points) []
  let start := if basic.isEmpty then [] else basic ++ ['-']
  (writePoints text basic.length points 0x80 ⟨start, 0, 72, basic.length⟩).written

def limit : Nat := 0x100000000

/-- Adds a number to a sum; with the text after it. The sum and the weights of digits stay below the
    limit. -/
def readNumber (bias : Nat) : (place weight sum : Nat) → List Char → Option (Nat × List Char)
  | _, _, _, [] => none
  | place, weight, sum, c :: rest => do
    let value ← digitValue? c
    let t := threshold place bias
    let sum := sum + value * weight
    if limit ≤ sum then none
    else if value < t then return (sum, rest)
    else if limit ≤ weight * (36 - t) then none
    else readNumber bias (place + 36) (weight * (36 - t)) sum rest

def readPoints : (fuel : Nat) → (first : Bool) → (placed : List Char) →
    (point position bias : Nat) → List Char → Option (List Char)
  | _, _, placed, _, _, _, [] => some placed
  | 0, _, _, _, _, _, _ :: _ => none
  | fuel + 1, first, placed, point, position, bias, text => do
    let (total, rest) ← readNumber bias 36 1 position text
    let size := placed.length + 1
    let point := point + total / size
    let place := total % size
    if 0x110000 ≤ point ∨ 0xD800 ≤ point ∧ point ≤ 0xDFFF then none
    else
      let placed := placed.take place ++ Char.ofNat point :: placed.drop place
      readPoints fuel false placed point (place + 1) (adapt (total - position) size first) rest

/-- The text that some text encodes. What comes before the last hyphen stands for itself, if there is
    any. -/
def decode? (text : List Char) : Option (List Char) :=
  let reversed := text.reverse
  let basic := ((reversed.dropWhile (· != '-')).drop 1).reverse
  let extended := if basic.isEmpty then text else (reversed.takeWhile (· != '-')).reverse
  if !basic.all isBasic then none else readPoints (extended.length + 1) true basic 0x80 0 72 extended

end Federation.Punycode
