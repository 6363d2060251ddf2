namespace Federation.Decimal

/-- A finite binary number `significand · 2 ^ exponent`. The flag says that the gap to the number
    below is half of the gap to the number above. -/
structure Binary where
  significand : Nat
  exponent : Int
  narrowBelow : Bool
deriving DecidableEq, Repr

structure Scaled where
  digits : Nat
  exponent : Int
deriving DecidableEq, Repr

def Binary.ofBits (bits : UInt64) : Binary :=
  let fraction : Nat := bits.toNat % 0x10000000000000
  let field : Nat := bits.toNat / 0x10000000000000 % 0x800
  if field = 0 then ⟨fraction, -1074, false⟩
  else ⟨fraction + 0x10000000000000, Int.ofNat field - 1075, fraction == 0 && 1 < field⟩

def powerParts (base : Nat) (exponent : Int) : Nat × Nat :=
  if 0 ≤ exponent then (base.pow exponent.toNat, 1) else (1, base.pow (-exponent).toNat)

def decimalLength (value : Nat) : Nat := (Nat.toDigits 10 value).length

def leadingExponent (numerator denominator : Nat) : Int :=
  if denominator ≤ numerator then (decimalLength (numerator / denominator) : Int) - 1
  else -(decimalLength ((denominator + numerator - 1) / numerator - 1) : Int)

/-- A decimal lies where numbers round to the given one: between the midpoints to its neighbours,
    the midpoints themselves included when the significand is even. -/
def Binary.readsBack (number : Binary) (decimal : Scaled) : Bool :=
  let (twoUp, twoDown) := powerParts 2 (number.exponent - 2)
  let (tenUp, tenDown) := powerParts 10 decimal.exponent
  let value := decimal.digits * tenUp * twoDown
  let unit := twoUp * tenDown
  let low := (4 * number.significand - if number.narrowBelow then 1 else 2) * unit
  let high := (4 * number.significand + 2) * unit
  if number.significand % 2 = 0 then low ≤ value && value ≤ high else low < value && value < high

def Binary.distance (number : Binary) (decimal : Scaled) : Nat :=
  let (twoUp, twoDown) := powerParts 2 number.exponent
  let (tenUp, tenDown) := powerParts 10 decimal.exponent
  let left := number.significand * twoUp * tenDown
  let right := decimal.digits * tenUp * twoDown
  if left ≤ right then right - left else left - right

def Binary.neighbours (number : Binary) (exponent : Int) : Scaled × Scaled :=
  let (twoUp, twoDown) := powerParts 2 number.exponent
  let (tenUp, tenDown) := powerParts 10 exponent
  let below := number.significand * twoUp * tenDown / (tenUp * twoDown)
  (⟨below, exponent⟩, ⟨below + 1, exponent⟩)

/-- The better of the two neighbours, if one reads back; of two at one distance, the even one. -/
def Binary.onGrid? (number : Binary) (exponent : Int) : Option Scaled :=
  let (below, above) := number.neighbours exponent
  match number.readsBack below, number.readsBack above with
  | false, false => none
  | true, false => some below
  | false, true => some above
  | true, true =>
    let low := number.distance below
    let high := number.distance above
    if low < high then some below
    else if high < low then some above
    else if below.digits % 2 = 0 then some below
    else some above

def Scaled.trimmedDigits : (fuel digits : Nat) → Int → Scaled
  | 0, digits, exponent => ⟨digits, exponent⟩
  | fuel + 1, digits, exponent =>
    if digits ≠ 0 ∧ digits % 10 = 0 then trimmedDigits fuel (digits / 10) (exponent + 1)
    else ⟨digits, exponent⟩

def Scaled.trimmed (decimal : Scaled) : Scaled :=
  trimmedDigits (decimalLength decimal.digits) decimal.digits decimal.exponent

def Binary.shortest (number : Binary) : Scaled :=
  if number.significand = 0 then ⟨0, 0⟩
  else
    let (up, down) := powerParts 2 number.exponent
    let lead := leadingExponent (number.significand * up) down
    let found := (List.range 17).findSome? fun more => number.onGrid? (lead - Int.ofNat more)
    (found.getD (number.neighbours (lead - 16)).1).trimmed

end Federation.Decimal
