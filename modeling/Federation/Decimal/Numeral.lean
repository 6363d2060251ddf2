import Federation.Text.Blank

namespace Federation.Decimal

def isDigit (c : Char) : Bool := '0' ≤ c && c ≤ '9'

def digitsValue (digits : List Char) : Nat :=
  digits.foldl (fun value c => value * 10 + (c.toNat - 0x30)) 0

/-- `value · 10 ^ exponent`, rounded to the nearest double. Beyond the range of doubles the exponent
    is not followed further. -/
def nearest (value : Nat) (exponent : Int) : Float :=
  if value = 0 then 0
  else
    let length : Int := (Nat.toDigits 10 value).length
    if 400 < exponent + length then 1.0 / 0.0
    else if exponent + length < -400 then 0
    else Float.ofScientific value (exponent < 0) exponent.natAbs

def exponent? (text : List Char) : Option Int :=
  let (negative, digits) := match text with
    | '-' :: rest => (true, rest)
    | '+' :: rest => (false, rest)
    | _ => (false, text)
  if digits.isEmpty || !digits.all isDigit then none
  else some (if negative then -(digitsValue digits : Int) else digitsValue digits)

def magnitude? (text : List Char) : Option Float :=
  let word := String.ofList (text.map Char.toLower)
  if word = "inf" ∨ word = "infinity" then some (1.0 / 0.0)
  else if word = "nan" then some (0.0 / 0.0)
  else
    let whole := text.takeWhile isDigit
    let rest := text.dropWhile isDigit
    let (fraction, rest) := match rest with
      | '.' :: tail => (tail.takeWhile isDigit, tail.dropWhile isDigit)
      | _ => ([], rest)
    if whole.isEmpty && fraction.isEmpty then none
    else
      let value := digitsValue (whole ++ fraction)
      match rest with
      | [] => some (nearest value (-(fraction.length : Int)))
      | c :: tail =>
        if c = 'e' ∨ c = 'E' then
          (exponent? tail).map fun exponent => nearest value (exponent - fraction.length)
        else none

def float? (text : String) : Option Float :=
  match text.toList with
  | '-' :: rest => (magnitude? rest).map (-·)
  | '+' :: rest => magnitude? rest
  | rest => magnitude? rest

end Federation.Decimal
