import Federation.Decimal.Shortest

namespace Federation.Decimal

/-- The choices a format makes. A number whose first digit has an exponent outside the bounds is
    written with an exponent; no bounds means that it never is. -/
structure Layout where
  fixedFrom : Option Int
  fixedTo : Option Int
  keepsPoint : Bool
  signsExponent : Bool
deriving DecidableEq, Repr

def plain : Layout := ⟨none, none, false, false⟩

/-- Numbers of a JSON document, when a message quotes them: sixteen digits before the point and
    four zeros after it are written out. -/
def quoted : Layout := ⟨some (-5), some 15, true, true⟩

def zeros (count : Nat) : String := String.ofList (List.replicate count '0')

def positional (layout : Layout) (digits : String) (point : Int) : String :=
  let length : Int := digits.length
  if point ≤ 0 then "0." ++ zeros (-point).toNat ++ digits
  else if length ≤ point then
    digits ++ zeros (point - length).toNat ++ if layout.keepsPoint then ".0" else ""
  else
    let chars := digits.toList
    String.ofList (chars.take point.toNat) ++ "." ++ String.ofList (chars.drop point.toNat)

def scientific (layout : Layout) (digits : String) (exponent : Int) : String :=
  let mantissa := match digits.toList with
    | [] => ""
    | [first] => String.ofList [first]
    | first :: rest => String.ofList (first :: '.' :: rest)
  let sign := if exponent < 0 then "-" else if layout.signsExponent then "+" else ""
  mantissa ++ "e" ++ sign ++ toString exponent.natAbs

def Layout.write (layout : Layout) (decimal : Scaled) : String :=
  if decimal.digits = 0 then if layout.keepsPoint then "0.0" else "0"
  else
    let digits := String.ofList (Nat.toDigits 10 decimal.digits)
    let exponent := decimal.exponent + digits.length - 1
    if layout.fixedFrom.all (· ≤ exponent) && layout.fixedTo.all (exponent ≤ ·) then
      positional layout digits (exponent + 1)
    else scientific layout digits exponent

def Layout.writeFloat (layout : Layout) (x : Float) : String :=
  if x.isNaN then "NaN"
  else
    let bits := x.toBits
    let sign := if bits.toNat / 0x8000000000000000 = 1 then "-" else ""
    if x.isInf then sign ++ "inf"
    else sign ++ layout.write (Binary.ofBits bits).shortest

end Federation.Decimal
