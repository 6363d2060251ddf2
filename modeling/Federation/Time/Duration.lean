import Federation.Decimal.Shortest

namespace Federation

structure Duration where
  nanoseconds : Nat
  bounded : nanoseconds < 0x10000000000000000 * 1_000_000_000
deriving DecidableEq, Repr

namespace Duration

theorem ext {left right : Duration} (same : left.nanoseconds = right.nanoseconds) : left = right := by
  cases left; cases right; simp_all

def zero : Duration := ⟨0, by decide⟩

instance : Inhabited Duration := ⟨zero⟩

instance : LE Duration := ⟨fun left right => left.nanoseconds ≤ right.nanoseconds⟩

instance : LT Duration := ⟨fun left right => left.nanoseconds < right.nanoseconds⟩

instance (left right : Duration) : Decidable (left ≤ right) :=
  inferInstanceAs (Decidable (left.nanoseconds ≤ right.nanoseconds))

instance (left right : Duration) : Decidable (left < right) :=
  inferInstanceAs (Decidable (left.nanoseconds < right.nanoseconds))

theorem le_def {left right : Duration} : left ≤ right ↔ left.nanoseconds ≤ right.nanoseconds := .rfl

theorem lt_def {left right : Duration} : left < right ↔ left.nanoseconds < right.nanoseconds := .rfl

def ofNanoseconds? (nanoseconds : Nat) : Option Duration :=
  if h : nanoseconds < 0x10000000000000000 * 1_000_000_000 then some ⟨nanoseconds, h⟩ else none

def ofSeconds (seconds : UInt64) : Duration :=
  ⟨seconds.toNat * 1_000_000_000, Nat.mul_lt_mul_of_pos_right seconds.toNat_lt (by decide)⟩

def ofParts? (seconds nanoseconds : Nat) : Option Duration :=
  ofNanoseconds? (seconds * 1_000_000_000 + nanoseconds)

def isZero (d : Duration) : Bool := d.nanoseconds == 0

def seconds (d : Duration) : Nat := d.nanoseconds / 1_000_000_000

def subsecond (d : Duration) : Nat := d.nanoseconds % 1_000_000_000

def sub (left right : Duration) : Duration :=
  ⟨left.nanoseconds - right.nanoseconds, Nat.lt_of_le_of_lt (Nat.sub_le _ _) left.bounded⟩

instance : Sub Duration := ⟨sub⟩

@[simp] theorem zero_nanoseconds : zero.nanoseconds = 0 := rfl

@[simp] theorem sub_nanoseconds (left right : Duration) :
    (left - right).nanoseconds = left.nanoseconds - right.nanoseconds := rfl

def clamp (d low high : Duration) : Duration :=
  if d < low then low else if high < d then high else d

theorem le_clamp {low high : Duration} (ordered : low ≤ high) (d : Duration) : low ≤ d.clamp low high := by
  unfold clamp
  simp only [le_def, lt_def] at ordered ⊢
  split
  · exact Nat.le_refl _
  · split <;> omega

/-- The quotient rounded to the nearest whole number, a half to the even one. -/
def roundedQuotient (numerator denominator : Nat) : Nat :=
  let quotient := numerator / denominator
  let twice := 2 * (numerator % denominator)
  if denominator < twice ∨ denominator = twice ∧ quotient % 2 = 1 then quotient + 1 else quotient

def ofSecondsFloat? (seconds : Float) : Option Duration :=
  if seconds.isNaN || seconds.isInf || seconds < 0 then none
  else
    let number := Decimal.Binary.ofBits seconds.toBits
    let (up, down) := Decimal.powerParts 2 number.exponent
    ofNanoseconds? (roundedQuotient (number.significand * up * 1_000_000_000) down)

def toSecondsFloat (d : Duration) : Float :=
  (UInt64.ofNat d.seconds).toFloat + (UInt64.ofNat d.subsecond).toFloat / 1e9

def scale (d : Duration) (factor : Float) : Duration :=
  (ofSecondsFloat? (factor * d.toSecondsFloat)).getD zero

def written (whole fraction digits : Nat) (unit : String) : String :=
  let shown := (Nat.toDigits 10 (Nat.pow 10 digits + fraction)).drop 1
  let kept := (shown.reverse.dropWhile (· == '0')).reverse
  toString whole ++ (if kept.isEmpty then "" else "." ++ String.ofList kept) ++ unit

def display (d : Duration) : String :=
  let n := d.nanoseconds
  if 1_000_000_000 ≤ n then written (n / 1_000_000_000) (n % 1_000_000_000) 9 "s"
  else if 1_000_000 ≤ n then written (n / 1_000_000) (n % 1_000_000) 6 "ms"
  else if 1_000 ≤ n then written (n / 1_000) (n % 1_000) 3 "µs"
  else written n 0 0 "ns"

end Duration

end Federation
