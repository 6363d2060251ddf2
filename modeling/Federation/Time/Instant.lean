import Federation.Time.Calendar
import Federation.Time.Duration

/-!
Points in time, in UTC, from the year -262143 to the year 262142. A leap second is the second before
it with a billion nanoseconds or more, so it comes after that second and before the next one.
-/

namespace Federation

def firstSecond : Int := -8334601228800

def lastSecond : Int := 8210266876799

structure Instant where
  seconds : Int
  nanoseconds : Nat
  first_le : firstSecond ≤ seconds
  le_last : seconds ≤ lastSecond
  nanoseconds_lt : nanoseconds < 2_000_000_000
deriving DecidableEq, Repr

namespace Instant

theorem ext {left right : Instant} (seconds : left.seconds = right.seconds)
    (nanoseconds : left.nanoseconds = right.nanoseconds) : left = right := by
  cases left; cases right; simp_all

def ofParts? (seconds : Int) (nanoseconds : Nat) : Option Instant :=
  if h : firstSecond ≤ seconds ∧ seconds ≤ lastSecond ∧ nanoseconds < 2_000_000_000 then
    some ⟨seconds, nanoseconds, h.1, h.2.1, h.2.2⟩
  else none

def epoch : Instant := ⟨0, 0, by decide, by decide, by decide⟩

instance : Inhabited Instant := ⟨epoch⟩

def rank (t : Instant) : Int := t.seconds * 2_000_000_000 + t.nanoseconds

theorem eq_of_rank_eq {left right : Instant} (same : left.rank = right.rank) : left = right := by
  have l := left.nanoseconds_lt
  have r := right.nanoseconds_lt
  simp only [rank] at same
  exact ext (by omega) (by omega)

instance : LE Instant := ⟨fun left right => left.rank ≤ right.rank⟩

instance : LT Instant := ⟨fun left right => left.rank < right.rank⟩

instance (left right : Instant) : Decidable (left ≤ right) :=
  inferInstanceAs (Decidable (left.rank ≤ right.rank))

instance (left right : Instant) : Decidable (left < right) :=
  inferInstanceAs (Decidable (left.rank < right.rank))

theorem le_def {left right : Instant} : left ≤ right ↔ left.rank ≤ right.rank := .rfl

theorem lt_def {left right : Instant} : left < right ↔ left.rank < right.rank := .rfl

theorem not_lt {left right : Instant} : ¬ left < right ↔ right ≤ left := Int.not_lt

theorem le_total (left right : Instant) : left ≤ right ∨ right ≤ left := Int.le_total left.rank right.rank

instance : Min Instant := ⟨fun left right => if left ≤ right then left else right⟩

instance : Max Instant := ⟨fun left right => if left ≤ right then right else left⟩

theorem max_of_le {left right : Instant} (ordered : left ≤ right) :
    max left right = right ∧ max right left = right := by
  refine ⟨if_pos ordered, ?_⟩
  change (if right ≤ left then left else right) = right
  split
  · rename_i back
    exact eq_of_rank_eq (Int.le_antisymm ordered back)
  · rfl

def sinceEpoch (t : Instant) : Int := t.seconds * 1_000_000_000 + t.nanoseconds

def secondOfDay (t : Instant) : Int := t.seconds % 86400

def longestStep : Nat := 0x7FFFFFFFFFFFFFFF * 1_000_000

/-- The instant a duration later. A step that stays inside a leap second ends there; one that
    leaves it does not count the leap second. None for a step too long or an end out of range. -/
def after? (t : Instant) (step : Duration) : Option Instant :=
  if longestStep < step.nanoseconds then none
  else
    let insideLeap := 1_000_000_000 ≤ t.nanoseconds
    if insideLeap ∧ t.nanoseconds + step.nanoseconds < 2_000_000_000 then
      ofParts? t.seconds (t.nanoseconds + step.nanoseconds)
    else
      let start := if insideLeap then t.nanoseconds - 1_000_000_000 else t.nanoseconds
      let total := start + step.nanoseconds
      ofParts? (t.seconds + total / 1_000_000_000) (total % 1_000_000_000)

/-- Nanoseconds from one instant to another, negative if the other is earlier. The leap second of
    an instant counts when the other is later in the day. -/
def nanosecondsSince (t start : Instant) : Int :=
  let seconds :=
    if start.secondOfDay < t.secondOfDay ∧ 1_000_000_000 ≤ start.nanoseconds then
      t.seconds - start.seconds + 1
    else if t.secondOfDay < start.secondOfDay ∧ 1_000_000_000 ≤ t.nanoseconds then
      t.seconds - start.seconds - 1
    else t.seconds - start.seconds
  seconds * 1_000_000_000 + (t.nanoseconds - start.nanoseconds)

def since? (t start : Instant) : Option Duration :=
  let n := t.nanosecondsSince start
  if n < 0 then none else Duration.ofNanoseconds? n.toNat

def earliest : Option Instant → Option Instant → Option Instant
  | some left, some right => some (min left right)
  | some left, none => some left
  | none, right => right

def twoDigits (value : Nat) : String :=
  String.ofList ((Nat.toDigits 10 (100 + value)).drop 1)

def yearText (year : Int) : String :=
  let digits := Nat.toDigits 10 year.natAbs
  let padded := String.ofList (List.replicate (4 - digits.length) '0' ++ digits)
  if year < 0 then "-" ++ padded else if 9999 < year then "+" ++ padded else padded

def fractionText (nanoseconds : Nat) : String :=
  let digits (count value : Nat) := "." ++ String.ofList ((Nat.toDigits 10 (Nat.pow 10 count + value)).drop 1)
  if nanoseconds = 0 then ""
  else if nanoseconds % 1_000_000 = 0 then digits 3 (nanoseconds / 1_000_000)
  else if nanoseconds % 1_000 = 0 then digits 6 (nanoseconds / 1_000)
  else digits 9 nanoseconds

def dateText (t : Instant) : String :=
  let date := Date.ofDays (t.seconds / 86400)
  yearText date.year ++ "-" ++ twoDigits date.month ++ "-" ++ twoDigits date.day

def clockText (t : Instant) : String :=
  let second := t.secondOfDay.toNat
  let leap := 1_000_000_000 ≤ t.nanoseconds
  twoDigits (second / 3600) ++ ":" ++ twoDigits (second / 60 % 60) ++ ":" ++
    twoDigits (second % 60 + if leap then 1 else 0) ++
    fractionText (if leap then t.nanoseconds - 1_000_000_000 else t.nanoseconds)

def text (t : Instant) : String := t.dateText ++ "T" ++ t.clockText ++ "Z"

def display (t : Instant) : String := t.dateText ++ " " ++ t.clockText ++ " UTC"

end Instant

end Federation
