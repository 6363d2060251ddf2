import Federation.Proofs.Time.Bounds
import Federation.Proofs.Time.Elapsed

namespace Federation.Instant

/-- The later instant is inside the leap second at the end of the earlier one's second, less than a
    second after it, and the step takes the earlier one past this second. -/
def LeapsPast (earlier later : Instant) (step : Duration) : Prop :=
  earlier.IsPlain ∧ ¬ later.IsPlain ∧ later.seconds = earlier.seconds ∧
    later.nanoseconds < earlier.nanoseconds + 1_000_000_000 ∧
    1_000_000_000 ≤ earlier.nanoseconds + step.nanoseconds

variable {t now earlier later due : Instant} {step : Duration}

theorem ofParts?_le {seconds : Int} {nanoseconds : Nat} (first_le : firstSecond ≤ seconds)
    (nanoseconds_lt : nanoseconds < 2_000_000_000)
    (le : seconds * 2_000_000_000 + nanoseconds ≤ due.rank) :
    ∃ first, ofParts? seconds nanoseconds = some first ∧ first ≤ due := by
  have last := due.le_last
  have small := due.nanoseconds_lt
  simp only [rank] at le
  have le_last : seconds ≤ lastSecond := by omega
  refine ⟨⟨seconds, nanoseconds, first_le, le_last, nanoseconds_lt⟩, ?_, ?_⟩
  · exact ofParts?_eq_some_iff.mpr ⟨rfl, rfl⟩
  · simpa only [le_def, rank] using le

theorem noLater_after?_iff (ordered : earlier ≤ later) (step : Duration) :
    NoLater (earlier.after? step) (later.after? step) ↔
      ¬ (earlier.LeapsPast later step ∧ (later.after? step).isSome = true) := by
  have first := earlier.first_le
  have small := earlier.nanoseconds_lt
  have below := later.nanoseconds_lt
  simp only [le_def, rank] at ordered
  constructor
  · rintro noLater ⟨⟨plain, inside, same, soon, past⟩, reaches⟩
    obtain ⟨due, reached⟩ := Option.isSome_iff_exists.mp reaches
    obtain ⟨sooner, ended, le⟩ := noLater due reached
    rw [after?_eq] at reached ended
    simp only [IsPlain] at plain inside
    split at reached
    · cases reached
    · rename_i short
      rw [if_neg short, if_neg (fun leap => leap.1 plain)] at ended
      obtain ⟨seconds, nanoseconds⟩ := ofParts?_eq_some_iff.mp ended
      rw [le_def, rank, rank, seconds, nanoseconds] at le
      split at reached <;> obtain ⟨secondsLater, nanosecondsLater⟩ := ofParts?_eq_some_iff.mp reached
      all_goals
        rw [secondsLater, nanosecondsLater] at le
        omega
  · intro apart due reached
    have within : ¬ earlier.LeapsPast later step := fun leaps =>
      apart ⟨leaps, Option.isSome_iff_exists.mpr ⟨due, reached⟩⟩
    rw [after?_eq] at reached ⊢
    simp only [LeapsPast, IsPlain] at within
    split at reached
    · cases reached
    · rename_i short
      rw [if_neg short]
      -- Either instant stays inside its leap second or ends outside one.
      split at reached <;> obtain ⟨seconds, nanoseconds⟩ := ofParts?_eq_some_iff.mp reached <;> split
      all_goals
        rename_i laterStays earlierStays
        simp only [IsPlain] at laterStays earlierStays
        refine ofParts?_le (by omega) (by omega) ?_
        rw [rank, seconds, nanoseconds]
        omega

/-- What seems to be left of a leap second that the instant is inside of, in the first second after the
    midnight that ends it. -/
def leapLeft (now t : Instant) : Nat :=
  if now.secondOfDay = 0 ∧ now.seconds = t.seconds + 1 then
    t.nanoseconds - 1_000_000_000 - now.nanoseconds % 1_000_000_000
  else 0

theorem leapLeft_lt (now t : Instant) : now.leapLeft t < 1_000_000_000 := by
  have small := t.nanoseconds_lt
  unfold leapLeft
  split <;> omega

theorem nanosecondsSince_toNat (ordered : t ≤ now) : (t.nanosecondsSince now).toNat = now.leapLeft t := by
  have small := t.nanoseconds_lt
  have other := now.nanoseconds_lt
  simp only [le_def, rank] at ordered
  have day := Int.emod_nonneg t.seconds (by decide : (86400 : Int) ≠ 0)
  -- Only the turn of a day makes the difference of an earlier instant positive.
  unfold nanosecondsSince leapLeft secondOfDay
  dsimp only
  split
  · split <;> omega
  · split <;> split <;> omega

theorem since?_getD_of_le (ordered : t ≤ now) :
    ((t.since? now).getD .zero).nanoseconds = now.leapLeft t := by
  have left := nanosecondsSince_toNat ordered
  have small := now.leapLeft_lt t
  rw [← left]
  exact since?_getD_eq (by omega)

end Federation.Instant
