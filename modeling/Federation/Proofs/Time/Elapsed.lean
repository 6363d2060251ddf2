import Federation.Time.Instant

namespace Federation.Instant

/-- Not inside a leap second. -/
def IsPlain (t : Instant) : Prop := t.nanoseconds < 1_000_000_000

instance (t : Instant) : Decidable t.IsPlain :=
  inferInstanceAs (Decidable (t.nanoseconds < 1_000_000_000))

def lastNanosecond : Int := lastSecond * 1_000_000_000 + 999_999_999

variable {t start due : Instant} {step : Duration}

theorem IsPlain.sinceEpoch_le (plain : t.IsPlain) : t.sinceEpoch ≤ lastNanosecond := by
  have last := t.le_last
  simp only [IsPlain, sinceEpoch, lastNanosecond] at plain ⊢
  omega

theorem ofParts?_eq_some_iff {seconds : Int} {nanoseconds : Nat} :
    ofParts? seconds nanoseconds = some t ↔ t.seconds = seconds ∧ t.nanoseconds = nanoseconds := by
  unfold ofParts?
  constructor
  · intro made
    split at made
    · cases made
      exact ⟨rfl, rfl⟩
    · cases made
  · rintro ⟨rfl, rfl⟩
    exact dif_pos ⟨t.first_le, t.le_last, t.nanoseconds_lt⟩

theorem ofParts?_isSome_iff {seconds : Int} {nanoseconds : Nat} :
    (ofParts? seconds nanoseconds).isSome = true ↔
      firstSecond ≤ seconds ∧ seconds ≤ lastSecond ∧ nanoseconds < 2_000_000_000 := by
  unfold ofParts?
  split <;> simp [*]

theorem after?_eq (t : Instant) (step : Duration) :
    t.after? step =
      if longestStep < step.nanoseconds then none
      else if ¬ t.IsPlain ∧ t.nanoseconds + step.nanoseconds < 2_000_000_000 then
        ofParts? t.seconds (t.nanoseconds + step.nanoseconds)
      else
        ofParts? (t.seconds + ↑(t.nanoseconds % 1_000_000_000 + step.nanoseconds) / 1_000_000_000)
          ((t.nanoseconds % 1_000_000_000 + step.nanoseconds) % 1_000_000_000) := by
  have small := t.nanoseconds_lt
  have start : (if 1_000_000_000 ≤ t.nanoseconds then t.nanoseconds - 1_000_000_000 else t.nanoseconds) =
      t.nanoseconds % 1_000_000_000 := by
    split <;> omega
  simp only [after?, IsPlain, Nat.not_lt, start]

/-- There is an end as long as the last instant is not passed, where time inside a leap second stands
    for the same time in the second before it. -/
theorem reaches_iff (t : Instant) (step : Duration) :
    (t.after? step).isSome = true ↔
      t.seconds * 1_000_000_000 + (t.nanoseconds % 1_000_000_000 : Nat) + step.nanoseconds ≤
        lastNanosecond := by
  have first := t.first_le
  have last := t.le_last
  have small := t.nanoseconds_lt
  simp only [firstSecond, lastSecond, lastNanosecond] at first last ⊢
  by_cases long : longestStep < step.nanoseconds
  · rw [after?_eq, if_pos long]
    simp only [longestStep] at long
    refine iff_of_false Bool.false_ne_true ?_
    omega
  · by_cases stays : ¬ t.IsPlain ∧ t.nanoseconds + step.nanoseconds < 2_000_000_000
    · rw [after?_eq, if_neg long, if_pos stays, ofParts?_isSome_iff]
      simp only [IsPlain, firstSecond, lastSecond] at stays ⊢
      omega
    · rw [after?_eq, if_neg long, if_neg stays, ofParts?_isSome_iff]
      simp only [firstSecond, lastSecond]
      omega

theorem after?_eq_some_iff (plain : t.IsPlain) :
    t.after? step = some due ↔ due.IsPlain ∧ due.sinceEpoch = t.sinceEpoch + step.nanoseconds := by
  have first := t.first_le
  have last := due.le_last
  have leaves : ¬ (¬ t.IsPlain ∧ t.nanoseconds + step.nanoseconds < 2_000_000_000) :=
    fun stays => stays.1 plain
  rw [after?_eq, if_neg leaves]
  split
  · -- A step too long to be taken would end out of range anyway.
    rename_i long
    apply iff_of_false nofun
    rintro ⟨small, reached⟩
    simp only [IsPlain, sinceEpoch, longestStep, firstSecond, lastSecond] at *
    omega
  · rw [ofParts?_eq_some_iff]
    simp only [IsPlain, sinceEpoch] at plain ⊢
    omega

theorem after?_isSome_iff (plain : t.IsPlain) :
    (t.after? step).isSome = true ↔ t.sinceEpoch + step.nanoseconds ≤ lastNanosecond := by
  rw [reaches_iff, sinceEpoch, Nat.mod_eq_of_lt plain]

theorem after?_zero (plain : t.IsPlain) : t.after? .zero = some t := by
  rw [after?_eq_some_iff plain]
  exact ⟨plain, (Int.add_zero _).symm⟩

theorem nanosecondsSince_eq (plain : t.IsPlain) (other : start.IsPlain) :
    t.nanosecondsSince start = t.sinceEpoch - start.sinceEpoch := by
  simp only [IsPlain] at plain other
  have outside : ¬ 1_000_000_000 ≤ t.nanoseconds := by omega
  have before : ¬ 1_000_000_000 ≤ start.nanoseconds := by omega
  simp only [nanosecondsSince, sinceEpoch, outside, before, and_false, if_false]
  omega

theorem since?_getD_eq (fits : (t.nanosecondsSince start).toNat < 0x10000000000000000 * 1_000_000_000) :
    ((t.since? start).getD .zero).nanoseconds = (t.nanosecondsSince start).toNat := by
  unfold since?
  dsimp only
  split
  · rename_i past
    rw [Int.toNat_of_nonpos (Int.le_of_lt past)]
    rfl
  · rw [Duration.ofNanoseconds?, dif_pos fits]
    rfl

theorem since?_getD (plain : t.IsPlain) (other : start.IsPlain) :
    ((t.since? start).getD .zero).nanoseconds = (t.sinceEpoch - start.sinceEpoch).toNat := by
  have range := plain.sinceEpoch_le
  have first := start.first_le
  rw [← nanosecondsSince_eq plain other]
  apply since?_getD_eq
  rw [nanosecondsSince_eq plain other]
  simp only [lastNanosecond, lastSecond, firstSecond, sinceEpoch] at range first ⊢
  omega

end Federation.Instant
