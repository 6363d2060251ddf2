import Federation.Proofs.Settings.Choices
import Federation.Proofs.Time.Leap
import Federation.Schedule

namespace Federation

namespace Duration

variable {low high left right : Duration}

theorem clamp_nanoseconds (ordered : low ≤ high) (d : Duration) :
    (d.clamp low high).nanoseconds = max low.nanoseconds (min d.nanoseconds high.nanoseconds) := by
  unfold clamp
  simp only [le_def, lt_def] at ordered ⊢
  split
  · omega
  · split <;> omega

theorem clamp_le (ordered : low ≤ high) (d : Duration) : d.clamp low high ≤ high := by
  rw [le_def] at ordered ⊢
  rw [clamp_nanoseconds ordered]
  omega

theorem clamp_le_clamp (ordered : low ≤ high) (le : left ≤ right) :
    left.clamp low high ≤ right.clamp low high := by
  rw [le_def] at le ⊢
  rw [clamp_nanoseconds ordered, clamp_nanoseconds ordered]
  omega

theorem sub_le_sub (d : Duration) (le : left ≤ right) : d - right ≤ d - left := by
  rw [le_def] at le ⊢
  exact Nat.sub_le_sub_left le d.nanoseconds

end Duration

namespace Settings

variable (settings : Settings) (scale : Duration → Duration) (now : Instant)

theorem delayBy_le_maxDelay (expiration : Option Instant) (jitter : Duration) :
    settings.delayBy scale now expiration jitter ≤ settings.maxDelay := by
  cases expiration with
  | none => exact Nat.le_refl _
  | some expiration => exact Duration.clamp_le settings.minDelay_le _

theorem delayBy_antitone (expiration : Option Instant) {jitter more : Duration} (le : jitter ≤ more) :
    settings.delayBy scale now expiration more ≤ settings.delayBy scale now expiration jitter := by
  cases expiration with
  | none => exact Nat.le_refl _
  | some expiration =>
    exact Duration.clamp_le_clamp settings.minDelay_le (Duration.sub_le_sub _ le)

variable {scale now}

theorem delayBy_of_remaining (still : scale .zero = .zero) {expiration : Instant}
    (spent : remaining now expiration = .zero) (jitter : Duration) :
    settings.delayBy scale now (some expiration) jitter = settings.minDelay := by
  have ordered := settings.minDelay_le
  apply Duration.ext
  rw [delayBy, spent, still, Duration.clamp_nanoseconds ordered]
  rw [Duration.le_def] at ordered
  rw [Duration.sub_nanoseconds, Duration.zero_nanoseconds]
  omega

/-- Settings depend on nothing but the last choice of each setting. They have the values that were chosen
    last, and the others their defaults, where the failure delay defaults to the least delay. With them a
    delay lies within the bounds, which are positive. It is the longest without an expiration and the least
    for an expiration that is not ahead, unless that is inside a leap second that the midnight before now
    ended and seems not to be over; and more jitter never lengthens it. -/
theorem delays_stay_within (id : String) (source : Source) (choices : List Choice) :
    let start : Draft := { id, source }
    (∀ others, (∀ setting, lastChoice others setting = lastChoice choices setting) →
      (start.chooseAll others).check = (start.chooseAll choices).check) ∧
    ∀ settings, (start.chooseAll choices).check = .ok settings →
      (settings.id = id ∧ settings.source = source) ∧
      (∀ setting, setting ≠ .failureDelay →
        some (settings.value setting) = (lastChoice choices setting).or (start.value? setting)) ∧
      settings.failureDelay = (lastChoice choices .failureDelay).getD settings.minDelay ∧
      (Duration.zero < settings.minDelay ∧ settings.minDelay ≤ settings.maxDelay) ∧
      (Duration.zero < settings.failureDelay ∧ settings.failureDelay ≤ settings.maxDelay) ∧
      (∀ now expiration jitter, settings.successDelay now expiration jitter =
        settings.delayBy (·.scale settings.factor) now expiration jitter) ∧
      ∀ scale now jitter,
        (∀ expiration, settings.minDelay ≤ settings.delayBy scale now expiration jitter ∧
          settings.delayBy scale now expiration jitter ≤ settings.maxDelay ∧
          ∀ more, jitter ≤ more → settings.delayBy scale now expiration more ≤
            settings.delayBy scale now expiration jitter) ∧
        settings.delayBy scale now none jitter = settings.maxDelay ∧
        ∀ past, past ≤ now → (remaining now past).nanoseconds = now.leapLeft past ∧
          (scale .zero = .zero → now.leapLeft past = 0 →
            settings.delayBy scale now (some past) jitter = settings.minDelay) := by
  intro start
  refine ⟨fun others same => by rw [start.chooseAll_congr same], ?_⟩
  intro settings accepted
  obtain ⟨usable, rfl⟩ := Draft.check_eq_ok_iff.mp accepted
  have named := start.chooseAll_named choices
  have failure : (start.chooseAll choices).failureDelay = lastChoice choices .failureDelay :=
    (start.chooseAll_value? choices .failureDelay).trans (Option.or_none ..)
  refine ⟨named, ?_, ?_, ⟨usable.minDelay_pos, usable.minDelay_le⟩,
    ⟨usable.failureDelay_pos, usable.failureDelay_le⟩, fun _ _ _ => rfl, ?_⟩
  · intro setting other
    rw [usable.some_value other, start.chooseAll_value?]
  · rw [← failure]
    rfl
  · generalize usable.settings = settings
    intro scale now jitter
    refine ⟨fun expiration => ⟨?_, ?_, ?_⟩, rfl, fun past ended => ⟨?_, ?_⟩⟩
    · exact settings.minDelay_le_delayBy scale now expiration jitter
    · exact settings.delayBy_le_maxDelay scale now expiration jitter
    · exact fun more le => settings.delayBy_antitone scale now expiration le
    · exact Instant.since?_getD_of_le ended
    · intro still spent
      have none_left : (remaining now past).nanoseconds = 0 := (Instant.since?_getD_of_le ended).trans spent
      exact settings.delayBy_of_remaining still (Duration.ext none_left) jitter

/-- The least delay is chosen twice, the second time after the failure delay, which stays as it is. -/
theorem delays_stay_within_chosen_twice :
    let start : Draft := { id := "r", source := .file "metadata.json" }
    let choices : List Choice :=
      [.minDelay (.ofSeconds 5), .failureDelay (.ofSeconds 2), .minDelay (.ofSeconds 3), .jitter (.ofSeconds 1)]
    let others : List Choice :=
      [.jitter (.ofSeconds 1), .minDelay (.ofSeconds 3), .failureDelay (.ofSeconds 2)]
    let whole (d : Duration) : Duration := d
    let past : Instant := .epoch
    let now : Instant := ⟨7, 0, by decide, by decide, by decide⟩
    (start.chooseAll others).check = (start.chooseAll choices).check ∧
      ∃ settings, (start.chooseAll choices).check = .ok settings ∧
        settings.minDelay = .ofSeconds 3 ∧ settings.failureDelay = .ofSeconds 2 ∧
        settings.delayBy whole past (some now) settings.jitter = .ofSeconds 6 ∧
        settings.delayBy whole past (some now) (.ofSeconds 2) ≤
          settings.delayBy whole past (some now) settings.jitter ∧
        settings.delayBy whole now (some past) .zero = settings.minDelay := by
  intro start choices others whole past now
  obtain ⟨same, accepted⟩ := delays_stay_within "r" (.file "metadata.json") choices
  let usable : (start.chooseAll choices).Usable :=
    ⟨by decide, by decide, by decide, by decide, by decide, by decide, by decide⟩
  have checked := Draft.check_eq_ok_iff.mpr ⟨usable, rfl⟩
  obtain ⟨_, _, _, _, _, _, delays⟩ := accepted usable.settings checked
  refine ⟨same others fun setting => by cases setting <;> rfl, usable.settings, checked, rfl, rfl,
    by decide, ?_, ?_⟩
  · exact ((delays whole past usable.settings.jitter).1 (some now)).2.2 (.ofSeconds 2) (by decide)
  · exact ((delays whole now .zero).2.2 past (by decide)).2 rfl (by decide)

/-- At the start of 2017 nine tenths of the leap second before it seem to be ahead, so the delay is three
    quarters of them and not the least one. -/
theorem delay_after_leap_second :
    let start : Draft := { id := "r", source := .file "metadata.json" }
    let choices : List Choice := [.minDelay ⟨1, by decide⟩, .maxDelay (.ofSeconds 3600)]
    let now : Instant := ⟨1483228800, 0, by decide, by decide, by decide⟩
    let past : Instant := ⟨1483228799, 1_900_000_000, by decide, by decide, by decide⟩
    past ≤ now ∧ ∃ settings, (start.chooseAll choices).check = .ok settings ∧
      Duration.zero.scale settings.factor = .zero ∧ settings.minDelay = ⟨1, by decide⟩ ∧
      settings.successDelay now (some past) .zero = ⟨675_000_000, by decide⟩ ∧
      settings.successDelay now (some past) .zero ≠ settings.minDelay := by
  intro start choices now past
  let usable : (start.chooseAll choices).Usable :=
    ⟨by decide, by decide, by decide, by decide, by decide, by decide, by decide⟩
  refine ⟨by decide, usable.settings, Draft.check_eq_ok_iff.mpr ⟨usable, rfl⟩, ?_, rfl, ?_, ?_⟩
  all_goals decide +kernel

end Settings

end Federation
