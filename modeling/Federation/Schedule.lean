import Federation.Settings
import Federation.Time.Instant

namespace Federation.Settings

def remaining (now expiration : Instant) : Duration := (expiration.since? now).getD .zero

def delayBy (settings : Settings) (scale : Duration → Duration) (now : Instant)
    (expiration : Option Instant) (jitter : Duration) : Duration :=
  match expiration with
  | none => settings.maxDelay
  | some expiration =>
    (scale (remaining now expiration) - jitter).clamp settings.minDelay settings.maxDelay

def successDelay (settings : Settings) (now : Instant) (expiration : Option Instant)
    (jitter : Duration) : Duration :=
  settings.delayBy (·.scale settings.factor) now expiration jitter

theorem minDelay_le_delayBy (settings : Settings) (scale : Duration → Duration) (now : Instant)
    (expiration : Option Instant) (jitter : Duration) :
    settings.minDelay ≤ settings.delayBy scale now expiration jitter := by
  cases expiration with
  | none => exact settings.minDelay_le
  | some expiration => exact Duration.le_clamp settings.minDelay_le _

end Federation.Settings
