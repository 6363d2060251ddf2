import Federation.Decimal.Layout
import Federation.Source.Basic
import Federation.Text.Blank
import Federation.Time.Duration

namespace Federation

structure Settings where
  id : String
  source : Source
  failsFast : Bool
  requiresValid : Bool
  minDelay : Duration
  maxDelay : Duration
  factor : Float
  failureDelay : Duration
  jitter : Duration
  timeout : Duration
  background : Bool
  minDelay_pos : Duration.zero < minDelay
  minDelay_le : minDelay ≤ maxDelay
  failureDelay_pos : Duration.zero < failureDelay
  failureDelay_le : failureDelay ≤ maxDelay

namespace Settings

def defaultMinDelay : Duration := .ofSeconds 300

def defaultMaxDelay : Duration := .ofSeconds 14400

def defaultFactor : Float := 0.75

def defaultTimeout : Duration := .ofSeconds 30

structure Draft where
  id : String
  source : Source
  failsFast : Bool := true
  requiresValid : Bool := false
  minDelay : Duration := defaultMinDelay
  maxDelay : Duration := defaultMaxDelay
  factor : Float := defaultFactor
  failureDelay : Option Duration := none
  jitter : Duration := .zero
  timeout : Duration := defaultTimeout
  background : Bool := true

inductive Choice where
  | failsFast (value : Bool)
  | requiresValid (value : Bool)
  | minDelay (value : Duration)
  | maxDelay (value : Duration)
  | factor (value : Float)
  | failureDelay (value : Duration)
  | jitter (value : Duration)
  | timeout (value : Duration)
  | background (value : Bool)

namespace Draft

def choose (draft : Draft) : Choice → Draft
  | .failsFast value => { draft with failsFast := value }
  | .requiresValid value => { draft with requiresValid := value }
  | .minDelay value => { draft with minDelay := value }
  | .maxDelay value => { draft with maxDelay := value }
  | .factor value => { draft with factor := value }
  | .failureDelay value => { draft with failureDelay := some value }
  | .jitter value => { draft with jitter := value }
  | .timeout value => { draft with timeout := value }
  | .background value => { draft with background := value }

def chooseAll (draft : Draft) (choices : List Choice) : Draft := choices.foldl choose draft

/-- Checks the choices in a fixed order and reports the first that cannot be used. -/
def check (draft : Draft) : Except MetadataError Settings :=
  let refuse (message : String) : Except MetadataError Settings := .error (.configuration message)
  let failureDelay := draft.failureDelay.getD draft.minDelay
  if Text.isBlankText draft.id then refuse "Resolver id must not be empty"
  else if minDelay_pos : Duration.zero < draft.minDelay then
    if minDelay_le : draft.minDelay ≤ draft.maxDelay then
      if !(0 < draft.factor && draft.factor < 1) then
        refuse ("Refresh delay factor must be between 0 and 1 exclusive, got " ++
          Decimal.plain.writeFloat draft.factor)
      else if failure : Duration.zero < failureDelay ∧ failureDelay ≤ draft.maxDelay then
        if draft.timeout.isZero then refuse "Request timeout must be greater than zero"
        else
          .ok { draft with
            failureDelay, minDelay_pos, minDelay_le
            failureDelay_pos := failure.1
            failureDelay_le := failure.2 }
      else
        refuse (s!"Failure refresh delay {failureDelay.display} must be non-zero " ++
          s!"and at most {draft.maxDelay.display}")
    else
      refuse (s!"Minimum refresh delay {draft.minDelay.display} " ++
        s!"exceeds maximum {draft.maxDelay.display}")
  else refuse "Minimum refresh delay must be greater than zero"

end Draft

end Settings

end Federation
