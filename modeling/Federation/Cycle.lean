import Federation.Document.Reading
import Federation.Filter
import Federation.Index.Query
import Federation.Schedule
import Federation.Source.Fetch

namespace Federation

structure Pipeline where
  settings : Settings
  read : Bytes → Except MetadataError Document
  filters : List Filter

structure Readings where
  started : Instant
  filtered : Instant
  selected : Instant
  published : Instant
  scheduled : Instant
deriving DecidableEq, Repr

def Readings.still (now : Instant) : Readings := ⟨now, now, now, now, now⟩

structure Failure where
  time : Instant
  message : String
  isFetchError : Bool
deriving DecidableEq, Repr

structure State where
  index : Index
  /-- How many indexes have been published; it tells one index from another. -/
  edition : Nat
  validators : Option Validators
  expiration : Option Instant
  lastSuccess : Option Instant
  lastAttempt : Option Instant
  nextRefresh : Option Instant
  lastFailure : Option Failure
  entityCount : Nat
  /-- What is published came from the backup file. -/
  isDegraded : Bool
  reads : Nat

namespace State

def start : State where
  index := .empty
  edition := 0
  validators := none
  expiration := none
  lastSuccess := none
  lastAttempt := none
  nextRefresh := none
  lastFailure := none
  entityCount := 0
  isDegraded := false
  reads := 0

instance : Inhabited State := ⟨start⟩

end State

structure Publication where
  index : Index
  expiration : Option Instant

namespace Pipeline

def select (pipeline : Pipeline) (now : Instant) (document : Document) : List FlattenedEntity :=
  document.flatten.filter fun flat => !pipeline.settings.requiresValid || flat.isValidAt now

def publication (pipeline : Pipeline) (readings : Readings) (bytes : Bytes) :
    Except MetadataError Publication := do
  let document ← pipeline.read bytes
  let filtered ← Filter.runAll readings.filtered pipeline.filters document
  let document := filtered.document
  return {
    index := .ofFlattened (pipeline.select readings.selected document) pipeline.settings.requiresValid
    expiration := document.earliestExpiration readings.selected }

def dueAfter (pipeline : Pipeline) (now : Instant) (delay : Duration) : Option Instant :=
  if pipeline.settings.background then now.after? delay else none

def fail (pipeline : Pipeline) (readings : Readings) (error : MetadataError) (state : State) : State :=
  { state with
    lastAttempt := some readings.started
    lastFailure := some ⟨readings.started, error.message, error.isFetchError⟩
    nextRefresh := pipeline.dueAfter readings.scheduled pipeline.settings.failureDelay }

def delayAfter (pipeline : Pipeline) (readings : Readings) (jitter : Duration)
    (expiration : Option Instant) : Duration :=
  pipeline.settings.successDelay readings.published expiration jitter

def succeed (pipeline : Pipeline) (readings : Readings) (jitter : Duration) (state : State) :
    State :=
  { state with
    lastAttempt := some readings.started
    lastSuccess := some readings.published
    lastFailure := none
    entityCount := state.index.size
    nextRefresh := pipeline.dueAfter readings.scheduled
      (pipeline.delayAfter readings jitter state.expiration) }

def publish (pipeline : Pipeline) (readings : Readings) (jitter : Duration) (fetched : Fetched)
    (publication : Publication) (state : State) : State :=
  pipeline.succeed readings jitter { state with
    index := publication.index
    edition := state.edition + 1
    validators := fetched.validators
    expiration := publication.expiration
    isDegraded := fetched.origin == .backup }

def confirm (pipeline : Pipeline) (readings : Readings) (jitter : Duration) (state : State) : State :=
  let pruned := match state.index.withoutExpired? readings.published with
    | some index => { state with index, edition := state.edition + 1 }
    | none => state
  pipeline.succeed readings jitter { pruned with isDegraded := false }

/-- The rest of a cycle once its fetch is done: the delay to the next one or the failure, and the
    new state. -/
def complete (pipeline : Pipeline) (readings : Readings) (jitter : Duration)
    (outcome : Except MetadataError FetchOutcome) (state : State) :
    Except MetadataError Duration × State :=
  match outcome with
  | .error error => (.error error, pipeline.fail readings error state)
  | .ok .notModified =>
    (.ok (pipeline.delayAfter readings jitter state.expiration),
      pipeline.confirm readings jitter state)
  | .ok (.fetched fetched) =>
    let state := { state with reads := state.reads + 1 }
    match pipeline.publication readings fetched.bytes with
    | .error error => (.error error, pipeline.fail readings error state)
    | .ok publication =>
      (.ok (pipeline.delayAfter readings jitter publication.expiration),
        pipeline.publish readings jitter fetched publication state)

structure Cycle where
  outcome : Except MetadataError Duration
  state : State
  files : Storage

def runCycle (pipeline : Pipeline) (readings : Readings) (jitter : Duration)
    (surroundings : Surroundings) (state : State) : Cycle :=
  let (fetched, files) :=
    pipeline.settings.source.fetch state.validators readings.started surroundings
  let (outcome, state) := pipeline.complete readings jitter fetched state
  ⟨outcome, state, files⟩

def Cycle.delay (pipeline : Pipeline) (cycle : Cycle) : Duration :=
  match cycle.outcome with
  | .ok delay => delay
  | .error _ => pipeline.settings.failureDelay

theorem minDelay_le_delayAfter (pipeline : Pipeline) (readings : Readings) (jitter : Duration)
    (expiration : Option Instant) :
    pipeline.settings.minDelay ≤ pipeline.delayAfter readings jitter expiration :=
  pipeline.settings.minDelay_le_delayBy (·.scale pipeline.settings.factor) readings.published
    expiration jitter

theorem complete_ok {pipeline : Pipeline} {readings : Readings} {jitter delay : Duration}
    {outcome : Except MetadataError FetchOutcome} {state : State}
    (done : (pipeline.complete readings jitter outcome state).1 = .ok delay) :
    ∃ expiration, delay = pipeline.delayAfter readings jitter expiration := by
  unfold complete at done
  cases outcome with
  | error failure => cases done
  | ok obtained =>
    cases obtained with
    | notModified => exact ⟨_, (Except.ok.inj done).symm⟩
    | fetched fetched =>
      dsimp only at done
      cases made : pipeline.publication readings fetched.bytes with
      | error failure => rw [made] at done; cases done
      | ok publication => rw [made] at done; exact ⟨_, (Except.ok.inj done).symm⟩

theorem runCycle_ok {pipeline : Pipeline} {readings : Readings} {jitter delay : Duration}
    {surroundings : Surroundings} {state : State}
    (done : (pipeline.runCycle readings jitter surroundings state).outcome = .ok delay) :
    ∃ expiration, delay = pipeline.delayAfter readings jitter expiration :=
  complete_ok done

theorem runCycle_delay_pos (pipeline : Pipeline) (readings : Readings) (jitter : Duration)
    (surroundings : Surroundings) (state : State) :
    Duration.zero < (pipeline.runCycle readings jitter surroundings state).delay pipeline := by
  unfold Cycle.delay
  split
  · rename_i done
    obtain ⟨expiration, rfl⟩ := runCycle_ok done
    exact Nat.lt_of_lt_of_le pipeline.settings.minDelay_pos
      (pipeline.minDelay_le_delayAfter readings jitter expiration)
  · exact pipeline.settings.failureDelay_pos

end Pipeline

end Federation
