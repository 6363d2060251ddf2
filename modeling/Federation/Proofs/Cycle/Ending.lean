import Federation.Cycle
import Federation.Proofs.Index.Contents
import Federation.Proofs.Results

namespace Federation

namespace Pipeline

def plain (source : Source) (read : Bytes → Except MetadataError Document) : Pipeline where
  settings :=
    { id := "r"
      source
      failsFast := true
      requiresValid := false
      minDelay := Settings.defaultMinDelay
      maxDelay := Settings.defaultMaxDelay
      factor := Settings.defaultFactor
      failureDelay := Settings.defaultMinDelay
      jitter := .zero
      timeout := Settings.defaultTimeout
      background := true
      minDelay_pos := by decide
      minDelay_le := by decide
      failureDelay_pos := by decide
      failureDelay_le := by decide }
  read
  filters := []

def accept (pipeline : Pipeline) (now : Instant) (bytes : Bytes) : Except MetadataError Document := do
  let document ← pipeline.read bytes
  let filtered ← Filter.runAll now pipeline.filters document
  return filtered.document

theorem accept_eq_ok_iff {pipeline : Pipeline} {now : Instant} {bytes : Bytes} {document : Document} :
    pipeline.accept now bytes = .ok document ↔
      ∃ parsed outcome, pipeline.read bytes = .ok parsed ∧
        Filter.runAll now pipeline.filters parsed = .ok outcome ∧ outcome.document = document := by
  simp only [accept, bind_eq_ok_iff, pure_eq_ok_iff, exists_and_left]

theorem accept_eq_error_iff {pipeline : Pipeline} {now : Instant} {bytes : Bytes}
    {failure : MetadataError} :
    pipeline.accept now bytes = .error failure ↔
      pipeline.read bytes = .error failure ∨
        ∃ document, pipeline.read bytes = .ok document ∧
          Filter.runAll now pipeline.filters document = .error failure := by
  simp only [accept, bind_eq_error_iff, pure_ne_error, and_false, exists_false, or_false]

theorem accept_unfiltered {pipeline : Pipeline} (unfiltered : pipeline.filters = []) (now : Instant)
    (bytes : Bytes) : pipeline.accept now bytes = pipeline.read bytes := by
  unfold accept
  rw [unfiltered]
  cases pipeline.read bytes <;> rfl

theorem accept_plain {source : Source} {read : Bytes → Except MetadataError Document} {bytes : Bytes}
    {document : Document} (parsed : read bytes = .ok document) (now : Instant) :
    (plain source read).accept now bytes = .ok document :=
  (accept_unfiltered rfl now bytes).trans parsed

def indexOf (pipeline : Pipeline) (now : Instant) (document : Document) : Index :=
  .ofFlattened (pipeline.select now document) pipeline.settings.requiresValid

theorem publication_eq (pipeline : Pipeline) (readings : Readings) (bytes : Bytes) :
    pipeline.publication readings bytes =
      (pipeline.accept readings.filtered bytes).map fun document =>
        ⟨pipeline.indexOf readings.selected document, document.earliestExpiration readings.selected⟩ := by
  unfold publication accept
  cases pipeline.read bytes with
  | error failure => rfl
  | ok document =>
    simp only [Bind.bind, Except.bind]
    cases Filter.runAll readings.filtered pipeline.filters document <;> rfl

theorem accept_of_publication {pipeline : Pipeline} {readings : Readings} {bytes : Bytes}
    {publication : Publication} (made : pipeline.publication readings bytes = .ok publication) :
    ∃ document, pipeline.accept readings.filtered bytes = .ok document ∧
      publication.index = pipeline.indexOf readings.selected document := by
  rw [publication_eq] at made
  cases accepted : pipeline.accept readings.filtered bytes with
  | error failure => rw [accepted] at made; cases made
  | ok document =>
    rw [accepted] at made
    cases made
    exact ⟨document, rfl, rfl⟩

theorem publication_of_accept {pipeline : Pipeline} {readings : Readings} {bytes : Bytes}
    {document : Document} (accepted : pipeline.accept readings.filtered bytes = .ok document) :
    ∃ publication, pipeline.publication readings bytes = .ok publication ∧
      publication.index = pipeline.indexOf readings.selected document := by
  rw [publication_eq, accepted]
  exact ⟨_, rfl, rfl⟩

theorem indexOf_represents (pipeline : Pipeline) (now : Instant) (document : Document) :
    (pipeline.indexOf now document).Represents (firstOccurrences (pipeline.select now document)) :=
  Index.ofFlattened_represents _ _

theorem indexOf_enforcesValidity (pipeline : Pipeline) (now : Instant) (document : Document) :
    (pipeline.indexOf now document).enforcesValidity = pipeline.settings.requiresValid :=
  Index.ofFlattened_enforcesValidity _ _

end Pipeline

inductive Ending where
  | failed (error : MetadataError)
  | confirmed
  | published (fetched : Fetched) (publication : Publication)

/-- What of a state is served, and what the next fetch and the next delay are made from. -/
structure Served where
  index : Index
  validators : Option Validators
  expiration : Option Instant
  lastSuccess : Option Instant
  entityCount : Nat
  isDegraded : Bool

def State.served (state : State) : Served where
  index := state.index
  validators := state.validators
  expiration := state.expiration
  lastSuccess := state.lastSuccess
  entityCount := state.entityCount
  isDegraded := state.isDegraded

@[simp] theorem State.served_index (state : State) : state.served.index = state.index := rfl

@[simp] theorem State.served_validators (state : State) :
    state.served.validators = state.validators := rfl

@[simp] theorem State.served_isDegraded (state : State) :
    state.served.isDegraded = state.isDegraded := rfl

namespace Ending

def isFailure : Ending → Bool
  | failed _ => true
  | _ => false

def serve (ending : Ending) (now : Instant) (served : Served) : Served :=
  match ending with
  | failed _ => served
  | confirmed =>
    { served with
      index := served.index.prune now
      lastSuccess := some now
      entityCount := (served.index.prune now).size
      isDegraded := false }
  | published fetched publication =>
    { index := publication.index
      validators := fetched.validators
      expiration := publication.expiration
      lastSuccess := some now
      entityCount := publication.index.size
      isDegraded := fetched.origin == .backup }

end Ending

namespace Pipeline

def ending (pipeline : Pipeline) (readings : Readings) :
    Except MetadataError FetchOutcome → Ending
  | .error failure => .failed failure
  | .ok .notModified => .confirmed
  | .ok (.fetched fetched) =>
    match pipeline.publication readings fetched.bytes with
    | .error failure => .failed failure
    | .ok publication => .published fetched publication

theorem ending_published {pipeline : Pipeline} {readings : Readings}
    {outcome : Except MetadataError FetchOutcome} {fetched : Fetched} {publication : Publication}
    (published : pipeline.ending readings outcome = .published fetched publication) :
    outcome = .ok (.fetched fetched) ∧
      pipeline.publication readings fetched.bytes = .ok publication := by
  unfold ending at published
  split at published
  · cases published
  · cases published
  · split at published
    · cases published
    · rename_i made
      cases published
      exact ⟨rfl, made⟩

theorem ending_of_accept {pipeline : Pipeline} {readings : Readings} {fetched : Fetched}
    {document : Document} (accepted : pipeline.accept readings.filtered fetched.bytes = .ok document) :
    ∃ publication, pipeline.ending readings (.ok (.fetched fetched)) = .published fetched publication ∧
      publication.index = pipeline.indexOf readings.selected document := by
  obtain ⟨publication, made, index⟩ := publication_of_accept accepted
  refine ⟨publication, ?_, index⟩
  simp only [ending, made]

theorem ending_confirmed {pipeline : Pipeline} {readings : Readings}
    {outcome : Except MetadataError FetchOutcome}
    (confirmed : pipeline.ending readings outcome = .confirmed) : outcome = .ok .notModified := by
  unfold ending at confirmed
  split at confirmed
  · cases confirmed
  · rfl
  · split at confirmed <;> cases confirmed

theorem confirm_served (pipeline : Pipeline) (readings : Readings) (jitter : Duration) (state : State) :
    (pipeline.confirm readings jitter state).served =
      Ending.confirmed.serve readings.published state.served := by
  unfold confirm succeed Ending.serve State.served Index.prune
  cases state.index.withoutExpired? readings.published <;> rfl

/-- The three endings of a cycle, each with its answer and with what it makes of the state. -/
theorem complete_cases (pipeline : Pipeline) (readings : Readings) (jitter : Duration)
    (outcome : Except MetadataError FetchOutcome) (state : State) :
    (∃ error reads, pipeline.ending readings outcome = .failed error ∧
      pipeline.complete readings jitter outcome state =
        (.error error, pipeline.fail readings error { state with reads })) ∨
    (pipeline.ending readings outcome = .confirmed ∧
      pipeline.complete readings jitter outcome state =
        (.ok (pipeline.delayAfter readings jitter state.expiration),
          pipeline.confirm readings jitter state)) ∨
    ∃ fetched publication, pipeline.ending readings outcome = .published fetched publication ∧
      pipeline.complete readings jitter outcome state =
        (.ok (pipeline.delayAfter readings jitter publication.expiration),
          pipeline.publish readings jitter fetched publication
            { state with reads := state.reads + 1 }) := by
  unfold complete ending
  rcases outcome with failure | fetched | _
  · exact .inl ⟨failure, state.reads, rfl, rfl⟩
  · dsimp only
    cases pipeline.publication readings fetched.bytes with
    | error failure => exact .inl ⟨failure, state.reads + 1, rfl, rfl⟩
    | ok publication => exact .inr (.inr ⟨fetched, publication, rfl, rfl⟩)
  · exact .inr (.inl ⟨rfl, rfl⟩)

theorem complete_served (pipeline : Pipeline) (readings : Readings) (jitter : Duration)
    (outcome : Except MetadataError FetchOutcome) (state : State) :
    (pipeline.complete readings jitter outcome state).2.served =
      (pipeline.ending readings outcome).serve readings.published state.served := by
  rcases pipeline.complete_cases readings jitter outcome state with
    ⟨error, reads, ended, done⟩ | ⟨ended, done⟩ | ⟨fetched, publication, ended, done⟩
  · rw [ended, done]
    rfl
  · rw [ended, done]
    exact pipeline.confirm_served readings jitter state
  · rw [ended, done]
    rfl

theorem complete_isOk (pipeline : Pipeline) (readings : Readings) (jitter : Duration)
    (outcome : Except MetadataError FetchOutcome) (state : State) :
    (pipeline.complete readings jitter outcome state).1.isOk =
      !(pipeline.ending readings outcome).isFailure := by
  rcases pipeline.complete_cases readings jitter outcome state with
    ⟨_, _, ended, done⟩ | ⟨ended, done⟩ | ⟨_, _, ended, done⟩ <;> rw [ended, done] <;> rfl

end Pipeline

end Federation
