import Federation.Proofs.Cycle.History
import Federation.Proofs.Filter.Running

namespace Federation

theorem Ending.serve_of_isFailure {ending : Ending} (failed : ending.isFailure = true) (now : Instant)
    (served : Served) : ending.serve now served = served := by
  cases ending with
  | failed error => rfl
  | confirmed => cases failed
  | published fetched publication => cases failed

namespace Pipeline

/-- The delay after a cycle whose fetch came to what is recorded, or the failure, and the new state. -/
def resume (pipeline : Pipeline) (state : State) (record : Record) :
    Except MetadataError Duration × State :=
  pipeline.complete record.turn.readings record.turn.jitter record.outcome state

def resumeAll (pipeline : Pipeline) (state : State) (records : List Record) : State :=
  records.foldl (fun state record => (pipeline.resume state record).2) state

def successes (pipeline : Pipeline) : State → List Record → List Record
  | _, [] => []
  | state, record :: rest =>
    let (outcome, state) := pipeline.resume state record
    if outcome.isOk then record :: pipeline.successes state rest else pipeline.successes state rest

theorem resume_served (pipeline : Pipeline) (state : State) (record : Record) :
    (pipeline.resume state record).2.served =
      (pipeline.endingOf record).serve record.turn.readings.published state.served :=
  pipeline.complete_served _ _ _ _

theorem resume_isOk (pipeline : Pipeline) (state : State) (record : Record) :
    (pipeline.resume state record).1.isOk = !(pipeline.endingOf record).isFailure :=
  pipeline.complete_isOk _ _ _ _

theorem resumeAll_served (pipeline : Pipeline) (state : State) (records : List Record) :
    (pipeline.resumeAll state records).served = pipeline.replay records state.served := by
  induction records generalizing state with
  | nil => rfl
  | cons record rest ih =>
    have later := ih (pipeline.resume state record).2
    rw [resume_served] at later
    exact later

theorem resumeAll_historyFrom (pipeline : Pipeline) (state : State) (turns : List Turn) :
    pipeline.resumeAll state (pipeline.historyFrom state turns) = turns.foldl pipeline.next state := by
  induction turns generalizing state with
  | nil => rfl
  | cons turn rest ih => exact ih (pipeline.next state turn)

/-- Whether a cycle succeeds does not depend on the cycles before it. -/
theorem successes_eq_filter (pipeline : Pipeline) (state : State) (records : List Record) :
    pipeline.successes state records =
      records.filter fun record => !(pipeline.endingOf record).isFailure := by
  induction records generalizing state with
  | nil => rfl
  | cons record rest ih =>
    simp only [successes, resume_isOk, List.filter_cons, ih]

theorem replay_filter (pipeline : Pipeline) (records : List Record) (served : Served) :
    pipeline.replay (records.filter fun record => !(pipeline.endingOf record).isFailure) served =
      pipeline.replay records served := by
  induction records generalizing served with
  | nil => rfl
  | cons record rest ih =>
    cases failed : (pipeline.endingOf record).isFailure with
    | true =>
      have unseen := Ending.serve_of_isFailure failed record.turn.readings.published served
      have later := ih served
      unfold replay at later ⊢
      simp only [List.filter_cons, failed, Bool.not_true, Bool.false_eq_true, if_false,
        List.foldl_cons, unseen]
      exact later
    | false =>
      have later := ih ((pipeline.endingOf record).serve record.turn.readings.published served)
      unfold replay at later ⊢
      simp only [List.filter_cons, failed, Bool.not_false, if_true, List.foldl_cons]
      exact later

/-- Where a cycle may fail. -/
inductive Fails (pipeline : Pipeline) (record : Record) : Prop where
  | fetching {failure : MetadataError} (failed : record.outcome = .error failure)
  | reading {fetched : Fetched} {failure : MetadataError}
    (obtained : record.outcome = .ok (.fetched fetched))
    (refused : pipeline.read fetched.bytes = .error failure)
  | filtering {fetched : Fetched} {document : Document} {before after : List Filter} {filter : Filter}
    {passed : FilterOutcome} {failure : MetadataError}
    (obtained : record.outcome = .ok (.fetched fetched))
    (read : pipeline.read fetched.bytes = .ok document)
    (filters : pipeline.filters = before ++ filter :: after)
    (accepted : Filter.runAll record.turn.readings.filtered before document = .ok passed)
    (rejected : filter.run record.turn.readings.filtered passed.document = .error failure)

theorem accept_error_iff {pipeline : Pipeline} {now : Instant} {bytes : Bytes} :
    (∃ failure, pipeline.accept now bytes = .error failure) ↔
      (∃ failure, pipeline.read bytes = .error failure) ∨
        ∃ document, pipeline.read bytes = .ok document ∧
          ∃ failure, Filter.runAll now pipeline.filters document = .error failure := by
  simp only [accept_eq_error_iff, exists_or]
  rw [exists_comm]
  simp only [exists_and_left]

theorem endingOf_isFailure_iff {pipeline : Pipeline} {record : Record} :
    (pipeline.endingOf record).isFailure = true ↔
      (∃ failure, record.outcome = .error failure) ∨
        ∃ fetched, record.outcome = .ok (.fetched fetched) ∧
          ∃ failure, pipeline.accept record.turn.readings.filtered fetched.bytes = .error failure := by
  unfold endingOf ending
  cases record.outcome with
  | error failure => simp [Ending.isFailure]
  | ok outcome =>
    cases outcome with
    | notModified => simp [Ending.isFailure]
    | fetched fetched =>
      simp only [publication_eq]
      cases accepted : pipeline.accept record.turn.readings.filtered fetched.bytes <;>
        simp [accepted, Except.map, Ending.isFailure]

theorem fails_iff {pipeline : Pipeline} {record : Record} :
    pipeline.Fails record ↔ (pipeline.endingOf record).isFailure = true := by
  rw [endingOf_isFailure_iff]
  constructor
  · intro fails
    cases fails with
    | fetching failed => exact .inl ⟨_, failed⟩
    | reading obtained refused => exact .inr ⟨_, obtained, accept_error_iff.mpr (.inl ⟨_, refused⟩)⟩
    | filtering obtained read filters accepted rejected =>
      have failed := Filter.runAll_error_iff.mpr ⟨_, _, _, _, filters, accepted, rejected⟩
      exact .inr ⟨_, obtained, accept_error_iff.mpr (.inr ⟨_, read, _, failed⟩)⟩
  · rintro (⟨failure, failed⟩ | ⟨fetched, obtained, refused⟩)
    · exact .fetching failed
    · rcases accept_error_iff.mp refused with ⟨failure, unread⟩ | ⟨document, read, failure, failed⟩
      · exact .reading obtained unread
      · obtain ⟨before, filter, after, passed, filters, accepted, rejected⟩ :=
          Filter.runAll_error_iff.mp failed
        exact .filtering obtained read filters accepted rejected

/-- A cycle fails if the fetch, the reader or one of the filters does, and only then; what is served
    stays as it was. So after any cycles, whatever their fetches came to, the same is served as after
    those that succeeded; and that holds of the cycles that a resolver has run. -/
theorem failures_unseen (pipeline : Pipeline) :
    (∀ state record,
      ((pipeline.resume state record).1.isOk = false ↔ pipeline.Fails record) ∧
      (pipeline.Fails record → (pipeline.resume state record).2.served = state.served)) ∧
    (∀ state records, (pipeline.resumeAll state records).served =
      (pipeline.resumeAll state (pipeline.successes state records)).served) ∧
    ∀ turns, (pipeline.after turns).served =
      (pipeline.resumeAll .start (pipeline.successes .start (pipeline.history turns))).served := by
  have unseen : ∀ state records, (pipeline.resumeAll state records).served =
      (pipeline.resumeAll state (pipeline.successes state records)).served := by
    intro state records
    rw [resumeAll_served, resumeAll_served, successes_eq_filter, replay_filter]
  refine ⟨?_, unseen, ?_⟩
  · intro state record
    rw [fails_iff, resume_isOk, Bool.not_eq_false']
    refine ⟨Iff.rfl, fun failed => ?_⟩
    rw [resume_served]
    exact Ending.serve_of_isFailure failed _ _
  · intro turns
    rw [← unseen]
    exact congrArg State.served (pipeline.resumeAll_historyFrom .start turns).symm

/-- A document is published and then confirmed, while a fetch, the reader and a filter fail in between. -/
theorem failures_unseen_between :
    let read : Bytes → Except MetadataError Document := fun bytes =>
      match bytes with
      | [] => .error (.parse "Metadata document is empty")
      | [_] => .ok (.entity ⟨"a", some .epoch, none, [], none⟩)
      | _ => .ok (.group .empty)
    let pipeline : Pipeline :=
      { Pipeline.plain (.file "md") read with filters := [Filter.requiredValidUntil none] }
    let turn : Turn := ⟨.still .epoch, .zero, .empty, fun _ => .unanswered, true⟩
    let got : Bytes → Record := fun bytes => ⟨turn, .ok (.fetched ⟨bytes, .file, none⟩)⟩
    let records : List Record :=
      [got [1], ⟨turn, .error (.notFound "md")⟩, got [], got [1, 1], ⟨turn, .ok .notModified⟩]
    pipeline.successes .start records = [got [1], ⟨turn, .ok .notModified⟩] ∧
      (pipeline.resumeAll .start records).served =
        (pipeline.resumeAll .start [got [1], ⟨turn, .ok .notModified⟩]).served ∧
      pipeline.Fails (got [1, 1]) ∧
      ∀ state, (pipeline.resume state (got [1, 1])).2.served = state.served := by
  intro read pipeline turn got records
  have kept : pipeline.successes .start records = [got [1], ⟨turn, .ok .notModified⟩] := rfl
  have unseen := pipeline.failures_unseen.2.1 .start records
  have fails : pipeline.Fails (got [1, 1]) :=
    ((pipeline.failures_unseen.1 .start (got [1, 1])).1).mp rfl
  rw [kept] at unseen
  exact ⟨kept, unseen, fails, fun state => (pipeline.failures_unseen.1 state (got [1, 1])).2 fails⟩

end Pipeline

end Federation
