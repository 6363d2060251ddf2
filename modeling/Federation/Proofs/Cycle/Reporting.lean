import Federation.Proofs.Cycle.Failure
import Federation.Proofs.Document.Parsing
import Federation.Proofs.Source.Backup

namespace Federation

def Filter.IsBuiltIn (filter : Filter) : Prop :=
  (∃ longest, filter = .requiredValidUntil longest) ∨ ∃ kinds, filter = .entityRole kinds

theorem Filter.IsBuiltIn.run_error {filter : Filter} (builtIn : filter.IsBuiltIn) {now : Instant}
    {document : Document} {error : MetadataError} (failed : filter.run now document = .error error) :
    error.isFetchError = false := by
  rcases builtIn with ⟨longest, rfl⟩ | ⟨kinds, rfl⟩
  · simp only [requiredValidUntil] at failed
    split at failed
    · rw [← Except.error.inj failed]; rfl
    · split at failed
      · cases failed
      · split at failed
        · rw [← Except.error.inj failed]; rfl
        · cases failed
  · cases failed

theorem State.served_lastSuccess (state : State) : state.served.lastSuccess = state.lastSuccess := rfl

def Ending.failure? (ending : Ending) (started : Instant) : Option Failure :=
  match ending with
  | failed error => some ⟨started, error.message, error.isFetchError⟩
  | _ => none

namespace Pipeline

variable {pipeline : Pipeline}

theorem complete_lastFailure (pipeline : Pipeline) (readings : Readings) (jitter : Duration)
    (outcome : Except MetadataError FetchOutcome) (state : State) :
    (pipeline.complete readings jitter outcome state).2.lastFailure =
      (pipeline.ending readings outcome).failure? readings.started := by
  rcases pipeline.complete_cases readings jitter outcome state with
    ⟨_, _, ended, done⟩ | ⟨ended, done⟩ | ⟨_, _, ended, done⟩ <;> rw [ended, done] <;> rfl

theorem next_lastFailure (pipeline : Pipeline) (state : State) (turn : Turn) :
    (pipeline.next state turn).lastFailure =
      (pipeline.ending turn.readings (pipeline.fetchIn state turn)).failure? turn.readings.started :=
  pipeline.complete_lastFailure _ _ _ _

/-- Of the failures of a cycle, only those of its fetch are told as such. -/
theorem isFetchError_iff (reads : pipeline.read = Document.parse)
    (builtIn : ∀ filter ∈ pipeline.filters, filter.IsBuiltIn) {state : State} {turn : Turn}
    {error : MetadataError}
    (failed : pipeline.ending turn.readings (pipeline.fetchIn state turn) = .failed error) :
    error.isFetchError = true ↔ ∃ cause, pipeline.fetchIn state turn = .error cause := by
  cases outcome : pipeline.fetchIn state turn with
  | error cause =>
    rw [outcome] at failed
    have same : cause = error := Ending.failed.inj failed
    have told := Source.fetch_error outcome
    rw [same] at told
    exact iff_of_true told ⟨cause, rfl⟩
  | ok obtained =>
    refine iff_of_false (fun told => ?_) (fun ⟨cause, other⟩ => by cases other)
    rw [outcome] at failed
    cases obtained with
    | notModified => cases failed
    | fetched fetched =>
      have refused : pipeline.accept turn.readings.filtered fetched.bytes = .error error := by
        simp only [ending, publication_eq] at failed
        cases accepted : pipeline.accept turn.readings.filtered fetched.bytes with
        | error cause => rw [accepted] at failed; exact congrArg _ (Ending.failed.inj failed)
        | ok document => rw [accepted] at failed; cases failed
      rcases accept_eq_error_iff.mp refused with unread | ⟨document, _, ran⟩
      · rw [reads] at unread
        obtain ⟨message, rfl⟩ := Document.parse_error unread
        cases told
      · obtain ⟨before, filter, after, passed, filters, _, rejected⟩ := Filter.runAll_error_iff.mp ran
        have among : filter ∈ pipeline.filters := by simp [filters]
        rw [(builtIn filter among).run_error rejected] at told
        cases told

theorem replay_snoc (pipeline : Pipeline) (records : List Record) (record : Record) (served : Served) :
    pipeline.replay (records ++ [record]) served =
      (pipeline.endingOf record).serve record.turn.readings.published (pipeline.replay records served) := by
  unfold replay
  rw [List.foldl_append]
  rfl

theorem replay_entityCount (pipeline : Pipeline) (records : List Record) :
    (pipeline.replay records State.start.served).entityCount =
      (pipeline.replay records State.start.served).index.size := by
  induction records using List.reverseRecOn with
  | nil => rfl
  | append_singleton records record ih =>
    rw [replay_snoc]
    cases pipeline.endingOf record with
    | failed error => exact ih
    | confirmed => rfl
    | published fetched publication => rfl

theorem replay_lastSuccess (pipeline : Pipeline) (records : List Record) :
    (pipeline.replay records State.start.served).lastSuccess.isSome = true ↔
      ∃ record ∈ records, ¬ pipeline.Fails record := by
  induction records using List.reverseRecOn with
  | nil => simp [replay, State.served, State.start]
  | append_singleton records record ih =>
    have either : (∃ other ∈ records ++ [record], ¬ pipeline.Fails other) ↔
        (∃ other ∈ records, ¬ pipeline.Fails other) ∨ ¬ pipeline.Fails record := by
      simp [or_and_right, exists_or]
    rw [replay_snoc, either, ← ih, fails_iff]
    cases pipeline.endingOf record <;> simp [Ending.serve, Ending.isFailure]

def originOf? (pipeline : Pipeline) (record : Record) : Option Origin :=
  match pipeline.endingOf record with
  | .published fetched _ => some fetched.origin
  | _ => none

def lastOrigin? (pipeline : Pipeline) (records : List Record) : Option Origin :=
  (records.filterMap pipeline.originOf?).getLast?

theorem lastOrigin?_snoc (pipeline : Pipeline) (records : List Record) (record : Record) :
    pipeline.lastOrigin? (records ++ [record]) =
      (pipeline.originOf? record).or (pipeline.lastOrigin? records) := by
  unfold lastOrigin?
  rw [List.filterMap_append, List.getLast?_append]
  cases origin : pipeline.originOf? record <;> simp [origin]

/-- A state is degraded if what was published last came from the backup; and only if it did not, there
    are validators. -/
theorem after_isDegraded (pipeline : Pipeline) {turns : List Turn}
    (conditional : ∀ turn ∈ turns, turn.surroundings.AnswersConditions) :
    ((pipeline.after turns).served.isDegraded = true ↔
        pipeline.lastOrigin? (pipeline.history turns) = some .backup) ∧
      ((pipeline.after turns).served.validators ≠ none →
        pipeline.lastOrigin? (pipeline.history turns) ≠ some .backup) := by
  induction turns using List.reverseRecOn with
  | nil => simp [after, history, historyFrom, lastOrigin?, State.served, State.start]
  | append_singleton turns turn ih =>
    have earlier := ih fun other member => conditional other (List.mem_append_left _ member)
    have served := conditional turn (by simp)
    rw [after_snoc_served, history_snoc, lastOrigin?_snoc]
    have origin : pipeline.originOf? ⟨turn, pipeline.fetchIn (pipeline.after turns) turn⟩ =
        match pipeline.ending turn.readings (pipeline.fetchIn (pipeline.after turns) turn) with
        | .published fetched _ => some fetched.origin
        | _ => none := rfl
    rw [origin]
    cases ended : pipeline.ending turn.readings (pipeline.fetchIn (pipeline.after turns) turn) with
    | failed error => exact earlier
    | confirmed =>
      -- There was something to ask about, so nothing came from the backup.
      have asked := Source.previous_of_notModified served (ending_confirmed ended)
      have direct := earlier.2 asked
      refine ⟨iff_of_false Bool.false_ne_true direct, fun _ => direct⟩
    | published fetched publication =>
      have obtained := (ending_published ended).1
      refine ⟨by simp [Ending.serve], fun marked backup => marked ?_⟩
      exact Source.fetch_backup obtained (Option.some.inj backup)

end Pipeline

namespace Life

variable {pipeline : Pipeline} {turns : List Turn} {resolver : Resolver}

theorem turns_ne_nil (life : Life pipeline turns resolver) :
    ∃ earlier last, turns = earlier ++ [last] := by
  induction life with
  | started turn running => exact ⟨[], turn, rfl⟩
  | refreshed life turn running ih => exact ⟨_, turn, rfl⟩
  | ended life ih => exact ih

theorem lastFailure (life : Life pipeline turns resolver) :
    resolver.state.lastFailure = (pipeline.after turns).lastFailure := by
  induction life with
  | started turn running =>
    rw [Resolver.start_ok running]
    rfl
  | @refreshed turns resolver life turn running ih =>
    obtain ⟨same, served⟩ := life.served
    have fetched := pipeline.fetchIn_of_validators (congrArg Served.validators served) turn
    rw [Resolver.refresh_running running, same]
    show (pipeline.next resolver.state turn).lastFailure = _
    rw [pipeline.next_lastFailure, pipeline.after_snoc, pipeline.next_lastFailure, fetched]
  | @ended turns resolver life ih =>
    rw [← ih]
    unfold Resolver.shutDown
    split <;> rfl

/-- Whatever cycles a resolver with the parser and the filters of the library has run, it says how many
    entities it serves, whether the last cycle failed and whether it failed at the fetch, whether any cycle
    succeeded, and whether what was published last came from the backup. -/
theorem reports_truth (life : Life pipeline turns resolver) (reads : pipeline.read = Document.parse)
    (builtIn : ∀ filter ∈ pipeline.filters, filter.IsBuiltIn)
    (conditional : ∀ turn ∈ turns, turn.surroundings.AnswersConditions) :
    resolver.state.entityCount = resolver.state.index.entities.length ∧
    (∃ last, (pipeline.history turns).getLast? = some last ∧
      (resolver.state.lastFailure.isSome = true ↔ pipeline.Fails last) ∧
      ∀ failure, resolver.state.lastFailure = some failure →
        (failure.isFetchError = true ↔ ∃ cause, last.outcome = .error cause)) ∧
    (resolver.state.lastSuccess.isSome = true ↔
      ∃ record ∈ pipeline.history turns, ¬ pipeline.Fails record) ∧
    (resolver.state.isDegraded = true ↔
      pipeline.lastOrigin? (pipeline.history turns) = some .backup) := by
  have served := life.served.2
  have replayed := served.trans (pipeline.after_served turns)
  refine ⟨?_, ?_, ?_, ?_⟩
  · have count := pipeline.replay_entityCount (pipeline.history turns)
    rw [← replayed] at count
    exact count.trans resolver.state.index.ordered.length_toList.symm
  · obtain ⟨earlier, last, rfl⟩ := life.turns_ne_nil
    have failure := life.lastFailure
    rw [pipeline.after_snoc, pipeline.next_lastFailure] at failure
    refine ⟨_, (congrArg List.getLast? (pipeline.history_snoc earlier last)).trans List.getLast?_concat,
      ?_, ?_⟩
    · rw [failure, Pipeline.fails_iff]
      show _ ↔ (pipeline.ending _ _).isFailure = true
      cases pipeline.ending last.readings (pipeline.fetchIn (pipeline.after earlier) last) <;>
        simp [Ending.failure?, Ending.isFailure]
    · intro remembered present
      rw [failure] at present
      cases ended : pipeline.ending last.readings (pipeline.fetchIn (pipeline.after earlier) last) with
      | failed error =>
        rw [ended] at present
        rw [← Option.some.inj present]
        exact Pipeline.isFetchError_iff reads builtIn ended
      | confirmed => rw [ended] at present; cases present
      | published fetched publication => rw [ended] at present; cases present
  · rw [← State.served_lastSuccess, replayed]
    exact pipeline.replay_lastSuccess _
  · rw [← State.served_isDegraded, served]
    exact (pipeline.after_isDegraded conditional).1

/-- What was published from the backup stays degraded while an empty body is refused. -/
theorem reports_truth_degraded :
    let address : Url := ⟨"http", "", none, some (.name "a"), none, .segments ["md"], none, none⟩
    let body := [123, 34, 101, 110, 116, 105, 116, 121, 73, 68, 34, 58, 34, 97, 34, 125]
    let stored : Storage := ⟨[(["backup"], .file ⟨body, 0, true⟩)]⟩
    let plain := Pipeline.plain (.backedUrl address "backup") Document.parse
    let pipeline := { plain with filters := [Filter.entityRole [.idpSso]] }
    let turns := [Turn.offline stored, Turn.delivering [] stored]
    ∃ resolver, Life pipeline turns resolver ∧ pipeline.read = Document.parse ∧
      (∀ filter ∈ pipeline.filters, filter.IsBuiltIn) ∧
      (∀ turn ∈ turns, turn.surroundings.AnswersConditions) ∧
      resolver.state.isDegraded = true ∧ resolver.state.lastSuccess.isSome = true ∧
      ∃ failure, resolver.state.lastFailure = some failure ∧ failure.isFetchError = false := by
  intro address body stored plain pipeline turns
  have anonymous : address.credentials? = none := Url.credentials?_eq_none rfl rfl
  have exchanged := Source.exchange_plain anonymous (by decide)
  have only : pipeline.settings.source = .backedUrl address "backup" := rfl
  have builtIn : ∀ filter ∈ pipeline.filters, filter.IsBuiltIn := by
    intro filter member
    exact .inr ⟨[.idpSso], List.mem_singleton.mp member⟩
  have conditional : ∀ turn ∈ turns, turn.surroundings.AnswersConditions := by
    intro turn member request response answered unchanged
    rcases List.mem_cons.mp member with rfl | other
    · cases answered
    · rw [List.mem_singleton.mp other] at answered
      cases answered
      cases unchanged
  have restored : pipeline.fetchIn .start (Turn.offline stored) = .ok (.fetched ⟨body, .backup, none⟩) := by
    rw [(Pipeline.fetch_down only .start (exchanged _ (Turn.offline stored).surroundings)).1]
    exact Source.readBackup_of_read rfl (List.cons_ne_nil _ _) _
  have accepted : pipeline.accept .epoch body = .ok (.group .empty) := by
    have reader : pipeline.read = Document.parse := rfl
    unfold Pipeline.accept
    rw [reader, Document.parse_identifier]
    rfl
  have kept : pipeline.accept (Turn.offline stored).readings.filtered (Fetched.mk body .backup none).bytes =
      .ok (.group .empty) := accepted
  obtain ⟨publication, published, _⟩ := Pipeline.ending_of_accept kept
  have emptied : pipeline.fetchIn (pipeline.after [Turn.offline stored]) (Turn.delivering [] stored) =
      .ok (.fetched ⟨[], .network, some (.response none none)⟩) :=
    (Pipeline.fetch_delivered only _ (exchanged _ _)).1
  have recorded : pipeline.history turns = [⟨Turn.offline stored, .ok (.fetched ⟨body, .backup, none⟩)⟩,
      ⟨Turn.delivering [] stored, .ok (.fetched ⟨[], .network, some (.response none none)⟩)⟩] := by
    have history := pipeline.history_snoc [Turn.offline stored] (Turn.delivering [] stored)
    rw [emptied] at history
    rw [← restored]
    exact history
  have life : Life pipeline turns _ :=
    (Life.started (Turn.offline stored) (Resolver.start_of_accept restored accepted)).refreshed
      (Turn.delivering [] stored) rfl
  obtain ⟨_, ⟨last, latest, failed, told⟩, succeeded, degraded⟩ := life.reports_truth rfl builtIn conditional
  rw [recorded] at latest succeeded degraded
  have unread : pipeline.read [] = .error (.parse "Metadata document is empty") := rfl
  have refused : pipeline.Fails last := by
    rw [← Option.some.inj latest]
    exact .reading rfl unread
  obtain ⟨failure, present⟩ := Option.isSome_iff_exists.mp (failed.mpr refused)
  have first : pipeline.endingOf ⟨Turn.offline stored, .ok (.fetched ⟨body, .backup, none⟩)⟩ =
      .published ⟨body, .backup, none⟩ publication := published
  have second : pipeline.originOf? ⟨Turn.delivering [] stored,
      .ok (.fetched ⟨[], .network, some (.response none none)⟩)⟩ = none := rfl
  refine ⟨_, life, rfl, builtIn, conditional, degraded.mpr ?_, succeeded.mpr ?_, failure, present, ?_⟩
  · unfold Pipeline.lastOrigin?
    rw [List.filterMap_cons_some (b := .backup) (by rw [Pipeline.originOf?, first]),
      List.filterMap_cons_none second]
    rfl
  · refine ⟨_, List.mem_cons_self, ?_⟩
    rw [Pipeline.fails_iff, first]
    exact Bool.false_ne_true
  · rw [← Bool.not_eq_true, told failure present, ← Option.some.inj latest]
    rintro ⟨cause, other⟩
    cases other

end Life

end Federation
