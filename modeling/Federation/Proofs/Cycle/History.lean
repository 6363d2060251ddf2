import Mathlib.Data.List.Induction
import Federation.Proofs.Cycle.Ending
import Federation.Resolver.Timer

namespace Federation

structure Turn where
  readings : Readings
  jitter : Duration
  surroundings : Surroundings

structure Record where
  turn : Turn
  outcome : Except MetadataError FetchOutcome

theorem Record.last_of_kind (kind : Record → Prop) (records : List Record) :
    (∀ record ∈ records, ¬ kind record) ∨
      ∃ earlier last since, records = earlier ++ last :: since ∧ kind last ∧
        ∀ record ∈ since, ¬ kind record := by
  induction records using List.reverseRecOn with
  | nil => exact .inl fun _ member => absurd member List.not_mem_nil
  | append_singleton records record ih =>
    by_cases last : kind record
    · exact .inr ⟨records, record, [], rfl, last, fun _ member => absurd member List.not_mem_nil⟩
    · rcases ih with never | ⟨earlier, found, since, rfl, holds, others⟩
      · left
        intro other member
        rcases List.mem_append.mp member with old | new
        · exact never other old
        · exact List.mem_singleton.mp new ▸ last
      · refine .inr ⟨earlier, found, since ++ [record], by simp, holds, ?_⟩
        intro other member
        rcases List.mem_append.mp member with old | new
        · exact others other old
        · exact List.mem_singleton.mp new ▸ last

namespace Pipeline

def next (pipeline : Pipeline) (state : State) (turn : Turn) : State :=
  (pipeline.runCycle turn.readings turn.jitter turn.surroundings state).state

def after (pipeline : Pipeline) (turns : List Turn) : State := turns.foldl pipeline.next .start

def fetchIn (pipeline : Pipeline) (state : State) (turn : Turn) : Except MetadataError FetchOutcome :=
  (pipeline.settings.source.fetch state.validators turn.readings.started turn.surroundings).1

def historyFrom (pipeline : Pipeline) (state : State) : List Turn → List Record
  | [] => []
  | turn :: rest => ⟨turn, pipeline.fetchIn state turn⟩ :: pipeline.historyFrom (pipeline.next state turn) rest

def history (pipeline : Pipeline) (turns : List Turn) : List Record := pipeline.historyFrom .start turns

def endingOf (pipeline : Pipeline) (record : Record) : Ending :=
  pipeline.ending record.turn.readings record.outcome

def replay (pipeline : Pipeline) (records : List Record) (served : Served) : Served :=
  records.foldl
    (fun served record => (pipeline.endingOf record).serve record.turn.readings.published served) served

theorem after_snoc (pipeline : Pipeline) (turns : List Turn) (turn : Turn) :
    pipeline.after (turns ++ [turn]) = pipeline.next (pipeline.after turns) turn := by
  unfold after
  rw [List.foldl_append]
  rfl

theorem historyFrom_append (pipeline : Pipeline) (state : State) (turns more : List Turn) :
    pipeline.historyFrom state (turns ++ more) =
      pipeline.historyFrom state turns ++
        pipeline.historyFrom (turns.foldl pipeline.next state) more := by
  induction turns generalizing state with
  | nil => rfl
  | cons turn rest ih => simp only [List.cons_append, historyFrom, List.foldl_cons, ih]

theorem history_snoc (pipeline : Pipeline) (turns : List Turn) (turn : Turn) :
    pipeline.history (turns ++ [turn]) =
      pipeline.history turns ++ [⟨turn, pipeline.fetchIn (pipeline.after turns) turn⟩] :=
  pipeline.historyFrom_append .start turns [turn]

theorem history_length (pipeline : Pipeline) (turns : List Turn) :
    (pipeline.history turns).length = turns.length := by
  induction turns using List.reverseRecOn with
  | nil => rfl
  | append_singleton turns turn ih => rw [history_snoc, List.length_append, List.length_append, ih]; rfl

/-- A record of a history is of the cycle that came then. -/
theorem history_split {pipeline : Pipeline} {turns : List Turn} {earlier since : List Record}
    {record : Record} (split : pipeline.history turns = earlier ++ record :: since) :
    ∃ before rest, turns = before ++ record.turn :: rest ∧ before.length = earlier.length ∧
      pipeline.history before = earlier ∧
      record.outcome = pipeline.fetchIn (pipeline.after before) record.turn := by
  have length := pipeline.history_length turns
  rw [split, List.length_append, List.length_cons] at length
  have within : earlier.length < turns.length := by omega
  have parts : turns = turns.take earlier.length ++ turns[earlier.length] :: turns.drop (earlier.length + 1) := by
    rw [List.getElem_cons_drop, List.take_append_drop]
  have whole := split
  rw [parts] at whole
  unfold history at whole
  rw [historyFrom_append] at whole
  have short : (turns.take earlier.length).length = earlier.length := by
    rw [List.length_take]
    omega
  have same := List.append_inj whole ((pipeline.history_length _).trans short)
  obtain ⟨recorded, tail⟩ := List.cons.inj same.2
  subst recorded
  exact ⟨_, _, parts, short, same.1, rfl⟩

theorem next_served (pipeline : Pipeline) (state : State) (turn : Turn) :
    (pipeline.next state turn).served =
      (pipeline.ending turn.readings (pipeline.fetchIn state turn)).serve
        turn.readings.published state.served :=
  pipeline.complete_served _ _ _ _

/-- A cycle that gets bytes which the reader and the filters accept publishes their document. -/
theorem next_index {pipeline : Pipeline} {state : State} {turn : Turn} {fetched : Fetched}
    {document : Document} (obtained : pipeline.fetchIn state turn = .ok (.fetched fetched))
    (accepted : pipeline.accept turn.readings.filtered fetched.bytes = .ok document) :
    (pipeline.next state turn).index = pipeline.indexOf turn.readings.selected document := by
  obtain ⟨publication, published, index⟩ := ending_of_accept accepted
  have served := pipeline.next_served state turn
  rw [obtained, published] at served
  exact (congrArg Served.index served).trans index

theorem runCycle_isOk (pipeline : Pipeline) (state : State) (turn : Turn) :
    (pipeline.runCycle turn.readings turn.jitter turn.surroundings state).outcome.isOk =
      !(pipeline.ending turn.readings (pipeline.fetchIn state turn)).isFailure :=
  pipeline.complete_isOk _ _ _ _

theorem after_snoc_served (pipeline : Pipeline) (turns : List Turn) (turn : Turn) :
    (pipeline.after (turns ++ [turn])).served =
      (pipeline.ending turn.readings (pipeline.fetchIn (pipeline.after turns) turn)).serve
        turn.readings.published (pipeline.after turns).served := by
  rw [after_snoc]
  exact pipeline.next_served _ turn

theorem after_served (pipeline : Pipeline) (turns : List Turn) :
    (pipeline.after turns).served = pipeline.replay (pipeline.history turns) State.start.served := by
  induction turns using List.reverseRecOn with
  | nil => rfl
  | append_singleton turns turn ih =>
    rw [after_snoc_served, ih, history_snoc, replay, replay, List.foldl_append]
    rfl

def Publishes (pipeline : Pipeline) (record : Record) : Prop :=
  ∃ fetched publication, pipeline.endingOf record = .published fetched publication

def confirmedAt (pipeline : Pipeline) (records : List Record) : List Instant :=
  records.filterMap fun record =>
    match pipeline.endingOf record with
    | .confirmed => some record.turn.readings.published
    | _ => none

/-- While nothing is published, validators stay and the index is only pruned. -/
theorem replay_unpublished {pipeline : Pipeline} {records : List Record}
    (quiet : ∀ record ∈ records, ¬ pipeline.Publishes record) (served : Served) :
    (pipeline.replay records served).validators = served.validators ∧
      (pipeline.replay records served).index =
        (pipeline.confirmedAt records).foldl Index.prune served.index := by
  induction records generalizing served with
  | nil => exact ⟨rfl, rfl⟩
  | cons record rest ih =>
    have others := ih (fun other member => quiet other (List.mem_cons_of_mem _ member))
      ((pipeline.endingOf record).serve record.turn.readings.published served)
    have here := quiet record List.mem_cons_self
    unfold replay confirmedAt at others ⊢
    rw [List.foldl_cons, others.1, others.2]
    cases ended : pipeline.endingOf record with
    | failed failure => simp only [List.filterMap_cons, ended, Ending.serve, and_self]
    | confirmed => simp only [List.filterMap_cons, ended, Ending.serve, List.foldl_cons, and_self]
    | published fetched publication => exact absurd ⟨fetched, publication, ended⟩ here

theorem replay_publisher {pipeline : Pipeline} {earlier since : List Record} {publisher : Record}
    {fetched : Fetched} {publication : Publication}
    (published : pipeline.endingOf publisher = .published fetched publication)
    (quiet : ∀ record ∈ since, ¬ pipeline.Publishes record) (served : Served) :
    (pipeline.replay (earlier ++ publisher :: since) served).validators = fetched.validators ∧
      (pipeline.replay (earlier ++ publisher :: since) served).index =
        (pipeline.confirmedAt since).foldl Index.prune publication.index := by
  have later := replay_unpublished quiet ((pipeline.endingOf publisher).serve
    publisher.turn.readings.published (pipeline.replay earlier served))
  unfold replay at later ⊢
  rw [List.foldl_append, List.foldl_cons, later.1, later.2, published]
  exact ⟨rfl, rfl⟩

theorem fetchIn_of_validators (pipeline : Pipeline) {state other : State}
    (same : state.validators = other.validators) (turn : Turn) :
    pipeline.fetchIn state turn = pipeline.fetchIn other turn := by
  unfold fetchIn
  rw [same]

end Pipeline

/-- The lives of a resolver with a pipeline: it starts, it runs cycles, on demand or when its timer
    fires, and it may be shut down. -/
inductive Life (pipeline : Pipeline) : List Turn → Resolver → Prop where
  | started (turn : Turn) {resolver : Resolver}
    (running : (Resolver.start pipeline turn.readings turn.jitter turn.surroundings).resolver =
      .ok resolver) : Life pipeline [turn] resolver
  | refreshed {turns : List Turn} {resolver : Resolver} (life : Life pipeline turns resolver)
    (turn : Turn) (running : resolver.isShutDown = false) :
    Life pipeline (turns ++ [turn])
      (resolver.refresh turn.readings turn.jitter turn.surroundings).resolver
  | ended {turns : List Turn} {resolver : Resolver} (life : Life pipeline turns resolver) :
    Life pipeline turns resolver.shutDown

theorem Resolver.start_cases (pipeline : Pipeline) (turn : Turn) :
    let failed := (pipeline.ending turn.readings (pipeline.fetchIn .start turn)).isFailure = true ∧
      pipeline.settings.failsFast = true
    (failed ∧ ∃ cause, (start pipeline turn.readings turn.jitter turn.surroundings).resolver =
      .error (.initialization pipeline.settings.id cause)) ∨
    (¬ failed ∧ (start pipeline turn.readings turn.jitter turn.surroundings).resolver =
      .ok ⟨pipeline, pipeline.next .start turn, false⟩) := by
  intro failed
  have isOk := pipeline.runCycle_isOk .start turn
  unfold start
  dsimp only
  split
  · rename_i succeeded
    rw [succeeded] at isOk
    refine .inr ⟨fun failed => ?_, rfl⟩
    rw [failed.1] at isOk
    cases isOk
  · rename_i cause outcome
    rw [outcome] at isOk
    split
    · rename_i fast
      have fails : false = !(pipeline.ending turn.readings (pipeline.fetchIn .start turn)).isFailure := isOk
      exact .inl ⟨⟨by simpa using fails.symm, fast⟩, cause, rfl⟩
    · rename_i slow
      exact .inr ⟨fun failed => slow failed.2, rfl⟩

theorem Resolver.start_ok {pipeline : Pipeline} {turn : Turn} {resolver : Resolver}
    (running : (Resolver.start pipeline turn.readings turn.jitter turn.surroundings).resolver =
      .ok resolver) : resolver = ⟨pipeline, pipeline.next .start turn, false⟩ := by
  rcases Resolver.start_cases pipeline turn with ⟨_, cause, failed⟩ | ⟨_, started⟩
  · cases running.symm.trans failed
  · exact Except.ok.inj (running.symm.trans started)

theorem Resolver.start_of_isOk {pipeline : Pipeline} {turn : Turn}
    (succeeded : (pipeline.runCycle turn.readings turn.jitter turn.surroundings .start).outcome.isOk =
      true) :
    (Resolver.start pipeline turn.readings turn.jitter turn.surroundings).resolver =
      .ok ⟨pipeline, pipeline.next .start turn, false⟩ := by
  rw [pipeline.runCycle_isOk .start turn] at succeeded
  rcases Resolver.start_cases pipeline turn with ⟨⟨failed, _⟩, _⟩ | ⟨_, started⟩
  · rw [failed] at succeeded
    cases succeeded
  · exact started

theorem Resolver.start_of_accept {pipeline : Pipeline} {turn : Turn} {fetched : Fetched}
    {document : Document} (obtained : pipeline.fetchIn .start turn = .ok (.fetched fetched))
    (accepted : pipeline.accept turn.readings.filtered fetched.bytes = .ok document) :
    (Resolver.start pipeline turn.readings turn.jitter turn.surroundings).resolver =
      .ok ⟨pipeline, pipeline.next .start turn, false⟩ := by
  apply Resolver.start_of_isOk
  obtain ⟨publication, published, _⟩ := Pipeline.ending_of_accept accepted
  rw [pipeline.runCycle_isOk .start turn, obtained, published]
  rfl

theorem Resolver.refresh_running {resolver : Resolver} (running : resolver.isShutDown = false)
    (turn : Turn) :
    (resolver.refresh turn.readings turn.jitter turn.surroundings).resolver =
      { resolver with state := resolver.pipeline.next resolver.state turn } := by
  unfold Resolver.refresh
  rw [running, if_neg Bool.false_ne_true]
  rfl

theorem Resolver.shutDown_served (resolver : Resolver) :
    resolver.shutDown.pipeline = resolver.pipeline ∧
      resolver.shutDown.state.served = resolver.state.served := by
  unfold Resolver.shutDown
  split <;> exact ⟨rfl, rfl⟩

namespace Life

/-- However a resolver came to its cycles, it serves what these cycles leave. -/
theorem served {pipeline : Pipeline} {turns : List Turn} {resolver : Resolver}
    (life : Life pipeline turns resolver) :
    resolver.pipeline = pipeline ∧ resolver.state.served = (pipeline.after turns).served := by
  induction life with
  | started turn running =>
    rw [Resolver.start_ok running]
    exact ⟨rfl, rfl⟩
  | @refreshed turns resolver life turn running ih =>
    obtain ⟨same, served⟩ := ih
    have fetched := pipeline.fetchIn_of_validators (congrArg Served.validators served) turn
    rw [Resolver.refresh_running running, same]
    refine ⟨rfl, (pipeline.next_served resolver.state turn).trans ?_⟩
    rw [Pipeline.after_snoc_served, fetched, served]
  | @ended turns resolver life ih =>
    obtain ⟨same, served⟩ := resolver.shutDown_served
    exact ⟨same.trans ih.1, served.trans ih.2⟩

theorem index_eq_replay {pipeline : Pipeline} {turns : List Turn} {resolver : Resolver}
    (life : Life pipeline turns resolver) :
    resolver.state.index = (pipeline.replay (pipeline.history turns) State.start.served).index := by
  rw [← pipeline.after_served, ← life.served.2]
  rfl

theorem index_eq {pipeline : Pipeline} {turns : List Turn} {resolver : Resolver}
    (life : Life pipeline turns resolver) {earlier since : List Record} {publisher : Record}
    {fetched : Fetched} {publication : Publication}
    (split : pipeline.history turns = earlier ++ publisher :: since)
    (published : pipeline.endingOf publisher = .published fetched publication)
    (quiet : ∀ record ∈ since, ¬ pipeline.Publishes record) :
    resolver.state.index = (pipeline.confirmedAt since).foldl Index.prune publication.index := by
  rw [life.index_eq_replay, split, (Pipeline.replay_publisher published quiet _).2]

/-- The cycles that a timer runs are part of the life. -/
theorem runDue {pipeline : Pipeline} {turns : List Turn} {resolver : Resolver}
    (life : Life pipeline turns resolver) (running : resolver.isShutDown = false)
    (deadline finish : Nat) (readings : Readings) (surroundings : Surroundings) :
    ∃ more, Life pipeline (turns ++ more)
      (TimedResolver.runDue resolver deadline finish readings surroundings).1 := by
  induction resolver, deadline, surroundings using
    TimedResolver.runDue.induct finish readings generalizing turns with
  | case1 resolver deadline surroundings due cycle delay progress =>
    rename_i ih
    have later := life.refreshed ⟨readings, .zero, surroundings⟩ running
    rw [Resolver.refresh_running running] at later
    obtain ⟨more, reached⟩ := ih later running
    unfold TimedResolver.runDue
    rw [dif_pos due]
    rw [List.append_assoc] at reached
    exact ⟨_, reached⟩
  | case2 resolver deadline surroundings done =>
    unfold TimedResolver.runDue
    rw [dif_neg done]
    exact ⟨[], by rwa [List.append_nil]⟩

end Life

end Federation
