import Federation.Proofs.Cycle.Failure
import Federation.Proofs.Source.Backup

namespace Federation

namespace Source

/-- A first fetch has nothing to compare with, so only a server can say that nothing has changed. -/
theorem first_notModified_iff {source : Source} {now : Instant} {surroundings : Surroundings} :
    (source.fetch none now surroundings).1 = .ok .notModified ↔
      source.SaysUnchanged none surroundings := by
  constructor
  · intro done
    rcases fetch_notModified_cases done with ⟨_, _, _, asked⟩ | unchanged
    · cases asked
    · exact unchanged
  · exact fun unchanged => fetch_of_saysUnchanged unchanged now

end Source

namespace Resolver

variable {pipeline : Pipeline} {turn : Turn} {resolver : Resolver}

/-- A resolver with the index of what its first cycle fetched, read and passed through every filter. -/
def HasData (resolver : Resolver) (pipeline : Pipeline) (turn : Turn) : Prop :=
  ∃ fetched document, pipeline.fetchIn .start turn = .ok (.fetched fetched) ∧
    pipeline.accept turn.readings.filtered fetched.bytes = .ok document ∧
    resolver.state.index = pipeline.indexOf turn.readings.selected document

theorem start_isOk (fast : pipeline.settings.failsFast = true)
    (running : (start pipeline turn.readings turn.jitter turn.surroundings).resolver = .ok resolver) :
    (pipeline.ending turn.readings (pipeline.fetchIn .start turn)).isFailure = false := by
  have succeeded : (pipeline.runCycle turn.readings turn.jitter turn.surroundings .start).outcome.isOk =
      true := by
    unfold start at running
    dsimp only at running
    cases outcome : (pipeline.runCycle turn.readings turn.jitter turn.surroundings .start).outcome with
    | ok delay => rfl
    | error failure =>
      simp only [outcome, fast, if_true] at running
      cases running
  rw [pipeline.runCycle_isOk] at succeeded
  simpa using succeeded

theorem hasData_of_fetched (fast : pipeline.settings.failsFast = true)
    (running : (start pipeline turn.readings turn.jitter turn.surroundings).resolver = .ok resolver)
    {fetched : Fetched} (obtained : pipeline.fetchIn .start turn = .ok (.fetched fetched)) :
    resolver.HasData pipeline turn := by
  have succeeded := start_isOk fast running
  rw [obtained] at succeeded
  cases accepted : pipeline.accept turn.readings.filtered fetched.bytes with
  | error failure =>
    simp only [Pipeline.ending, Pipeline.publication_eq, accepted, Except.map, Ending.isFailure] at succeeded
    cases succeeded
  | ok document =>
    refine ⟨fetched, document, obtained, accepted, ?_⟩
    rw [start_ok running]
    exact Pipeline.next_index obtained accepted

theorem start_unchanged (unchanged : pipeline.fetchIn .start turn = .ok .notModified) :
    ∃ resolver, (start pipeline turn.readings turn.jitter turn.surroundings).resolver = .ok resolver ∧
      resolver.state.index = .empty ∧ resolver.state.isDegraded = false ∧
      ¬ resolver.HasData pipeline turn := by
  have succeeded : (pipeline.runCycle turn.readings turn.jitter turn.surroundings .start).outcome.isOk =
      true := by
    rw [pipeline.runCycle_isOk, unchanged]
    rfl
  have served := pipeline.next_served .start turn
  rw [unchanged] at served
  refine ⟨_, start_of_isOk succeeded, congrArg Served.index served, congrArg Served.isDegraded served, ?_⟩
  rintro ⟨fetched, _, obtained, _⟩
  cases unchanged.symm.trans obtained

/-- A server that says unasked that nothing has changed is the only way to a resolver without data where
    the first cycle must succeed. In the same way, where a URL gives no document and a backup file has one
    that is accepted, this is what the resolver starts with, unless the server says so. -/
theorem starts_with_data_iff (pipeline : Pipeline) (turn : Turn) :
    (pipeline.settings.failsFast = true →
      ∀ resolver, (start pipeline turn.readings turn.jitter turn.surroundings).resolver = .ok resolver →
        (resolver.HasData pipeline turn ↔
          ¬ pipeline.settings.source.SaysUnchanged none turn.surroundings)) ∧
    (pipeline.settings.source.SaysUnchanged none turn.surroundings →
      ∃ resolver, (start pipeline turn.readings turn.jitter turn.surroundings).resolver = .ok resolver ∧
        resolver.state.index = .empty) ∧
    ∀ address backup, pipeline.settings.source = .backedUrl address backup →
      (∀ fetched, Source.exchange address none turn.surroundings ≠ .ok (.fetched fetched)) →
      ∀ bytes document, turn.surroundings.files.read backup = .ok bytes → bytes ≠ [] →
        pipeline.accept turn.readings.filtered bytes = .ok document →
        ((∃ resolver,
            (start pipeline turn.readings turn.jitter turn.surroundings).resolver = .ok resolver ∧
            resolver.state.index = pipeline.indexOf turn.readings.selected document ∧
            resolver.state.isDegraded = true) ↔
          ¬ pipeline.settings.source.SaysUnchanged none turn.surroundings) := by
  have unasked : pipeline.fetchIn .start turn = .ok .notModified ↔
      pipeline.settings.source.SaysUnchanged none turn.surroundings := Source.first_notModified_iff
  refine ⟨?_, ?_, ?_⟩
  · intro fast resolver running
    rw [← unasked]
    constructor
    · rintro ⟨fetched, _, obtained, _⟩ unchanged
      cases unchanged.symm.trans obtained
    · intro changed
      cases outcome : pipeline.fetchIn .start turn with
      | error failure =>
        have succeeded := start_isOk fast running
        rw [outcome] at succeeded
        cases succeeded
      | ok obtained =>
        cases obtained with
        | notModified => exact absurd outcome changed
        | fetched fetched => exact hasData_of_fetched fast running outcome
  · intro unchanged
    obtain ⟨resolver, running, empty, _⟩ := start_unchanged (unasked.mpr unchanged)
    exact ⟨resolver, running, empty⟩
  · intro address backup backedUrl nothing bytes document kept some accepted
    rw [← unasked]
    constructor
    · rintro ⟨resolver, running, _, degraded⟩ unchanged
      obtain ⟨other, started, _, direct, _⟩ := start_unchanged unchanged
      rw [Except.ok.inj (running.symm.trans started), direct] at degraded
      cases degraded
    · intro changed
      cases exchanged : Source.exchange address none turn.surroundings with
      | ok outcome =>
        cases outcome with
        | fetched fetched => exact absurd exchanged (nothing fetched)
        | notModified => exact absurd (Pipeline.fetch_unchanged backedUrl .start exchanged).1 changed
      | error failure =>
        have restored := (Pipeline.fetch_down backedUrl .start exchanged).1
        rw [Source.readBackup_of_read kept some] at restored
        have running := start_of_accept restored accepted
        have kept : pipeline.accept turn.readings.filtered (Fetched.mk bytes .backup none).bytes =
            .ok document := accepted
        obtain ⟨publication, published, _⟩ := Pipeline.ending_of_accept kept
        have served := pipeline.next_served .start turn
        rw [restored, published] at served
        exact ⟨_, running, Pipeline.next_index restored accepted, congrArg Served.isDegraded served⟩

/-- Without a server, a resolver starts with what the backup file holds. -/
theorem starts_with_data_iff_offline :
    let address : Url := ⟨"http", "", none, some (.name "a"), none, .segments ["md"], none, none⟩
    let pipeline := Pipeline.plain (.backedUrl address "backup") Document.parse
    let body := [123, 34, 101, 110, 116, 105, 116, 121, 73, 68, 34, 58, 34, 97, 34, 125]
    let turn := Turn.offline ⟨[(["backup"], .file ⟨body, 0, true⟩)]⟩
    pipeline.settings.failsFast = true ∧
      ¬ pipeline.settings.source.SaysUnchanged none turn.surroundings ∧
      ∃ resolver, (start pipeline turn.readings turn.jitter turn.surroundings).resolver = .ok resolver ∧
        resolver.HasData pipeline turn ∧ resolver.state.isDegraded = true := by
  intro address pipeline body turn
  have anonymous : address.credentials? = none := Url.credentials?_eq_none rfl rfl
  have down := Source.exchange_plain anonymous (by decide) none turn.surroundings
  have unanswered : ¬ pipeline.settings.source.SaysUnchanged none turn.surroundings := by
    rintro ⟨_, response, answered, _⟩
    cases answered
  have nothing : ∀ fetched, Source.exchange address none turn.surroundings ≠ .ok (.fetched fetched) := by
    rw [down]
    intro fetched same
    cases same
  have accepted : pipeline.accept .epoch body = .ok (.entity ⟨"a", none, none, [], none⟩) :=
    Pipeline.accept_plain Document.parse_identifier .epoch
  obtain ⟨direct, _, backed⟩ := starts_with_data_iff pipeline turn
  obtain ⟨resolver, running, _, degraded⟩ :=
    (backed address "backup" rfl nothing body _ rfl (List.cons_ne_nil _ _) accepted).mpr unanswered
  exact ⟨rfl, unanswered, resolver, running, (direct rfl resolver running).mpr unanswered, degraded⟩

/-- A server that answers the first request with 304 leaves a resolver without data, although the first
    cycle must succeed and the backup file holds a document that is accepted. -/
theorem unchanged_starts_empty :
    let address : Url := ⟨"http", "", none, some (.name "a"), none, .segments ["md"], none, none⟩
    let pipeline := Pipeline.plain (.backedUrl address "backup") Document.parse
    let body := [123, 34, 101, 110, 116, 105, 116, 121, 73, 68, 34, 58, 34, 97, 34, 125]
    let turn : Turn := ⟨.still .epoch, .zero, ⟨[(["backup"], .file ⟨body, 0, true⟩)]⟩,
      fun _ => .answered ⟨304, [], none⟩, true⟩
    pipeline.settings.failsFast = true ∧
      turn.surroundings.files.read "backup" = .ok body ∧
      pipeline.accept .epoch body = .ok (.entity ⟨"a", none, none, [], none⟩) ∧
      ∃ resolver, (start pipeline turn.readings turn.jitter turn.surroundings).resolver = .ok resolver ∧
        ¬ resolver.HasData pipeline turn ∧ resolver.state.index = .empty ∧
        resolver.state.isDegraded = false := by
  intro address pipeline body turn
  have anonymous : address.credentials? = none := Url.credentials?_eq_none rfl rfl
  have same : address.withoutCredentials = address := Url.withoutCredentials_of_anonymous anonymous
  have unasked : pipeline.settings.source.SaysUnchanged none turn.surroundings :=
    ⟨by rw [same]; decide, _, rfl, rfl⟩
  have unchanged : pipeline.fetchIn .start turn = .ok .notModified :=
    Source.first_notModified_iff.mpr unasked
  obtain ⟨resolver, running, empty, direct, without⟩ := start_unchanged unchanged
  exact ⟨rfl, rfl, Pipeline.accept_plain Document.parse_identifier .epoch, resolver, running, without,
    empty, direct⟩

end Resolver

end Federation
