import Federation.Proofs.Cycle.Reporting
import Federation.Proofs.Cycle.Validity
import Federation.Proofs.Filter.Running
import Federation.Proofs.Index.Aging
import Federation.Proofs.Time.Leap

namespace Federation

namespace Filter

variable {earlier later : Instant} {filter : Filter} {filters : List Filter} {document : Document}
  {outcome : FilterOutcome}

/-- Between the two instants the filter's limit, if it has one, can come nearer. -/
def ComesNearer (earlier later : Instant) (filter : Filter) : Prop :=
  ∃ longest, filter = requiredValidUntil (some longest) ∧ earlier.LeapsPast later longest

theorem not_comesNearer (plain : later.IsPlain) (filter : Filter) : ¬ filter.ComesNearer earlier later := by
  rintro ⟨longest, _, leaps⟩
  exact leaps.2.1 plain

/-- A limit that an instant has, and another one later, is not nearer by then. -/
theorem noLater_limit {longest : Option Duration} (ordered : earlier ≤ later)
    (apart : ¬ (requiredValidUntil longest).ComesNearer earlier later) :
    Instant.NoLater (longest.bind (validityLimit? earlier)) (longest.bind (validityLimit? later)) := by
  cases longest with
  | none => exact fun _ => nofun
  | some period =>
    refine (Instant.noLater_after?_iff ordered period).mpr ?_
    exact fun leaps => apart ⟨period, rfl, leaps.1⟩

theorem InTime.lasts {longest : Option Duration} {declared : Option Instant}
    (noLater : Instant.NoLater (longest.bind (validityLimit? earlier))
      (longest.bind (validityLimit? later)))
    (inTime : InTime longest earlier declared) : InTime longest later declared := by
  obtain ⟨validUntil, same, allowed⟩ := inTime
  refine ⟨validUntil, same, fun limit reached => ?_⟩
  obtain ⟨first, sooner, le⟩ := noLater limit reached
  exact Int.le_trans (allowed first sooner) le

theorem IsBuiltIn.run_later (builtIn : filter.IsBuiltIn) (ordered : earlier ≤ later)
    (apart : ¬ filter.ComesNearer earlier later)
    (accepted : filter.run earlier document = .ok outcome) :
    filter.run later document = .ok outcome := by
  rcases builtIn with ⟨longest, rfl⟩ | ⟨kinds, rfl⟩
  · obtain ⟨inTime, unchanged⟩ := requiredValidUntil_ok_iff.mp accepted
    exact requiredValidUntil_ok_iff.mpr ⟨inTime.lasts (noLater_limit ordered apart), unchanged⟩
  · exact accepted

theorem runAll_later (builtIn : ∀ filter ∈ filters, filter.IsBuiltIn) (ordered : earlier ≤ later)
    (apart : ∀ filter ∈ filters, ¬ filter.ComesNearer earlier later)
    (accepted : runAll earlier filters document = .ok outcome) :
    runAll later filters document = .ok outcome := by
  induction filters generalizing document outcome with
  | nil => exact accepted
  | cons first rest ih =>
    obtain ⟨builtInFirst, builtInRest⟩ := List.forall_mem_cons.mp builtIn
    obtain ⟨apartFirst, apartRest⟩ := List.forall_mem_cons.mp apart
    obtain ⟨passed, others, ran, done, rfl⟩ := runAll_cons_ok_iff.mp accepted
    refine runAll_cons_ok_iff.mpr ⟨passed, others, ?_, ih builtInRest apartRest done, rfl⟩
    exact builtInFirst.run_later ordered apartFirst ran

/-- What filters of the library accept they accept at any later time, with the same document and the same
    rejected entities. The clock they read shows no leap seconds; with one that does, only a bounded filter
    on validity can come to reject, inside a leap second that its period leads past. -/
theorem accepts_later (builtIn : ∀ filter ∈ filters, filter.IsBuiltIn) (ordered : earlier ≤ later)
    (accepted : runAll earlier filters document = .ok outcome) :
    (later.IsPlain → runAll later filters document = .ok outcome) ∧
    (runAll later filters document = .ok outcome ∨
      ∃ longest, requiredValidUntil (some longest) ∈ filters ∧ earlier.LeapsPast later longest) := by
  refine ⟨fun plain => ?_, ?_⟩
  · exact runAll_later builtIn ordered (fun filter _ => not_comesNearer plain filter) accepted
  · by_cases near : ∃ filter ∈ filters, filter.ComesNearer earlier later
    · obtain ⟨_, member, longest, rfl, leaps⟩ := near
      exact .inr ⟨longest, member, leaps⟩
    · refine .inl (runAll_later builtIn ordered (fun filter member nearer => ?_) accepted)
      exact near ⟨filter, member, nearer⟩

/-- In the last minute of all, half a minute comes to end outside the range of instants; the longest period
    always does. -/
theorem accepts_later_last_minute :
    let last : Instant := ⟨lastSecond, 0, by decide, by decide, by decide⟩
    let before (seconds : Nat) : Instant :=
      (Instant.ofParts? (lastSecond - seconds) 0).getD .epoch
    let period (seconds : Nat) (small : seconds < 0x10000000000000000) : Duration :=
      ⟨seconds * 1_000_000_000, by omega⟩
    let short := period 30 (by decide)
    let filters := [requiredValidUntil (some short), entityRole [.idpSso],
      requiredValidUntil (some (period 0xFFFFFFFFFFFFFFFF (by decide))), requiredValidUntil none]
    let entity (id : String) (kind : RoleKind) : Entity := ⟨id, none, none, [⟨kind, [], [], []⟩], none⟩
    let document :=
      Document.group ⟨none, some (before 40), none, [entity "a" .idpSso, entity "b" .spSso], []⟩
    ∃ outcome, (∀ filter ∈ filters, filter.IsBuiltIn) ∧ before 60 ≤ last ∧
      runAll (before 60) filters document = .ok outcome ∧
      outcome.document.flatten = [⟨entity "a" .idpSso, some (before 40)⟩] ∧
      outcome.rejected = [.validation "b" "no retained roles"] ∧
      (before 60).after? short = some (before 30) ∧ last.after? short = none ∧
      runAll last filters document = .ok outcome := by
  intro last before period short filters entity document
  have builtIn : ∀ filter ∈ filters, filter.IsBuiltIn := by
    simp only [filters, List.forall_mem_cons]
    exact ⟨.inl ⟨_, rfl⟩, .inr ⟨_, rfl⟩, .inl ⟨_, rfl⟩, .inl ⟨_, rfl⟩, List.forall_mem_nil _⟩
  have ordered : before 60 ≤ last := by decide
  have ends : (before 60).after? short = some (before 30) := by decide
  have soon : InTime (some short) (before 60) (some (before 40)) :=
    inTime_some_iff.mpr fun limit found => by
      cases ends.symm.trans found
      decide
  have unlimited (longest : Option Duration) (none : longest.bind (validityLimit? (before 60)) = none) :
      InTime longest (before 60) (some (before 40)) :=
    inTime_some_iff.mpr fun limit found => by cases none.symm.trans found
  have passes (longest : Option Duration) (entities : List Entity)
      (inTime : InTime longest (before 60) (some (before 40))) :
      (requiredValidUntil longest).run (before 60)
        (.group ⟨none, some (before 40), none, entities, []⟩) =
      .ok ⟨.group ⟨none, some (before 40), none, entities, []⟩, []⟩ :=
    requiredValidUntil_ok_iff.mpr ⟨inTime, rfl⟩
  let outcome : FilterOutcome := ⟨.group ⟨none, some (before 40), none, [entity "a" .idpSso], []⟩,
    [.validation "b" "no retained roles"]⟩
  have dropped : (entityRole [.idpSso]).run (before 60) document = .ok outcome := rfl
  have accepted : runAll (before 60) filters document = .ok outcome := by
    refine runAll_cons_ok_iff.mpr ⟨_, outcome, passes _ _ soon, ?_, rfl⟩
    refine runAll_cons_ok_iff.mpr ⟨outcome, ⟨outcome.document, []⟩, dropped, ?_, rfl⟩
    refine runAll_cons_ok_iff.mpr ⟨_, ⟨_, []⟩, passes _ _ (unlimited _ (by decide)), ?_, rfl⟩
    exact runAll_cons_ok_iff.mpr ⟨_, ⟨_, []⟩, passes _ _ (unlimited _ rfl), rfl, rfl⟩
  refine ⟨outcome, builtIn, ordered, accepted, by decide, rfl, ends, by decide, ?_⟩
  exact (accepts_later builtIn ordered accepted).1 (by decide)

end Filter

namespace Pipeline

variable {pipeline : Pipeline}

theorem accept_later {earlier later : Instant} {bytes : Bytes} {document : Document}
    (builtIn : ∀ filter ∈ pipeline.filters, filter.IsBuiltIn) (ordered : earlier ≤ later)
    (plain : later.IsPlain) (accepted : pipeline.accept earlier bytes = .ok document) :
    pipeline.accept later bytes = .ok document := by
  obtain ⟨parsed, outcome, read, ran, same⟩ := accept_eq_ok_iff.mp accepted
  refine accept_eq_ok_iff.mpr ⟨parsed, outcome, read, ?_, same⟩
  exact Filter.runAll_later builtIn ordered (fun filter _ => Filter.not_comesNearer plain filter) ran

end Pipeline

namespace Life

variable {pipeline : Pipeline} {turns : List Turn} {resolver : Resolver} {publisher : Record}
  {document : Document} {since : List Record} {readings : Readings}

theorem query_of_not_requiresValid (life : Life pipeline turns resolver)
    (ignores : pipeline.settings.requiresValid = false)
    (last : pipeline.Publisher (pipeline.history turns) publisher document since)
    (criteria : CriteriaSet) (built asked : Instant) :
    (resolver.state.index.query criteria asked).toList =
      ((pipeline.indexOf built document).query criteria asked).toList := by
  have served := life.index_of_not_requiresValid ignores last
  have rebuilt := pipeline.indexOf_represents built document
  rw [Pipeline.select_of_not_requiresValid ignores] at rebuilt
  rw [served.query_toList, rebuilt.query_toList, Index.matching, Index.matching, served.contents_eq,
    rebuilt.contents_eq, (life.index_of_publisher last).1, pipeline.indexOf_enforcesValidity]

theorem query_of_requiresValid (life : Life pipeline turns resolver)
    (requires : pipeline.settings.requiresValid = true)
    (last : pipeline.Publisher (pipeline.history turns) publisher document since) {now : Instant}
    (ordered : publisher.turn.readings.selected ≤ now)
    (before : ∀ time ∈ pipeline.confirmedAt since, time ≤ now) (criteria : CriteriaSet) :
    (resolver.state.index.query criteria now).toList =
      ((pipeline.indexOf now document).query criteria now).toList.filter
        (!Index.Vacated document.flatten publisher.turn.readings.selected now ·.entityId) := by
  rw [life.index_of_last last, Pipeline.indexOf_of_requiresValid requires,
    Pipeline.indexOf_of_requiresValid requires]
  exact Index.query_aged document.flatten ordered before criteria

/-- What is served while a source is confirmed is what a cycle would publish that got the same bytes
    again. They would be accepted as the same document; and a search would find the same entities, or
    where validity is enforced the same less those whose identifier stood at first for one that has
    ended. -/
theorem serves_like_republished (life : Life pipeline turns resolver)
    (builtIn : ∀ filter ∈ pipeline.filters, filter.IsBuiltIn)
    (last : pipeline.Publisher (pipeline.history turns) publisher document since)
    (ordered : publisher.turn.readings.filtered ≤ readings.filtered)
    (plain : readings.filtered.IsPlain) :
    ∃ fetched publication, publisher.outcome = .ok (.fetched fetched) ∧
      pipeline.ending readings (.ok (.fetched fetched)) = .published fetched publication ∧
      (pipeline.settings.requiresValid = false → ∀ criteria now,
        (resolver.state.index.query criteria now).toList =
          (publication.index.query criteria now).toList) ∧
      (pipeline.settings.requiresValid = true →
        publisher.turn.readings.selected ≤ readings.selected →
        (∀ time ∈ pipeline.confirmedAt since, time ≤ readings.selected) → ∀ criteria,
          (resolver.state.index.query criteria readings.selected).toList =
            (publication.index.query criteria readings.selected).toList.filter
              (!Index.Vacated document.flatten publisher.turn.readings.selected readings.selected
                ·.entityId)) := by
  obtain ⟨fetched, outcome, accepted⟩ := last.accepted
  have again := Pipeline.accept_later builtIn ordered plain accepted
  obtain ⟨publication, published, index⟩ := Pipeline.ending_of_accept again
  refine ⟨fetched, publication, outcome, published, ?_, ?_⟩
  · intro ignores criteria now
    rw [index]
    exact life.query_of_not_requiresValid ignores last criteria readings.selected now
  · intro requires later before criteria
    rw [index]
    exact life.query_of_requiresValid requires last later before criteria

end Life

end Federation
