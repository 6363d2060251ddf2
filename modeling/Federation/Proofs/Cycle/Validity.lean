import Federation.Proofs.Cycle.History
import Federation.Proofs.Document.Occurrences
import Federation.Proofs.Index.Search

namespace Federation

/-- The occurrence that is published for an identifier: the first that has not ended then. -/
def Document.standing? (document : Document) (now : Instant) (id : String) : Option Occurrence :=
  document.occurrences.find? fun occurrence =>
    occurrence.entity.entityId == id && !occurrence.hasEnded now

/-- What a resolver may return at an instant. -/
inductive Resolver.Returns (resolver : Resolver) (now : Instant) (entity : Entity) : Prop where
  | resolved {criteria : CriteriaSet} {query : Query} {count : Nat}
    (searched : resolver.resolve criteria now = .ok query) (found : query.nth count = some entity)
  | single {criteria : CriteriaSet} (found : resolver.resolveSingle criteria now = .ok (some entity))
  | queried {criteria : CriteriaSet} {count : Nat}
    (found : (resolver.state.index.query criteria now).nth count = some entity)
  | named {id : String} (found : resolver.state.index.get? id now = some entity)

namespace Pipeline

/-- The cycle that published last, its document, and the cycles since. -/
structure Publisher (pipeline : Pipeline) (records : List Record) (publisher : Record)
    (document : Document) (since : List Record) : Prop where
  split : ∃ earlier, records = earlier ++ publisher :: since
  accepted : ∃ fetched, publisher.outcome = .ok (.fetched fetched) ∧
    pipeline.accept publisher.turn.readings.filtered fetched.bytes = .ok document
  last : ∀ record ∈ since, ¬ pipeline.Publishes record

variable {pipeline : Pipeline}

theorem select_of_requiresValid (requires : pipeline.settings.requiresValid = true) (now : Instant)
    (document : Document) : pipeline.select now document = document.flatten.filter (·.isValidAt now) := by
  unfold select
  simp only [requires, Bool.not_true, Bool.false_or]

theorem select_of_not_requiresValid (ignores : pipeline.settings.requiresValid = false) (now : Instant)
    (document : Document) : pipeline.select now document = document.flatten := by
  unfold select
  simp only [ignores, Bool.not_false, Bool.true_or]
  exact List.filter_eq_self.mpr fun _ _ => rfl

theorem findId_select (requires : pipeline.settings.requiresValid = true) (now : Instant)
    (document : Document) (id : String) :
    findId (pipeline.select now document) id = (document.standing? now id).map (·.flattened) := by
  rw [select_of_requiresValid requires, document.flatten_eq]
  unfold findId Document.standing?
  rw [List.find?_filter, List.find?_map]
  congr 2
  funext occurrence
  have named : occurrence.flattened.id = occurrence.entity.entityId := rfl
  simp only [Function.comp_apply, occurrence.flattened_isValidAt, named, Bool.and_comm,
    Bool.decide_and, Bool.decide_eq_true]

end Pipeline

theorem Document.findId_flatten (document : Document) (id : String) :
    findId document.flatten id =
      (document.occurrences.find? (·.entity.entityId == id)).map (·.flattened) := by
  rw [document.flatten_eq, findId, List.find?_map]
  rfl

namespace Index

theorem Represents.mem_of_nth {index : Index} {flats : List FlattenedEntity}
    (represents : index.Represents flats) {criteria : CriteriaSet} {now : Instant} {count : Nat}
    {entity : Entity} (found : (index.query criteria now).nth count = some entity) :
    ∃ flat ∈ flats, flat.entity = entity ∧ flat.isServed index.enforcesValidity now = true := by
  rw [Query.nth_eq_getElem?, represents.query_toList] at found
  have member := List.mem_of_getElem? found
  unfold matching at member
  split at member
  · cases member
  · rw [represents.contents_eq] at member
    obtain ⟨flat, chosen, same⟩ := List.mem_map.mp member
    obtain ⟨present, accepted⟩ := List.mem_filter.mp chosen
    exact ⟨flat, present, same, (Bool.and_eq_true_iff.mp accepted).1⟩

theorem Represents.mem_of_get? {index : Index} {flats : List FlattenedEntity}
    (represents : index.Represents flats) {id : String} {now : Instant} {entity : Entity}
    (found : index.get? id now = some entity) :
    ∃ flat ∈ flats, flat.entity = entity ∧ flat.isServed index.enforcesValidity now = true := by
  rw [represents.get?_eq] at found
  obtain ⟨flat, chosen, same⟩ := Option.map_eq_some_iff.mp found
  obtain ⟨present, served⟩ := Option.filter_eq_some_iff.mp chosen
  exact ⟨flat, List.mem_of_find?_eq_some present, same, served⟩

end Index

theorem Resolver.Returns.mem {resolver : Resolver} {now : Instant} {entity : Entity}
    (returns : resolver.Returns now entity) {flats : List FlattenedEntity}
    (represents : resolver.state.index.Represents flats) :
    ∃ flat ∈ flats, flat.entity = entity ∧
      flat.isServed resolver.state.index.enforcesValidity now = true := by
  have searched : ∀ {criteria query}, resolver.resolve criteria now = .ok query →
      query = resolver.state.index.query criteria now := by
    intro criteria query resolved
    unfold resolve at resolved
    cases empty : criteria.ensureNotEmpty with
    | error failure => rw [empty] at resolved; cases resolved
    | ok _ => rw [empty] at resolved; exact (Except.ok.inj resolved).symm
  cases returns with
  | resolved resolved found =>
    rw [searched resolved] at found
    exact represents.mem_of_nth found
  | @single criteria found =>
    unfold resolveSingle at found
    cases resolved : resolver.resolve criteria now with
    | error failure => rw [resolved] at found; cases found
    | ok query =>
      rw [resolved] at found
      have first : query.nth 0 = some entity := by
        simp only [Bind.bind, Except.bind] at found
        split at found
        · cases found
        · exact Except.ok.inj found
      rw [searched resolved] at first
      exact represents.mem_of_nth first
  | queried found => exact represents.mem_of_nth found
  | named found => exact represents.mem_of_get? found

theorem Pipeline.exists_publisher (pipeline : Pipeline) (records : List Record) :
    (∀ record ∈ records, ¬ pipeline.Publishes record) ∨
      ∃ publisher document since, pipeline.Publisher records publisher document since := by
  rcases Record.last_of_kind pipeline.Publishes records with
    never | ⟨earlier, publisher, since, split, ⟨fetched, publication, published⟩, quiet⟩
  · exact .inl never
  · obtain ⟨outcome, made⟩ := ending_published published
    obtain ⟨document, accepted, _⟩ := accept_of_publication made
    exact .inr ⟨publisher, document, since, ⟨earlier, split⟩, ⟨fetched, outcome, accepted⟩, quiet⟩

namespace Life

variable {pipeline : Pipeline} {turns : List Turn} {resolver : Resolver}

theorem index_of_unpublished (life : Life pipeline turns resolver)
    (never : ∀ record ∈ pipeline.history turns, ¬ pipeline.Publishes record) :
    resolver.state.index.Represents [] := by
  rw [life.index_eq_replay, (Pipeline.replay_unpublished never _).2]
  exact (Index.start_represents false).foldl_prune _

theorem index_of_last (life : Life pipeline turns resolver) {publisher : Record} {document : Document}
    {since : List Record}
    (last : pipeline.Publisher (pipeline.history turns) publisher document since) :
    resolver.state.index = (pipeline.confirmedAt since).foldl Index.prune
      (pipeline.indexOf publisher.turn.readings.selected document) := by
  obtain ⟨⟨earlier, split⟩, ⟨fetched, outcome, accepted⟩, quiet⟩ := last
  obtain ⟨publication, ended, built⟩ := Pipeline.ending_of_accept accepted
  have published : pipeline.endingOf publisher = .published fetched publication := by
    rw [Pipeline.endingOf, outcome, ended]
  rw [← built]
  exact life.index_eq split published quiet

/-- The index holds what was published last, less what had ended when it was confirmed. -/
theorem index_of_publisher (life : Life pipeline turns resolver) {publisher : Record}
    {document : Document} {since : List Record}
    (last : pipeline.Publisher (pipeline.history turns) publisher document since) :
    resolver.state.index.enforcesValidity = pipeline.settings.requiresValid ∧
      resolver.state.index.Represents
        ((firstOccurrences (pipeline.select publisher.turn.readings.selected document)).filter
          fun flat => (pipeline.confirmedAt since).all (flat.isServed pipeline.settings.requiresValid ·)) := by
  have represents := (pipeline.indexOf_represents publisher.turn.readings.selected document).foldl_prune
    (pipeline.confirmedAt since)
  rw [pipeline.indexOf_enforcesValidity] at represents
  rw [life.index_of_last last, Index.foldl_prune_enforcesValidity, pipeline.indexOf_enforcesValidity]
  exact ⟨rfl, represents⟩

/-- Where validity is not enforced, the index holds the first entity of each identifier, ended or not. -/
theorem index_of_not_requiresValid (life : Life pipeline turns resolver)
    (ignores : pipeline.settings.requiresValid = false) {publisher : Record} {document : Document}
    {since : List Record}
    (last : pipeline.Publisher (pipeline.history turns) publisher document since) :
    resolver.state.index.Represents (firstOccurrences document.flatten) := by
  have represents := (life.index_of_publisher last).2
  rw [Pipeline.select_of_not_requiresValid ignores, ignores] at represents
  have all : ∀ flat : FlattenedEntity,
      ((pipeline.confirmedAt since).all fun now => flat.isServed false now) = true :=
    fun flat => List.all_eq_true.mpr fun _ _ => rfl
  rwa [List.filter_eq_self.mpr fun flat _ => all flat] at represents

/-- Where validity is enforced, an entity that a resolver returns at an instant is the one that was
    published for its identifier, and neither it nor a group around it declares an end of validity that
    has come. Where validity is not enforced, the index holds the first entity of each identifier in the
    document published last, whatever cycles came since; a search gives all of them that meet the
    criteria, and an identifier gives its entity, at any instant. -/
theorem returns_only_valid (life : Life pipeline turns resolver) :
    (pipeline.settings.requiresValid = true → ∀ now entity, resolver.Returns now entity →
      ∃ publisher document since, pipeline.Publisher (pipeline.history turns) publisher document since ∧
        ∃ occurrence,
          document.standing? publisher.turn.readings.selected entity.entityId = some occurrence ∧
          occurrence.entity = entity ∧ ∀ bound, occurrence.Declares bound → now < bound) ∧
    (pipeline.settings.requiresValid = false → ∀ publisher document since,
      pipeline.Publisher (pipeline.history turns) publisher document since →
        resolver.state.index.entities = (firstOccurrences document.flatten).map (·.entity) ∧
        ∀ now,
          (∀ criteria, (resolver.state.index.query criteria now).toList =
            if criteria.isEmpty then []
            else resolver.state.index.entities.filter (·.meets criteria)) ∧
          ∀ id, resolver.state.index.get? id now =
            (document.occurrences.find? (·.entity.entityId == id)).map (·.entity)) := by
  refine ⟨?_, ?_⟩
  · intro requires now entity returns
    rcases pipeline.exists_publisher (pipeline.history turns) with
      never | ⟨publisher, document, since, last⟩
    · obtain ⟨flat, none, _⟩ := returns.mem (life.index_of_unpublished never)
      cases none
    · obtain ⟨enforces, represents⟩ := life.index_of_publisher last
      obtain ⟨flat, member, same, valid⟩ := returns.mem represents
      refine ⟨publisher, document, since, last, ?_⟩
      -- The entity under the identifier is the occurrence whose bound the index remembers.
      have first := (List.mem_filter.mp member).1
      have found := findId_of_mem (pipeline.indexOf_represents _ document).distinct first
      rw [findId_firstOccurrences, Pipeline.findId_select requires] at found
      obtain ⟨occurrence, standing, rfl⟩ := Option.map_eq_some_iff.mp found
      subst same
      refine ⟨occurrence, standing, rfl, Occurrence.hasEnded_eq_false_iff.mp ?_⟩
      rw [enforces, requires, FlattenedEntity.isServed, occurrence.flattened_isValidAt] at valid
      simpa using valid
  · intro ignores publisher document since last
    have represents := life.index_of_not_requiresValid ignores last
    have enforces := (life.index_of_publisher last).1.trans ignores
    refine ⟨represents.ordered, fun now => ⟨fun criteria => ?_, fun id => ?_⟩⟩
    · rw [represents.query_toList, Index.matching, represents.contents_eq, represents.ordered, enforces,
        List.filter_map]
      rfl
    · rw [represents.get?_eq, enforces, findId_firstOccurrences, document.findId_flatten]
      cases document.occurrences.find? (·.entity.entityId == id) <;> rfl

/-- An entity in an inner group that ends is returned until then; without regard to validity, it is
    returned later too. -/
theorem returns_only_valid_nested :
    let ends : Instant := ⟨1, 0, by decide, by decide, by decide⟩
    let later : Instant := ⟨2, 0, by decide, by decide, by decide⟩
    let entity : Entity := ⟨"a", none, none, [], none⟩
    let inner : Group := ⟨none, some ends, none, [entity], []⟩
    let outer : Group := ⟨none, some later, none, [], [inner]⟩
    let plain := Pipeline.plain (.file "md") fun _ => .ok (.group outer)
    let pipeline : Bool → Pipeline := fun requiresValid =>
      { plain with settings := { plain.settings with requiresValid } }
    let turn : Turn :=
      ⟨.still .epoch, .zero, ⟨[(["md"], .file ⟨[1], 0, true⟩)]⟩, fun _ => .unanswered, true⟩
    ∃ strict lenient, Life (pipeline true) [turn] strict ∧ Life (pipeline false) [turn] lenient ∧
      (pipeline true).settings.requiresValid = true ∧ (pipeline false).settings.requiresValid = false ∧
      strict.Returns .epoch entity ∧
      (Document.group outer).occurrences = [⟨entity, [outer, inner]⟩] ∧
      ¬ strict.Returns ends entity ∧
      lenient.state.index.get? "a" later = some entity := by
  intro ends later entity inner outer plain pipeline turn
  have placed : (Document.group outer).occurrences = [⟨entity, [outer, inner]⟩] := rfl
  have obtained : ∀ requiresValid, (pipeline requiresValid).fetchIn .start turn =
      .ok (.fetched ⟨[1], .file, some (.file 0)⟩) := fun _ => rfl
  have accepted : ∀ requiresValid now bytes,
      (pipeline requiresValid).accept now bytes = .ok (.group outer) := fun _ _ _ => rfl
  have lives : ∀ requiresValid, Life (pipeline requiresValid) [turn]
      ⟨pipeline requiresValid, (pipeline requiresValid).next .start turn, false⟩ := fun requiresValid =>
    .started turn (Resolver.start_of_accept (obtained requiresValid) (accepted requiresValid _ _))
  have published : ∀ requiresValid, (pipeline requiresValid).Publisher
      ((pipeline requiresValid).history [turn]) ⟨turn, .ok (.fetched ⟨[1], .file, some (.file 0)⟩)⟩
        (.group outer) [] := fun requiresValid =>
    ⟨⟨[], congrArg (fun outcome => [Record.mk turn outcome]) (obtained requiresValid)⟩,
      ⟨_, rfl, accepted requiresValid _ _⟩, fun _ member => absurd member List.not_mem_nil⟩
  have strictly := (lives true).returns_only_valid.1 rfl
  have leniently := (lives false).returns_only_valid.2 rfl _ _ _ (published false)
  refine ⟨_, _, lives true, lives false, rfl, rfl, ?_, placed, ?_, ?_⟩
  · have represents := (lives true).index_of_publisher (published true)
    apply Resolver.Returns.named
    rw [represents.2.get?_eq "a", represents.1]
    decide
  · intro returns
    obtain ⟨publisher, document, since, last, occurrence, standing, _, lasts⟩ := strictly ends entity returns
    obtain ⟨fetched, _, read⟩ := last.accepted
    rw [accepted true] at read
    have member := List.mem_of_find?_eq_some standing
    rw [← Except.ok.inj read, placed, List.mem_singleton] at member
    have ended : occurrence.Declares ends := by
      rw [member]
      exact .inr ⟨inner, by simp, rfl⟩
    exact absurd (lasts ends ended) (by decide)
  · rw [(leniently.2 later).2 "a", placed]
    rfl

end Life

end Federation
