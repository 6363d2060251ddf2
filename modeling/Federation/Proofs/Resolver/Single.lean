import Federation.Proofs.Cycle.History
import Federation.Proofs.Index.Search

namespace Federation

theorem Index.Reachable.prune {index : Index} (reachable : index.Reachable) (now : Instant) :
    (index.prune now).Reachable := by
  unfold Index.prune
  cases left : index.withoutExpired? now with
  | none => exact reachable
  | some rest => exact reachable.withoutExpired now left

theorem Pipeline.next_reachable (pipeline : Pipeline) {state : State}
    (reachable : state.index.Reachable) (turn : Turn) : (pipeline.next state turn).index.Reachable := by
  rw [← State.served_index, next_served]
  cases ended : pipeline.ending turn.readings (pipeline.fetchIn state turn) with
  | failed failure => exact reachable
  | confirmed => exact reachable.prune _
  | published fetched publication =>
    obtain ⟨document, _, built⟩ := accept_of_publication (ending_published ended).2
    change publication.index.Reachable
    rw [built]
    exact .ofFlattened _ _

theorem Life.index_reachable {pipeline : Pipeline} {turns : List Turn} {resolver : Resolver}
    (life : Life pipeline turns resolver) : resolver.state.index.Reachable := by
  induction life with
  | started turn running =>
    rw [Resolver.start_ok running]
    exact pipeline.next_reachable .empty turn
  | @refreshed turns resolver life turn running ih =>
    rw [Resolver.refresh_running running]
    exact resolver.pipeline.next_reachable ih turn
  | @ended turns resolver life ih =>
    rw [← State.served_index, resolver.shutDown_served.2]
    exact ih

namespace Index

variable {index : Index} {criteria : CriteriaSet} {now : Instant}

theorem meets_of_mem_matching {entity : Entity} (member : entity ∈ index.matching criteria now) :
    entity.meets criteria = true := by
  unfold matching at member
  split at member
  · cases member
  · obtain ⟨flat, chosen, rfl⟩ := List.mem_map.mp member
    exact (Bool.and_eq_true_iff.mp (List.mem_filter.mp chosen).2).2

/-- Every match has the identifier that the criteria name, and no two entities have the same. -/
theorem matching_length_le_one (distinct : DistinctIds index.contents) (criteria : CriteriaSet)
    (now : Instant) (named : criteria.hasEntityId = true) : (index.matching criteria now).length ≤ 1 := by
  cases ids : criteria.entityIds with
  | nil => simp [CriteriaSet.hasEntityId, ids] at named
  | cons id others =>
    have same : (index.matching criteria now).map (·.entityId) =
        List.replicate (index.matching criteria now).length id := by
      refine List.eq_replicate_iff.mpr ⟨List.length_map _, ?_⟩
      intro other member
      obtain ⟨entity, matched, rfl⟩ := List.mem_map.mp member
      exact entity.entityId_of_meets (meets_of_mem_matching matched) (ids ▸ List.mem_cons_self)
    have nodup := matching_ids_nodup distinct criteria now
    rwa [same, List.nodup_replicate] at nodup

end Index

namespace Resolver

theorem resolve_eq (resolver : Resolver) (criteria : CriteriaSet) (now : Instant) :
    resolver.resolve criteria now =
      if criteria.isEmpty then .error .emptyCriteria
      else .ok (resolver.state.index.query criteria now) := by
  unfold resolve CriteriaSet.ensureNotEmpty
  split <;> rfl

def answerOf : List Entity → Except MetadataError (Option Entity)
  | [] => .ok none
  | [entity] => .ok (some entity)
  | found => .error (.ambiguousMatch found.length)

theorem answerOf_none_iff {found : List Entity} : answerOf found = .ok none ↔ found = [] := by
  rcases found with _ | ⟨first, _ | ⟨second, rest⟩⟩ <;> simp [answerOf]

theorem answerOf_some_iff {found : List Entity} {entity : Entity} :
    answerOf found = .ok (some entity) ↔ found = [entity] := by
  rcases found with _ | ⟨first, _ | ⟨second, rest⟩⟩ <;> simp [answerOf]

theorem answerOf_error_iff {found : List Entity} {failure : MetadataError} :
    answerOf found = .error failure ↔ 2 ≤ found.length ∧ failure = .ambiguousMatch found.length := by
  rcases found with _ | ⟨first, _ | ⟨second, rest⟩⟩ <;> simp [answerOf, eq_comm]

theorem resolveSingle_eq {resolver : Resolver} (reachable : resolver.state.index.Reachable)
    (criteria : CriteriaSet) (now : Instant) :
    resolver.resolveSingle criteria now =
      if criteria.isEmpty then .error .emptyCriteria
      else answerOf (resolver.state.index.matching criteria now) := by
  have represents := reachable.represents
  have few := Index.matching_length_le_one represents.distinct criteria now
  unfold resolveSingle
  rw [resolve_eq]
  split
  · rfl
  · rw [← represents.query_toList] at few ⊢
    simp only [Bind.bind, Except.bind]
    cases first : (resolver.state.index.query criteria now).next.1 with
    | none => rw [(Query.toList_of_next_none first).1]; rfl
    | some entity =>
      have given := (resolver.state.index.query criteria now).toList_next
      rw [first, Option.toList_some] at given
      rw [given] at few ⊢
      generalize (resolver.state.index.query criteria now).next.2.toList = rest at few ⊢
      cases rest with
      | nil => simp [answerOf, Pure.pure, Except.pure]
      | cons second others =>
        -- There is a second match, so the criteria name no identifier and the matches are counted.
        have unnamed : criteria.hasEntityId = false := by
          apply Bool.eq_false_iff.mpr
          intro named
          simpa using few named
        simp [answerOf, unnamed]

/-- Whatever cycles a resolver has run, its index is one that is built or pruned. Of such an index, the
    one entity that meets some criteria is given if it is the only one that is served and meets them all;
    if there is none, none is given, and if there are more, their number is. Criteria that name an
    identifier never find more than one. -/
theorem decided_by_count :
    (∀ pipeline turns resolver, Life pipeline turns resolver → resolver.state.index.Reachable) ∧
    ∀ resolver : Resolver, resolver.state.index.Reachable → ∀ criteria now,
      let found := resolver.state.index.matching criteria now
      let answer := resolver.resolveSingle criteria now
      (answer = .error .emptyCriteria ↔ criteria.isEmpty = true) ∧
      (criteria.isEmpty = false →
        (answer = .ok none ↔ found.length = 0) ∧
        (∀ entity, answer = .ok (some entity) ↔ found = [entity]) ∧
        ∀ failure, answer = .error failure ↔
          2 ≤ found.length ∧ failure = .ambiguousMatch found.length) ∧
      (criteria.hasEntityId = true →
        (∀ count, answer ≠ .error (.ambiguousMatch count)) ∧
        ∀ entity, answer = .ok (some entity) →
          ∀ criterion ∈ criteria.items, entity.meetsCriterion criteria criterion = true) := by
  refine ⟨fun pipeline turns resolver life => life.index_reachable, ?_⟩
  intro resolver reachable criteria now found answer
  have decided : answer = if criteria.isEmpty then .error .emptyCriteria else answerOf found :=
    resolveSingle_eq reachable criteria now
  have few := Index.matching_length_le_one reachable.represents.distinct criteria now
  cases empty : criteria.isEmpty with
  | true =>
    rw [empty, if_pos rfl] at decided
    rw [decided]
    refine ⟨iff_of_true rfl rfl, nofun, fun _ => ⟨?_, ?_⟩⟩
    · exact fun count ambiguous => by cases ambiguous
    · exact fun entity given => by cases given
  | false =>
    rw [empty, if_neg Bool.false_ne_true] at decided
    rw [decided]
    refine ⟨?_, ?_, ?_⟩
    · simp [answerOf_error_iff]
    · intro _
      rw [answerOf_none_iff, List.length_eq_zero_iff]
      exact ⟨Iff.rfl, fun entity => answerOf_some_iff, fun failure => answerOf_error_iff⟩
    · intro named
      refine ⟨?_, ?_⟩
      · intro count ambiguous
        have several := (answerOf_error_iff.mp ambiguous).1
        exact absurd (few named) (Nat.not_le.mpr several)
      · intro entity given
        have only := answerOf_some_iff.mp given
        have member : entity ∈ found := only ▸ List.mem_singleton_self entity
        exact fun criterion => entity.meetsCriterion_of_meets (Index.meets_of_mem_matching member)

/-- Two of three entities play a role. Asking for the role finds both and gives neither; with an
    identifier one is given, and with two identifiers none. -/
theorem decided_by_count_role :
    let entity (id : String) (kind : RoleKind) : Entity := ⟨id, none, none, [⟨kind, [], [], []⟩], none⟩
    let group : Group :=
      ⟨none, none, none, [entity "a" .idpSso, entity "b" .idpSso, entity "c" .spSso], []⟩
    let pipeline := Pipeline.plain (.file "md") fun _ => .ok (.group group)
    let turn : Turn :=
      ⟨.still .epoch, .zero, ⟨[(["md"], .file ⟨[1], 0, true⟩)]⟩, fun _ => .unanswered, true⟩
    let role := CriteriaSet.empty.insert (.role .idpSso)
    ∃ resolver, Life pipeline [turn] resolver ∧ resolver.state.index.Reachable ∧
      resolver.resolveSingle .empty .epoch = .error .emptyCriteria ∧
      resolver.resolveSingle role .epoch = .error (.ambiguousMatch 2) ∧
      resolver.resolveSingle (role.insert (.entityId "b")) .epoch = .ok (some (entity "b" .idpSso)) ∧
      resolver.resolveSingle (.ofList [.entityId "a", .entityId "b"]) .epoch = .ok none := by
  intro entity group pipeline turn role
  have obtained : pipeline.fetchIn .start turn = .ok (.fetched ⟨[1], .file, some (.file 0)⟩) := rfl
  have accepted : pipeline.accept turn.readings.filtered [1] = .ok (.group group) := rfl
  have life : Life pipeline [turn] ⟨pipeline, pipeline.next .start turn, false⟩ :=
    .started turn (Resolver.start_of_accept obtained accepted)
  have built : (pipeline.next .start turn).index = pipeline.indexOf .epoch (.group group) :=
    Pipeline.next_index obtained accepted
  have reachable := decided_by_count.1 _ _ _ life
  have decided := decided_by_count.2 _ reachable
  have found (criteria : CriteriaSet) : (pipeline.next .start turn).index.matching criteria .epoch =
      if criteria.isEmpty then []
      else ((firstOccurrences (Document.group group).flatten).filter (·.entity.meets criteria)).map
        (·.entity) := by
    unfold Index.matching
    rw [built, Pipeline.indexOf, Index.contents_ofFlattened, Index.ofFlattened_enforcesValidity]
    rfl
  refine ⟨_, life, reachable, ?_, ?_, ?_, ?_⟩
  · exact (decided .empty .epoch).1.mpr rfl
  · apply (((decided role .epoch).2.1 rfl).2.2 _).mpr
    rw [found]
    decide
  · apply (((decided (role.insert (.entityId "b")) .epoch).2.1 rfl).2.1 _).mpr
    rw [found]
    decide
  · apply ((decided (.ofList [.entityId "a", .entityId "b"]) .epoch).2.1 rfl).1.mpr
    rw [found]
    decide

end Resolver

end Federation
