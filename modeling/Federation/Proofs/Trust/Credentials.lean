import Federation.Proofs.Trust.Metadata

namespace Federation

namespace CriteriaSet

theorem filterMap_nodup {β : Type} (criteria : CriteriaSet) {reading : Criterion → Option β}
    (injective : ∀ left right value, reading left = some value → reading right = some value → left = right) :
    (criteria.items.filterMap reading).Nodup := by
  rw [List.Nodup, List.pairwise_filterMap]
  apply criteria.sorted.imp
  intro left right before value first other second same
  subst same
  have equal := injective left right value first second
  subst equal
  exact left.not_before_self before

theorem entityIds_nodup (criteria : CriteriaSet) : criteria.entityIds.Nodup := by
  apply criteria.filterMap_nodup
  intro left right id first second
  cases left <;> cases right <;> simp_all

theorem usages_nodup (criteria : CriteriaSet) : criteria.usages.Nodup := by
  apply criteria.filterMap_nodup
  intro left right usage first second
  cases left <;> cases right <;> simp_all

theorem entityIds_length_iff {criteria : CriteriaSet} {id : String} {others : List String}
    (named : criteria.entityIds = id :: others) :
    criteria.entityIds.length = 1 ↔ ∀ other ∈ criteria.entityIds, other = id := by
  have distinct := criteria.entityIds_nodup
  rw [named] at distinct ⊢
  obtain ⟨fresh, _⟩ := List.nodup_cons.mp distinct
  constructor
  · intro single other member
    have none : others = [] := by
      apply List.length_eq_zero_iff.mp
      rw [List.length_cons] at single
      omega
    rw [none] at member
    exact List.mem_singleton.mp member
  · intro same
    have none : others = [] := by
      apply List.eq_nil_iff_forall_not_mem.mpr
      intro other member
      have equal := same other (List.mem_cons_of_mem _ member)
      exact fresh (equal ▸ member)
    rw [none, List.length_singleton]

end CriteriaSet

theorem KeyUsage.satisfies_iff {usage requested : KeyUsage} :
    usage.satisfies requested = true ↔ usage = .unspecified ∨ usage = requested := by
  simp [satisfies]

namespace Credential

theorem meets_iff {credential : Credential} {criteria : CriteriaSet} :
    credential.meets criteria = true ↔
      (∀ id ∈ criteria.entityIds, credential.entityId = some id) ∧
        ∀ usage ∈ criteria.usages, credential.usage.satisfies usage = true := by
  unfold meets
  rw [List.all_eq_true]
  simp only [CriteriaSet.mem_entityIds, CriteriaSet.mem_usages]
  constructor
  · intro met
    refine ⟨fun id named => ?_, fun usage named => met _ named⟩
    exact eq_of_beq (met _ named)
  · rintro ⟨ids, usages⟩ criterion member
    cases criterion with
    | entityId id => exact beq_iff_eq.mpr (ids id member)
    | usage usage => exact usages usage member
    | role kind => rfl
    | protocol name => rfl

end Credential

/-- A key that serves the use which is looked for serves all that are named, if that is one at most or
    the key is for any. -/
theorem CriteriaSet.satisfies_usages_iff {criteria : CriteriaSet} {usage : KeyUsage}
    (serves : usage.satisfies (criteria.usage?.getD .signing) = true) :
    (∀ requested ∈ criteria.usages, usage.satisfies requested = true) ↔
      criteria.usages.length ≤ 1 ∨ usage = .unspecified := by
  have distinct := criteria.usages_nodup
  unfold usage? at serves
  rcases named : criteria.usages with _ | ⟨first, _ | ⟨second, others⟩⟩
  · simp
  · rw [named] at serves
    simpa using serves
  · rw [named] at serves distinct
    have different : first ≠ second := by
      obtain ⟨fresh, _⟩ := List.nodup_cons.mp distinct
      exact fun same => fresh (same ▸ List.mem_cons_self)
    constructor
    · intro all
      right
      have left := KeyUsage.satisfies_iff.mp (all first List.mem_cons_self)
      have right := KeyUsage.satisfies_iff.mp (all second (List.mem_cons_of_mem _ List.mem_cons_self))
      rcases left with any | here
      · exact any
      · rcases right with any | there
        · exact any
        · exact absurd (here.symm.trans there) different
    · rintro (few | any) requested member
      · simp only [List.length_cons] at few
        omega
      · exact KeyUsage.satisfies_iff.mpr (.inl any)

namespace Query

theorem accepts_of_next {query : Query} {entity : Entity} (found : query.next.1 = some entity) :
    query.accepts entity = true := by
  have first : entity ∈ query.toList := by
    rw [query.toList_next, found]
    exact List.mem_append_left _ (List.mem_singleton.mpr rfl)
  exact (List.mem_filter.mp first).2

end Query

theorem Resolver.entityId_of_resolveSingle {resolver : Resolver} {id : String} {now : Instant}
    {entity : Entity} (found : resolver.resolveSingle (.ofEntityId id) now = .ok (some entity)) :
    entity.entityId = id := by
  rw [resolver.resolveSingle_eq_next] at found
  have accepted := Query.accepts_of_next (Except.ok.inj found)
  have meets := (Bool.and_eq_true_iff.mp accepted).2
  change entity.meets (.ofEntityId id) = true at meets
  rw [entity.meets_ofEntityId] at meets
  exact eq_of_beq meets

namespace CredentialSource

/-- What metadata gives are keys of one entity, the one named first, for the use that is looked for. -/
theorem metadata_cases {resolver : Resolver} {now : Instant} {criteria : CriteriaSet}
    {credentials : List Credential} (found : metadata resolver now criteria = .ok credentials) :
    ∃ id others, criteria.entityIds = id :: others ∧ ∀ credential ∈ credentials,
      credential.entityId = some id ∧
        credential.usage.satisfies (criteria.usage?.getD .signing) = true := by
  unfold metadata at found
  cases named : criteria.entityIds with
  | nil => rw [named] at found; cases found
  | cons id others =>
    refine ⟨id, others, rfl, ?_⟩
    rw [named] at found
    cases asked : resolver.resolveSingle (.ofEntityId id) now with
    | error failure => simp [asked, Except.mapError, Bind.bind, Except.bind] at found
    | ok answer =>
      simp only [asked, Except.mapError, Bind.bind, Except.bind] at found
      intro credential member
      cases answer with
      | none =>
        cases found
        cases member
      | some entity =>
        cases found
        obtain ⟨key, ⟨role, _, _, _, serves, _⟩, rfl⟩ := mem_keysOf.mp member
        exact ⟨congrArg some (Resolver.entityId_of_resolveSingle asked), serves⟩

/-- A fixed list gives what meets the criteria. What metadata gives meets them just if they name no
    second identifier, and no second use that the key is not for. -/
theorem found_meets_iff (criteria : CriteriaSet) :
    (∀ credentials : List Credential, ∃ found, fixed credentials criteria = .ok found ∧
      ∀ credential ∈ found, credential.meets criteria = true) ∧
    ∀ (resolver : Resolver) (now : Instant) (found : List Credential),
      metadata resolver now criteria = .ok found → ∀ credential ∈ found,
        (credential.meets criteria = true ↔
          criteria.entityIds.length = 1 ∧
            (criteria.usages.length ≤ 1 ∨ credential.usage = .unspecified)) := by
  refine ⟨?_, ?_⟩
  · intro credentials
    exact ⟨_, rfl, fun credential member => (List.mem_filter.mp member).2⟩
  · intro resolver now found given credential member
    obtain ⟨id, others, named, all⟩ := metadata_cases given
    obtain ⟨identified, serves⟩ := all credential member
    have ids : (∀ other ∈ criteria.entityIds, credential.entityId = some other) ↔
        criteria.entityIds.length = 1 := by
      rw [identified, CriteriaSet.entityIds_length_iff named]
      apply forall₂_congr
      intro other _
      rw [Option.some.injEq, eq_comm]
    rw [Credential.meets_iff, ids, criteria.satisfies_usages_iff serves]

theorem metadata_of_published {pipeline : Pipeline} {resolver : Resolver} {document : Document}
    {selected : Instant} (index : resolver.state.index = pipeline.indexOf selected document)
    {criteria : CriteriaSet} {id : String} {others : List String}
    (named : criteria.entityIds = id :: others) (now : Instant) :
    metadata resolver now criteria =
      .ok (match pipeline.indexed document selected now id with
        | none => []
        | some entity => keysOf entity criteria (criteria.usage?.getD .signing)) := by
  have represents := pipeline.indexOf_represents selected document
  rw [← index] at represents
  have found := metadata_of_named represents named now
  rw [index, pipeline.indexOf_get?] at found
  exact found

/-- A key for signing, found for the entity that publishes it. -/
theorem found_meets_iff_one_name :
    let key : KeyDescriptor := ⟨.signing, .ed25519, [], none⟩
    let entity : Entity := ⟨"a", none, none, [⟨.idpSso, [], [key], []⟩], none⟩
    let document : Document := .group ⟨none, none, none, [entity], []⟩
    let pipeline := Pipeline.plain (.file "md") fun _ => .ok document
    let state := { State.start with index := pipeline.indexOf .epoch document }
    let resolver : Resolver := ⟨pipeline, state, false⟩
    metadata resolver .epoch (.ofEntityId "a") = .ok [.ofKey "a" key] ∧
      (Credential.ofKey "a" key).meets (.ofEntityId "a") = true := by
  intro key entity document pipeline state resolver
  have index : resolver.state.index = pipeline.indexOf .epoch document := rfl
  have named : (CriteriaSet.ofEntityId "a").entityIds = ["a"] := rfl
  have found : metadata resolver .epoch (.ofEntityId "a") = .ok [.ofKey "a" key] :=
    metadata_of_published index named .epoch
  refine ⟨found, ?_⟩
  have exact := (found_meets_iff (.ofEntityId "a")).2 _ _ _ found (.ofKey "a" key)
    (List.mem_singleton_self _)
  exact exact.mpr ⟨by decide, .inl (by decide)⟩

/-- A resolver that has published one entity gives its key for two identifiers at once, and for two
    uses at once. -/
theorem second_name_unread :
    let key : KeyDescriptor := ⟨.signing, .ed25519, [], none⟩
    let entity : Entity := ⟨"a", none, none, [⟨.idpSso, [], [key], []⟩], none⟩
    let document : Document := .group ⟨none, none, none, [entity], []⟩
    let pipeline := Pipeline.plain (.file "md") fun _ => .ok document
    let surroundings : Surroundings :=
      ⟨⟨[(["md"], .file ⟨[1], 5, true⟩)]⟩, fun _ => .unanswered, true⟩
    let turn : Turn := ⟨.still .epoch, .zero, surroundings⟩
    let resolver : Resolver := ⟨pipeline, pipeline.next .start turn, false⟩
    let entities := CriteriaSet.ofList [.entityId "a", .entityId "b"]
    let usages := CriteriaSet.ofList [.entityId "a", .usage .signing, .usage .encryption]
    (Resolver.start pipeline turn.readings turn.jitter turn.surroundings).resolver = .ok resolver ∧
      ∀ criteria ∈ [entities, usages],
        metadata resolver .epoch criteria = .ok [.ofKey "a" key] ∧
          (Credential.ofKey "a" key).meets criteria = false := by
  intro key entity document pipeline surroundings turn resolver entities usages
  have obtained : pipeline.fetchIn .start turn = .ok (.fetched ⟨[1], .file, some (.file 5)⟩) := rfl
  have accepted : pipeline.accept .epoch [1] = .ok document := Pipeline.accept_plain rfl .epoch
  have index : resolver.state.index = pipeline.indexOf .epoch document :=
    Pipeline.next_index obtained accepted
  refine ⟨Resolver.start_of_accept obtained accepted, ?_⟩
  intro criteria member
  rcases List.mem_cons.mp member with rfl | later
  · have named : entities.entityIds = ["a", "b"] := rfl
    exact ⟨metadata_of_published index named .epoch, by decide⟩
  · rcases List.mem_singleton.mp later with rfl
    have named : usages.entityIds = ["a"] := rfl
    exact ⟨metadata_of_published index named .epoch, by decide⟩

end CredentialSource

end Federation
