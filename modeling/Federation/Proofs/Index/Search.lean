import Federation.Proofs.Index.Contents

namespace Federation

namespace CriteriaSet

theorem mem_filterMap {β : Type} {criteria : CriteriaSet} {reading : Criterion → Option β}
    {naming : β → Criterion}
    (reads : ∀ criterion value, reading criterion = some value ↔ criterion = naming value) {value : β} :
    value ∈ criteria.items.filterMap reading ↔ naming value ∈ criteria.items := by
  rw [List.mem_filterMap]
  constructor
  · rintro ⟨criterion, member, named⟩
    rwa [← (reads criterion value).mp named]
  · exact fun member => ⟨_, member, (reads _ value).mpr rfl⟩

theorem mem_entityIds {criteria : CriteriaSet} {id : String} :
    id ∈ criteria.entityIds ↔ .entityId id ∈ criteria.items :=
  mem_filterMap fun criterion _ => by cases criterion <;> simp

theorem mem_roles {criteria : CriteriaSet} {kind : RoleKind} :
    kind ∈ criteria.roles ↔ .role kind ∈ criteria.items :=
  mem_filterMap fun criterion _ => by cases criterion <;> simp

theorem mem_usages {criteria : CriteriaSet} {usage : KeyUsage} :
    usage ∈ criteria.usages ↔ .usage usage ∈ criteria.items :=
  mem_filterMap fun criterion _ => by cases criterion <;> simp

end CriteriaSet

theorem Entity.meetsCriterion_of_meets {entity : Entity} {criteria : CriteriaSet}
    (meets : entity.meets criteria = true) {criterion : Criterion} (member : criterion ∈ criteria.items) :
    entity.meetsCriterion criteria criterion = true :=
  List.all_eq_true.mp meets criterion member

theorem Entity.entityId_of_meets {entity : Entity} {criteria : CriteriaSet}
    (meets : entity.meets criteria = true) {id : String} (named : id ∈ criteria.entityIds) :
    entity.entityId = id := by
  have met := entity.meetsCriterion_of_meets meets (CriteriaSet.mem_entityIds.mp named)
  exact eq_of_beq met

theorem Entity.plays_of_meets {entity : Entity} {criteria : CriteriaSet}
    (meets : entity.meets criteria = true) {kind : RoleKind} (named : kind ∈ criteria.roles) :
    entity.plays kind = true :=
  entity.meetsCriterion_of_meets meets (CriteriaSet.mem_roles.mp named)

theorem Entity.meets_ofEntityId (entity : Entity) (id : String) :
    entity.meets (.ofEntityId id) = (entity.entityId == id) := by
  show (entity.meetsCriterion _ (.entityId id) && true) = _
  rw [Bool.and_true]
  rfl

namespace Query

def nth (query : Query) : Nat → Option Entity
  | 0 => query.next.1
  | count + 1 => query.next.2.nth count

theorem firstAccepted_none {query : Query} {candidates : List Entity}
    (none : (query.firstAccepted candidates).1 = none) : (query.firstAccepted candidates).2 = [] := by
  induction candidates with
  | nil => rfl
  | cons entity rest ih =>
    unfold firstAccepted at none ⊢
    split at none
    · cases none
    · rename_i refused
      rw [if_neg refused]
      exact ih none

theorem toList_of_next_none {query : Query} (none : query.next.1 = none) :
    query.toList = [] ∧ query.next.2.toList = [] := by
  have exhausted : query.next.2.toList = [] := by
    change (query.firstAccepted query.candidates).2.filter query.accepts = []
    rw [firstAccepted_none none]
    rfl
  refine ⟨?_, exhausted⟩
  rw [toList_next, none, exhausted]
  rfl

theorem nth_eq_getElem? (query : Query) (count : Nat) : query.nth count = query.toList[count]? := by
  induction count generalizing query with
  | zero =>
    unfold nth
    cases found : query.next.1 with
    | none => rw [(toList_of_next_none found).1]; rfl
    | some entity => rw [toList_next, found]; rfl
  | succ count ih =>
    unfold nth
    rw [ih]
    cases found : query.next.1 with
    | none => rw [(toList_of_next_none found).1, (toList_of_next_none found).2]; rfl
    | some entity => rw [query.toList_next, found]; rfl

end Query

/-- Where identifiers are distinct, a search that requires one finds what stands under it. -/
theorem filter_of_requires_id {flats : List FlattenedEntity} (distinct : DistinctIds flats)
    {id : String} (accepts : FlattenedEntity → Bool)
    (requires : ∀ flat, accepts flat = true → flat.id = id) :
    (findId flats id).toList.filter accepts = flats.filter accepts := by
  induction flats with
  | nil => rfl
  | cons first rest ih =>
    obtain ⟨fresh, others⟩ := List.nodup_cons.mp distinct
    by_cases same : first.id = id
    · have unaccepted : rest.filter accepts = [] := by
        apply List.filter_eq_nil_iff.mpr
        intro other member accepted
        exact fresh (List.mem_map.mpr ⟨other, member, (requires other accepted).trans same.symm⟩)
      simp [findId, same, List.filter_cons, unaccepted]
    · have refused : accepts first = false := by
        apply Bool.eq_false_iff.mpr
        exact fun accepted => same (requires first accepted)
      have found := ih others
      simp only [findId, List.find?_cons, beq_eq_false_iff_ne.mpr same, List.filter_cons, refused]
        at found ⊢
      exact found

namespace Index

/-- The entities that are served at an instant and meet the criteria, if there are any criteria. -/
def matching (index : Index) (criteria : CriteriaSet) (now : Instant) : List Entity :=
  if criteria.isEmpty then []
  else
    (index.contents.filter fun flat =>
      flat.isServed index.enforcesValidity now && flat.entity.meets criteria).map (·.entity)

/-- The candidates leave out no entity that meets the criteria. -/
theorem Represents.candidates_filter {index : Index} {flats : List FlattenedEntity}
    (represents : index.Represents flats) {criteria : CriteriaSet} (some : criteria.isEmpty = false)
    (accepts : Entity → Bool) (meets : ∀ entity, accepts entity = true → entity.meets criteria = true) :
    (index.candidates criteria).filter accepts = index.entities.filter accepts := by
  unfold candidates
  rw [some, if_neg Bool.false_ne_true, represents.ordered]
  cases ids : criteria.entityIds with
  | cons id others =>
    have requires : ∀ flat : FlattenedEntity, accepts flat.entity = true → flat.id = id := by
      intro flat accepted
      exact flat.entity.entityId_of_meets (meets _ accepted) (by rw [ids]; exact List.mem_cons_self)
    have found := filter_of_requires_id represents.distinct (accepts ∘ (·.entity)) requires
    rw [List.filter_map, ← found]
    simp only [represents.byId]
    cases findId flats id with
    | none => rfl
    | some flat => simp [List.filter_cons]; split <;> rfl
  | nil =>
    cases kinds : criteria.roles with
    | cons kind others =>
      simp only [represents.byRole, List.filter_filter]
      apply List.filter_congr
      intro entity _
      cases accepted : accepts entity with
      | false => rfl
      | true =>
        have plays := entity.plays_of_meets (meets _ accepted)
          (by rw [kinds]; exact List.mem_cons_self)
        rw [plays]
        rfl
    | nil => rfl

theorem Represents.query_toList {index : Index} {flats : List FlattenedEntity}
    (represents : index.Represents flats) (criteria : CriteriaSet) (now : Instant) :
    (index.query criteria now).toList = index.matching criteria now := by
  unfold matching Query.toList
  cases empty : criteria.isEmpty with
  | true => simp [query, candidates, empty]
  | false =>
    have complete := represents.candidates_filter empty
      (index.query criteria now).accepts fun entity accepted =>
        (Bool.and_eq_true_iff.mp accepted).2
    rw [if_neg Bool.false_ne_true, represents.contents_eq]
    refine complete.trans ?_
    rw [represents.ordered, List.filter_map]
    congr 1
    apply List.filter_congr
    intro flat member
    exact congrArg (· && flat.entity.meets criteria) (represents.isCurrent_of_mem member now)

theorem Represents.get?_eq_next {index : Index} {flats : List FlattenedEntity}
    (represents : index.Represents flats) (id : String) (now : Instant) :
    index.get? id now = (index.query (.ofEntityId id) now).next.1 := by
  have candidates : index.candidates (.ofEntityId id) = index.byId[id]?.toList := rfl
  unfold get? Query.next query
  rw [candidates, represents.byId]
  cases found : findId flats id with
  | none => rfl
  | some flat =>
    have named : flat.entity.entityId = id := by
      have same := List.find?_some found
      exact eq_of_beq same
    simp only [Option.map_some, Option.filter_some, Option.toList_some, Query.firstAccepted,
      Query.accepts, Entity.meets_ofEntityId, named, beq_self_eq_true, Bool.and_true]
    split <;> rfl

theorem matching_ids_nodup {index : Index} (distinct : DistinctIds index.contents)
    (criteria : CriteriaSet) (now : Instant) :
    ((index.matching criteria now).map (·.entityId)).Nodup := by
  unfold matching
  split
  · exact List.nodup_nil
  · rw [List.map_map]
    exact distinct.filter _

/-- An index that is built holds the first entity of each identifier, and pruning takes away those that
    have ended. Whatever is left, a search gives the entities that match, each once and in order, and
    then nothing; and looking up an identifier is searching for it. -/
theorem searches_exact :
    (∀ flats enforces, (ofFlattened flats enforces).contents = firstOccurrences flats) ∧
    (∀ entities, (ofEntities entities).contents = firstOccurrences (entities.map (⟨·, none⟩))) ∧
    (∀ index rest : Index, index.Reachable → ∀ now, index.withoutExpired? now = some rest →
      rest.contents = index.contents.filter (·.isServed index.enforcesValidity now) ∧
        rest.enforcesValidity = index.enforcesValidity) ∧
    ∀ index : Index, index.Reachable → ∀ now : Instant,
      (∀ criteria,
        ((index.matching criteria now).map (·.entityId)).Nodup ∧
        ∀ count, (index.query criteria now).nth count = (index.matching criteria now)[count]?) ∧
      ∀ id, index.get? id now = (index.query (.ofEntityId id) now).nth 0 := by
  refine ⟨contents_ofFlattened, fun entities => contents_ofFlattened _ _, ?_, ?_⟩
  · intro index rest reachable now left
    rw [← prune_of_withoutExpired? left]
    exact ⟨(reachable.represents.prune now).contents_eq, index.prune_enforcesValidity now⟩
  · intro index reachable now
    have represents := reachable.represents
    refine ⟨fun criteria => ⟨matching_ids_nodup represents.distinct criteria now, ?_⟩, ?_⟩
    · intro count
      rw [Query.nth_eq_getElem?, represents.query_toList]
    · exact fun id => represents.get?_eq_next id now

/-- Of two entities with one identifier the first is found, in an index that passes over nothing. -/
theorem searches_exact_twice :
    let first : FlattenedEntity := ⟨⟨"a", none, none, [⟨.idpSso, [], [], []⟩], none⟩, some .epoch⟩
    let again : FlattenedEntity := ⟨⟨"a", none, none, [⟨.spSso, [], [], []⟩], none⟩, none⟩
    let index := ofFlattened [first, again] false
    index.Reachable ∧
      (index.query (.ofEntityId "a") .epoch).nth 0 = some first.entity ∧
      (index.query (.ofEntityId "a") .epoch).nth 1 = none ∧
      index.get? "a" .epoch = some first.entity := by
  intro first again index
  have reachable : index.Reachable := .ofFlattened _ _
  have exact := searches_exact.2.2.2 index reachable .epoch
  have found : index.matching (.ofEntityId "a") .epoch = [first.entity] := by
    unfold matching
    rw [searches_exact.1]
    decide
  have searched := (exact.1 (.ofEntityId "a")).2
  rw [found] at searched
  exact ⟨reachable, searched 0, searched 1, (exact.2 "a").trans (searched 0)⟩

end Index

end Federation
