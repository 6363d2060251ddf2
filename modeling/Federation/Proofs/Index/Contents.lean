import Federation.Index.Query

namespace Federation

instance : Std.TransOrd RoleKind where
  eq_swap {left right} := by cases left <;> cases right <;> rfl
  isLE_trans {first second third} left right := by
    cases first <;> cases second <;> cases third <;> first | rfl | (revert left right; decide)

instance : Std.LawfulEqOrd RoleKind where
  compare_self {kind} := by cases kind <;> rfl
  eq_of_compare {left right} same := by
    cases left <;> cases right <;> first | rfl | (revert same; decide)

def Entity.plays (entity : Entity) (kind : RoleKind) : Bool := entity.roles.any (·.kind == kind)

def FlattenedEntity.id (flat : FlattenedEntity) : String := flat.entity.entityId

def firstOccurrences (flats : List FlattenedEntity) : List FlattenedEntity :=
  flats.eraseDupsBy fun later earlier => later.id == earlier.id

def findId (flats : List FlattenedEntity) (id : String) : Option FlattenedEntity :=
  flats.find? (·.id == id)

def DistinctIds (flats : List FlattenedEntity) : Prop := (flats.map (·.id)).Nodup

theorem firstOccurrences_cons (flat : FlattenedEntity) (rest : List FlattenedEntity) :
    firstOccurrences (flat :: rest) =
      flat :: firstOccurrences (rest.filter fun other => !(other.id == flat.id)) := by
  unfold firstOccurrences
  rw [List.eraseDupsBy_cons]
  congr 2
  apply List.filter_congr
  intro other _
  cases other.id == flat.id <;> rfl

theorem firstOccurrences_of_distinct {flats : List FlattenedEntity} (distinct : DistinctIds flats) :
    firstOccurrences flats = flats := by
  induction flats with
  | nil => rfl
  | cons flat rest ih =>
    obtain ⟨fresh, others⟩ := List.nodup_cons.mp distinct
    have apart : rest.filter (fun other => !(other.id == flat.id)) = rest := by
      apply List.filter_eq_self.mpr
      intro other member
      have differs : other.id ≠ flat.id := fun same =>
        fresh (List.mem_map.mpr ⟨other, member, same⟩)
      simp [differs]
    rw [firstOccurrences_cons, apart, ih others]

theorem DistinctIds.filter {flats : List FlattenedEntity} (distinct : DistinctIds flats)
    (keep : FlattenedEntity → Bool) : DistinctIds (flats.filter keep) :=
  List.Nodup.sublist (List.filter_sublist.map _) distinct

theorem DistinctIds.append_fresh {flats : List FlattenedEntity} {flat : FlattenedEntity}
    (distinct : DistinctIds flats) (fresh : findId flats flat.id = none) :
    DistinctIds (flats ++ [flat]) := by
  unfold DistinctIds
  rw [List.map_append, List.nodup_append]
  refine ⟨distinct, by simp, ?_⟩
  intro id member other last
  obtain ⟨earlier, present, rfl⟩ := List.mem_map.mp member
  have differs := List.find?_eq_none.mp fresh earlier present
  simp only [List.map_cons, List.map_nil, List.mem_singleton] at last
  rw [last]
  simpa using differs

theorem findId_of_mem {flats : List FlattenedEntity} (distinct : DistinctIds flats)
    {flat : FlattenedEntity} (member : flat ∈ flats) : findId flats flat.id = some flat := by
  induction flats with
  | nil => cases member
  | cons first rest ih =>
    obtain ⟨fresh, others⟩ := List.nodup_cons.mp distinct
    rcases List.mem_cons.mp member with rfl | later
    · simp [findId]
    · have differs : first.id ≠ flat.id := fun same =>
        fresh (List.mem_map.mpr ⟨flat, later, same.symm⟩)
      have found := ih others later
      simp only [findId, List.find?_cons, beq_eq_false_iff_ne.mpr differs] at found ⊢
      exact found

theorem findId_append_fresh {flats : List FlattenedEntity} {flat : FlattenedEntity}
    (fresh : findId flats flat.id = none) (id : String) :
    findId (flats ++ [flat]) id = if flat.id = id then some flat else findId flats id := by
  unfold findId at fresh ⊢
  rw [List.find?_append]
  by_cases same : flat.id = id
  · subst same
    simp [fresh]
  · have differs : (flat.id == id) = false := beq_eq_false_iff_ne.mpr same
    simp [differs, same]

theorem findId_filter_other {id gone : String} (differs : gone ≠ id) (flats : List FlattenedEntity) :
    findId (flats.filter fun other => !(other.id == gone)) id = findId flats id := by
  unfold findId
  rw [List.find?_filter]
  congr 1
  funext flat
  by_cases same : flat.id = id
  · simp [same, Ne.symm differs]
  · simp [same]

/-- Induction for first occurrences: what holds of a list without one identifier holds of the list
    with an entity of that identifier in front. -/
theorem induction_without_first {motive : List FlattenedEntity → Prop} (nil : motive [])
    (cons : ∀ first rest, motive (rest.filter fun other => !(other.id == first.id)) →
      motive (first :: rest))
    (flats : List FlattenedEntity) : motive flats := by
  induction length : flats.length using Nat.strongRecOn generalizing flats with
  | ind count ih =>
    cases flats with
    | nil => exact nil
    | cons first rest =>
      have kept := List.length_filter_le (fun other => !(other.id == first.id)) rest
      rw [List.length_cons] at length
      exact cons first rest (ih _ (by omega) _ rfl)

theorem findId_firstOccurrences (flats : List FlattenedEntity) (id : String) :
    findId (firstOccurrences flats) id = findId flats id := by
  induction flats using induction_without_first with
  | nil => rfl
  | cons first rest ih =>
    rw [firstOccurrences_cons]
    by_cases same : first.id = id
    · simp [findId, same]
    · have others := ih.trans (findId_filter_other same rest)
      simp only [findId, List.find?_cons, beq_eq_false_iff_ne.mpr same] at others ⊢
      exact others

namespace Index

/-- Every part of the index is what some entities say of it. -/
structure Represents (index : Index) (flats : List FlattenedEntity) : Prop where
  ordered : index.entities = flats.map (·.entity)
  byId : ∀ id, index.byId[id]? = (findId flats id).map (·.entity)
  byRole : ∀ kind, (index.byRole.getD kind #[]).toList = (flats.map (·.entity)).filter (·.plays kind)
  expires : ∀ id, index.expires[id]? = (findId flats id).bind (·.effectiveValidUntil)
  distinct : DistinctIds flats

def contents (index : Index) : List FlattenedEntity :=
  index.entities.map fun entity => ⟨entity, index.expires[entity.entityId]?⟩

theorem Represents.expires_of_mem {index : Index} {flats : List FlattenedEntity}
    (represents : index.Represents flats) {flat : FlattenedEntity} (member : flat ∈ flats) :
    index.expires[flat.id]? = flat.effectiveValidUntil := by
  rw [represents.expires, findId_of_mem represents.distinct member]
  rfl

/-- With the ends that the index remembers, entities it holds are again what they were. -/
theorem Represents.restored {index : Index} {flats kept : List FlattenedEntity}
    (represents : index.Represents flats) (within : ∀ flat ∈ kept, flat ∈ flats) :
    (kept.map (·.entity)).map (fun entity => ⟨entity, index.expires[entity.entityId]?⟩) = kept := by
  rw [List.map_map]
  conv => rhs; rw [← List.map_id kept]
  apply List.map_congr_left
  intro flat member
  have bound := represents.expires_of_mem (within flat member)
  simp only [Function.comp_apply, id_eq, FlattenedEntity.id] at bound ⊢
  rw [bound]

theorem Represents.contents_eq {index : Index} {flats : List FlattenedEntity}
    (represents : index.Represents flats) : index.contents = flats := by
  unfold contents
  rw [represents.ordered]
  exact represents.restored fun _ member => member

theorem Represents.isCurrent_of_mem {index : Index} {flats : List FlattenedEntity}
    (represents : index.Represents flats) {flat : FlattenedEntity} (member : flat ∈ flats)
    (now : Instant) :
    index.isCurrent flat.id now = (!index.enforcesValidity || flat.isValidAt now) := by
  unfold isCurrent FlattenedEntity.isValidAt
  rw [represents.expires_of_mem member]

theorem start_represents (enforces : Bool) : (start enforces).Represents [] where
  ordered := rfl
  byId _ := by simp [start, empty, findId]
  byRole _ := by simp [start, empty]
  expires _ := by simp [start, empty, findId]
  distinct := List.nodup_nil

theorem mem_kindsOf (entity : Entity) (kind : RoleKind) :
    kind ∈ kindsOf entity ↔ entity.plays kind = true := by
  unfold kindsOf Entity.plays
  rw [List.mem_filter]
  exact and_iff_right (RoleKind.mem_all kind)

theorem kindsOf_nodup (entity : Entity) : (kindsOf entity).Nodup :=
  List.Nodup.sublist List.filter_sublist (by decide : RoleKind.all.Nodup)

/-- Each of some different kinds has the entity added at its end; the others stay. -/
theorem foldl_push_getD (entity : Entity) (kinds : List RoleKind) (distinct : kinds.Nodup)
    (table : Std.TreeMap RoleKind (Array Entity)) (kind : RoleKind) :
    ((kinds.foldl (fun table kind => table.insert kind ((table.getD kind #[]).push entity))
      table).getD kind #[]).toList =
      (table.getD kind #[]).toList ++ if kind ∈ kinds then [entity] else [] := by
  induction kinds generalizing table with
  | nil => simp
  | cons first rest ih =>
    obtain ⟨fresh, others⟩ := List.nodup_cons.mp distinct
    rw [List.foldl_cons, ih others, Std.TreeMap.getD_insert]
    by_cases same : first = kind
    · subst same
      simp [fresh]
    · have differs : compare first kind ≠ .eq := fun equal =>
        same (Std.LawfulEqOrd.eq_of_compare equal)
      have apart : kind ≠ first := Ne.symm same
      simp [differs, apart]

theorem addToRoles_getD (entity : Entity) (table : Std.TreeMap RoleKind (Array Entity))
    (kind : RoleKind) :
    ((addToRoles entity table).getD kind #[]).toList =
      (table.getD kind #[]).toList ++ [entity].filter (·.plays kind) := by
  unfold addToRoles
  rw [foldl_push_getD entity _ (kindsOf_nodup entity)]
  simp only [mem_kindsOf, List.filter_cons, List.filter_nil]

theorem Represents.contains_eq {index : Index} {flats : List FlattenedEntity}
    (represents : index.Represents flats) (id : String) :
    index.byId.contains id = (findId flats id).isSome := by
  rw [Std.TreeMap.contains_eq_isSome_getElem?, represents.byId, Option.isSome_map]

theorem Represents.insert_known {index : Index} {flats : List FlattenedEntity}
    (represents : index.Represents flats) {flat : FlattenedEntity}
    (known : (findId flats flat.id).isSome) : (index.insert flat).Represents flats := by
  have contained : index.byId.contains flat.entity.entityId = true :=
    (represents.contains_eq flat.id).trans known
  simpa only [insert, contained, if_true] using represents

theorem Represents.insert_fresh {index : Index} {flats : List FlattenedEntity}
    (represents : index.Represents flats) {flat : FlattenedEntity}
    (fresh : findId flats flat.id = none) : (index.insert flat).Represents (flats ++ [flat]) := by
  have missing : index.byId.contains flat.entity.entityId = false := by
    have absent := represents.contains_eq flat.id
    rwa [fresh] at absent
  have found := findId_append_fresh fresh
  constructor
  · have ordered := represents.ordered
    simp only [entities] at ordered
    simp [insert, missing, entities, ordered]
  · intro id
    simp only [insert, missing, Bool.false_eq_true, if_false, Std.TreeMap.getElem?_insert,
      Std.LawfulEqOrd.compare_eq_iff_eq, found id, represents.byId id]
    unfold FlattenedEntity.id
    split <;> rfl
  · intro kind
    simp only [insert, missing, Bool.false_eq_true, if_false]
    rw [addToRoles_getD, represents.byRole, List.map_append, List.filter_append]
    rfl
  · intro id
    have others := represents.expires id
    simp only [insert, missing, Bool.false_eq_true, if_false, found id]
    cases bound : flat.effectiveValidUntil with
    | none =>
      by_cases same : flat.id = id
      · subst same
        simp [others, fresh, bound]
      · simp [others, same]
    | some validUntil =>
      simp only [Std.TreeMap.getElem?_insert, Std.LawfulEqOrd.compare_eq_iff_eq, others]
      unfold FlattenedEntity.id
      split
      · simp [bound]
      · rfl
  · exact represents.distinct.append_fresh fresh

/-- Of further entities, those count whose identifier is new, each once. -/
theorem Represents.foldl_insert {index : Index} {flats : List FlattenedEntity}
    (represents : index.Represents flats) (more : List FlattenedEntity) :
    (more.foldl insert index).Represents
      (flats ++ firstOccurrences (more.filter fun flat => (findId flats flat.id).isNone)) := by
  induction more generalizing index flats with
  | nil => simpa [firstOccurrences] using represents
  | cons flat rest ih =>
    rw [List.foldl_cons]
    cases known : findId flats flat.id with
    | some earlier =>
      have present : (findId flats flat.id).isSome := by simp [known]
      have same := ih (represents.insert_known present)
      simpa [known] using same
    | none =>
      have grown := ih (represents.insert_fresh known)
      have unseen : (rest.filter fun other => (findId (flats ++ [flat]) other.id).isNone) =
          (rest.filter fun other => (findId flats other.id).isNone).filter
            fun other => !(other.id == flat.id) := by
        rw [List.filter_filter]
        apply List.filter_congr
        intro other _
        rw [findId_append_fresh known]
        by_cases same : flat.id = other.id
        · simp [same]
        · simp [same, Ne.symm same]
      rw [unseen, List.append_assoc, List.singleton_append, ← firstOccurrences_cons] at grown
      simpa [known] using grown

theorem ofFlattened_represents (flats : List FlattenedEntity) (enforces : Bool) :
    (ofFlattened flats enforces).Represents (firstOccurrences flats) := by
  have built := (start_represents enforces).foldl_insert flats
  have unseen : (flats.filter fun flat => (findId [] flat.id).isNone) = flats :=
    List.filter_eq_self.mpr fun _ _ => rfl
  rw [unseen, List.nil_append] at built
  exact built

theorem ofFlattened_enforcesValidity (flats : List FlattenedEntity) (enforces : Bool) :
    (ofFlattened flats enforces).enforcesValidity = enforces := by
  have kept : ∀ index : Index, (flats.foldl insert index).enforcesValidity = index.enforcesValidity := by
    induction flats with
    | nil => exact fun _ => rfl
    | cons flat rest ih =>
      intro index
      rw [List.foldl_cons, ih]
      simp only [insert]
      split <;> rfl
  exact kept (start enforces)

theorem contents_ofFlattened (flats : List FlattenedEntity) (enforces : Bool) :
    (ofFlattened flats enforces).contents = firstOccurrences flats :=
  (ofFlattened_represents flats enforces).contents_eq

end Index

def FlattenedEntity.isServed (enforces : Bool) (now : Instant) (flat : FlattenedEntity) : Bool :=
  !enforces || flat.isValidAt now

namespace Index

theorem Represents.get?_eq {index : Index} {flats : List FlattenedEntity}
    (represents : index.Represents flats) (id : String) (now : Instant) :
    index.get? id now =
      ((findId flats id).filter (·.isServed index.enforcesValidity now)).map (·.entity) := by
  unfold get?
  rw [represents.byId]
  cases found : findId flats id with
  | none => rfl
  | some flat =>
    have named : flat.id = id := by
      have same := List.find?_some found
      exact eq_of_beq same
    have current := represents.isCurrent_of_mem (List.mem_of_find?_eq_some found) now
    rw [named] at current
    simp only [Option.map_some, Option.filter_some, current, FlattenedEntity.isServed]
    split <;> rfl

theorem Represents.current_eq {index : Index} {flats : List FlattenedEntity}
    (represents : index.Represents flats) (now : Instant) :
    index.current now = flats.filter (·.isServed index.enforcesValidity now) := by
  unfold current
  rw [represents.ordered, List.filter_map]
  have served : flats.filter ((fun entity => index.isCurrent entity.entityId now) ∘ (·.entity)) =
      flats.filter (·.isServed index.enforcesValidity now) :=
    List.filter_congr fun flat member => represents.isCurrent_of_mem member now
  rw [served]
  exact represents.restored fun _ member => (List.mem_filter.mp member).1

theorem Represents.all_current_iff {index : Index} {flats : List FlattenedEntity}
    (represents : index.Represents flats) (now : Instant) :
    (index.entities.all fun entity => index.isCurrent entity.entityId now) = true ↔
      ∀ flat ∈ flats, flat.isServed index.enforcesValidity now = true := by
  rw [represents.ordered, List.all_map, List.all_eq_true]
  apply forall₂_congr
  intro flat member
  exact iff_of_eq (congrArg (· = true) (represents.isCurrent_of_mem member now))

def prune (index : Index) (now : Instant) : Index := (index.withoutExpired? now).getD index

theorem prune_enforcesValidity (index : Index) (now : Instant) :
    (index.prune now).enforcesValidity = index.enforcesValidity := by
  unfold prune withoutExpired?
  split
  · rfl
  · exact ofFlattened_enforcesValidity _ _

theorem Represents.prune {index : Index} {flats : List FlattenedEntity}
    (represents : index.Represents flats) (now : Instant) :
    (index.prune now).Represents (flats.filter (·.isServed index.enforcesValidity now)) := by
  unfold Index.prune withoutExpired?
  split
  · rename_i all
    have whole := (represents.all_current_iff now).mp all
    rw [List.filter_eq_self.mpr whole]
    exact represents
  · rw [represents.current_eq]
    have kept := represents.distinct.filter (·.isServed index.enforcesValidity now)
    have built := ofFlattened_represents (flats.filter (·.isServed index.enforcesValidity now))
      index.enforcesValidity
    rwa [firstOccurrences_of_distinct kept] at built

theorem foldl_prune_enforcesValidity (index : Index) (times : List Instant) :
    (times.foldl Index.prune index).enforcesValidity = index.enforcesValidity := by
  induction times generalizing index with
  | nil => rfl
  | cons now rest ih => rw [List.foldl_cons, ih, prune_enforcesValidity]

/-- Pruned again and again, an index keeps the entities that were served every time. -/
theorem Represents.foldl_prune {index : Index} {flats : List FlattenedEntity}
    (represents : index.Represents flats) (times : List Instant) :
    (times.foldl Index.prune index).Represents
      (flats.filter fun flat => times.all (flat.isServed index.enforcesValidity ·)) := by
  induction times generalizing index flats with
  | nil =>
    have all : (flats.filter fun _ => true) = flats := List.filter_eq_self.mpr fun _ _ => rfl
    simpa only [List.foldl_nil, List.all_nil, all] using represents
  | cons now rest ih =>
    have pruned := ih (represents.prune now)
    rw [List.filter_filter, prune_enforcesValidity] at pruned
    simpa only [List.foldl_cons, List.all_cons, Bool.and_comm] using pruned

theorem prune_of_withoutExpired? {index rest : Index} {now : Instant}
    (left : index.withoutExpired? now = some rest) : index.prune now = rest := by
  unfold prune
  rw [left]
  rfl

inductive Reachable : Index → Prop where
  | empty : Reachable .empty
  | ofEntities (entities : List Entity) : Reachable (.ofEntities entities)
  | ofFlattened (flats : List FlattenedEntity) (enforces : Bool) :
    Reachable (.ofFlattened flats enforces)
  | withoutExpired {index rest : Index} (now : Instant) (reachable : Reachable index)
    (left : index.withoutExpired? now = some rest) : Reachable rest

theorem Reachable.represents {index : Index} (reachable : index.Reachable) :
    index.Represents index.contents := by
  have exists_flats : ∃ flats, index.Represents flats := by
    induction reachable with
    | empty => exact ⟨_, start_represents false⟩
    | ofEntities entities => exact ⟨_, ofFlattened_represents _ _⟩
    | ofFlattened flats enforces => exact ⟨_, ofFlattened_represents _ _⟩
    | withoutExpired now _ left ih =>
      obtain ⟨flats, represents⟩ := ih
      exact ⟨_, prune_of_withoutExpired? left ▸ represents.prune now⟩
  obtain ⟨flats, represents⟩ := exists_flats
  rw [represents.contents_eq]
  exact represents

end Index

end Federation
