import Federation.Proofs.Cycle.History
import Federation.Proofs.Index.Search
import Federation.Proofs.Trust.Keys

namespace Federation

namespace Criterion

variable {β : Type} {reading : Criterion → Option β} {criterion : Criterion}

end Criterion

namespace CriteriaSet

end CriteriaSet

namespace Pipeline

/-- The entity of an identifier in a document that was published: the first of those that had not
    ended when the index was made, unless it has ended since. -/
def indexed (pipeline : Pipeline) (document : Document) (selected now : Instant) (id : String) :
    Option Entity :=
  ((findId (pipeline.select selected document) id).filter
    (·.isServed pipeline.settings.requiresValid now)).map (·.entity)

theorem indexOf_get? (pipeline : Pipeline) (document : Document) (selected now : Instant) (id : String) :
    (pipeline.indexOf selected document).get? id now = pipeline.indexed document selected now id := by
  rw [(pipeline.indexOf_represents selected document).get?_eq, findId_firstOccurrences,
    indexOf_enforcesValidity]
  rfl

end Pipeline

theorem Resolver.resolveSingle_eq_next (resolver : Resolver) (id : String) (now : Instant) :
    resolver.resolveSingle (.ofEntityId id) now =
      .ok (resolver.state.index.query (.ofEntityId id) now).next.1 := by
  have named : (CriteriaSet.ofEntityId id).hasEntityId = true := rfl
  have some : (CriteriaSet.ofEntityId id).ensureNotEmpty = .ok () := rfl
  simp only [resolveSingle, resolve, some, named, Bind.bind, Except.bind, Pure.pure, Except.pure,
    Bool.not_true, Bool.and_false, Bool.false_and, Bool.false_eq_true, if_false]

theorem Resolver.resolveSingle_ofEntityId {resolver : Resolver} {flats : List FlattenedEntity}
    (represents : resolver.state.index.Represents flats) (id : String) (now : Instant) :
    resolver.resolveSingle (.ofEntityId id) now = .ok (resolver.state.index.get? id now) := by
  rw [resolver.resolveSingle_eq_next, represents.get?_eq_next]

/-- A key of an algorithm that an entity publishes for a use, in a role of the kinds that are named,
    or in any if none is. -/
def Entity.Offers (entity : Entity) (basis : CriteriaSet) (usage : KeyUsage)
    (algorithm : SignatureAlgorithm) (key : KeyDescriptor) : Prop :=
  ∃ role ∈ entity.roles, (basis.roles = [] ∨ role.kind ∈ basis.roles) ∧ key ∈ role.keys ∧
    key.usage.satisfies usage = true ∧ key.algorithm = algorithm

theorem CriteriaSet.covers_iff (criteria : CriteriaSet) (role : RoleDescriptor) :
    criteria.covers role = true ↔ criteria.roles = [] ∨ role.kind ∈ criteria.roles := by
  unfold covers
  rw [Bool.or_eq_true, List.isEmpty_iff, List.contains_iff_mem]

namespace CredentialSource

theorem mem_keysOf {entity : Entity} {criteria : CriteriaSet} {usage : KeyUsage}
    {credential : Credential} :
    credential ∈ keysOf entity criteria usage ↔
      ∃ key, entity.Offers criteria usage credential.algorithm key ∧
        credential = .ofKey entity.entityId key := by
  unfold keysOf RoleDescriptor.keysFor
  simp only [List.mem_flatMap, List.mem_filter, List.mem_map, criteria.covers_iff]
  constructor
  · rintro ⟨role, ⟨member, covered⟩, key, ⟨published, satisfies⟩, rfl⟩
    exact ⟨key, ⟨role, member, covered, published, satisfies, rfl⟩, rfl⟩
  · rintro ⟨key, ⟨role, member, covered, published, satisfies, _⟩, rfl⟩
    exact ⟨role, ⟨member, covered⟩, key, ⟨published, satisfies⟩, rfl⟩

theorem metadata_of_named {resolver : Resolver} {flats : List FlattenedEntity}
    (represents : resolver.state.index.Represents flats) {criteria : CriteriaSet} {id : String}
    {others : List String} (named : criteria.entityIds = id :: others) (now : Instant) :
    metadata resolver now criteria =
      .ok (match resolver.state.index.get? id now with
        | none => []
        | some entity => keysOf entity criteria (criteria.usage?.getD .signing)) := by
  unfold metadata
  rw [named]
  dsimp only
  rw [Resolver.resolveSingle_ofEntityId represents]
  simp only [Except.mapError, Bind.bind, Except.bind]
  cases resolver.state.index.get? id now <;> rfl

end CredentialSource

namespace ExplicitTrust

end ExplicitTrust

def Pipeline.Offers (pipeline : Pipeline) (document : Document) (selected now : Instant) (id : String)
    (basis : CriteriaSet) (algorithm : SignatureAlgorithm) (key : KeyDescriptor) : Prop :=
  ∃ entity, pipeline.indexed document selected now id = some entity ∧
    entity.Offers basis (basis.usages.headD .signing) algorithm key

namespace ExplicitTrust

end ExplicitTrust

end Federation
