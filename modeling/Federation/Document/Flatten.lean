import Federation.Document.Basic

namespace Federation

def Entity.flattenUnder (bound : Option Instant) (entity : Entity) : FlattenedEntity :=
  ⟨entity, Instant.earliest bound entity.validUntil⟩

mutual

def Group.entityCount : Group → Nat
  | ⟨_, _, _, entities, groups⟩ => entities.length + Group.entityCounts groups

def Group.entityCounts : List Group → Nat
  | [] => 0
  | group :: groups => group.entityCount + Group.entityCounts groups

end

mutual

def Group.flattenUnder (inherited : Option Instant) : Group → List FlattenedEntity
  | ⟨_, validUntil, _, entities, groups⟩ =>
    let bound := Instant.earliest inherited validUntil
    entities.map (Entity.flattenUnder bound) ++ Group.flattenAll bound groups

def Group.flattenAll (inherited : Option Instant) : List Group → List FlattenedEntity
  | [] => []
  | group :: groups => group.flattenUnder inherited ++ Group.flattenAll inherited groups

end

/-- What a declaration expires at: the end of validity, or the end of the time it may be cached if
    that is an instant. -/
def expiration (now : Instant) (validUntil : Option Instant) (cacheDuration : Option Duration) :
    Option Instant :=
  Instant.earliest validUntil (cacheDuration.bind now.after?)

def Entity.expiration (now : Instant) (entity : Entity) : Option Instant :=
  Federation.expiration now entity.validUntil entity.cacheDuration

mutual

def Group.earliestExpiration (now : Instant) : Group → Option Instant
  | ⟨_, validUntil, cacheDuration, entities, groups⟩ =>
    Group.earliestOf now
      (entities.foldl (fun found entity => Instant.earliest found (entity.expiration now))
        (expiration now validUntil cacheDuration))
      groups

def Group.earliestOf (now : Instant) (found : Option Instant) : List Group → Option Instant
  | [] => found
  | group :: groups =>
    Group.earliestOf now (Instant.earliest found (group.earliestExpiration now)) groups

end

namespace Document

def validUntil : Document → Option Instant
  | entity e => e.validUntil
  | group g => g.validUntil

def entityCount : Document → Nat
  | entity _ => 1
  | group g => g.entityCount

def flatten : Document → List FlattenedEntity
  | entity e => [⟨e, e.validUntil⟩]
  | group g => g.flattenUnder none

def earliestExpiration (now : Instant) : Document → Option Instant
  | entity e => e.expiration now
  | group g => g.earliestExpiration now

end Document

end Federation
