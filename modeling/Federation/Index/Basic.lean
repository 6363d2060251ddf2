import Federation.Document.Flatten
import Std.Data.TreeMap

/-!
Indexes of entities. An index is built once from entities in order and never changed; of entities
with one identifier the first counts. An index that enforces validity remembers when each entity
ends, and passes over entities that have ended.
-/

namespace Federation

structure Index where
  byId : Std.TreeMap String Entity
  byRole : Std.TreeMap RoleKind (Array Entity)
  ordered : Array Entity
  expires : Std.TreeMap String Instant
  enforcesValidity : Bool

namespace Index

def empty : Index := ⟨{}, {}, #[], {}, false⟩

instance : Inhabited Index := ⟨empty⟩

def start (enforcesValidity : Bool) : Index := { empty with enforcesValidity }

def kindsOf (entity : Entity) : List RoleKind :=
  RoleKind.all.filter fun kind => entity.roles.any (·.kind == kind)

def addToRoles (entity : Entity) (byRole : Std.TreeMap RoleKind (Array Entity)) :
    Std.TreeMap RoleKind (Array Entity) :=
  (kindsOf entity).foldl (fun table kind => table.insert kind ((table.getD kind #[]).push entity)) byRole

def insert (index : Index) (flat : FlattenedEntity) : Index :=
  let entity := flat.entity
  if index.byId.contains entity.entityId then index
  else { index with
    byId := index.byId.insert entity.entityId entity
    byRole := addToRoles entity index.byRole
    ordered := index.ordered.push entity
    expires := match flat.effectiveValidUntil with
      | some validUntil => index.expires.insert entity.entityId validUntil
      | none => index.expires }

def ofFlattened (entities : List FlattenedEntity) (enforcesValidity : Bool) : Index :=
  entities.foldl insert (start enforcesValidity)

def ofEntities (entities : List Entity) : Index :=
  ofFlattened (entities.map fun entity => ⟨entity, none⟩) false

def isCurrent (index : Index) (entityId : String) (now : Instant) : Bool :=
  !index.enforcesValidity || isBefore now index.expires[entityId]?

def entities (index : Index) : List Entity := index.ordered.toList

def size (index : Index) : Nat := index.ordered.size

def isEmpty (index : Index) : Bool := index.ordered.isEmpty

def get? (index : Index) (entityId : String) (now : Instant) : Option Entity :=
  index.byId[entityId]?.filter fun _ => index.isCurrent entityId now

def current (index : Index) (now : Instant) : List FlattenedEntity :=
  (index.entities.filter fun entity => index.isCurrent entity.entityId now).map
    fun entity => ⟨entity, index.expires[entity.entityId]?⟩

def withoutExpired? (index : Index) (now : Instant) : Option Index :=
  if index.entities.all fun entity => index.isCurrent entity.entityId now then none
  else some (ofFlattened (index.current now) index.enforcesValidity)

end Index

end Federation
