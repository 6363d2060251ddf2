import Federation.Bytes.Basic
import Federation.Crypto.Algorithm
import Federation.Role
import Federation.Time.Instant

namespace Federation

structure KeyDescriptor where
  usage : KeyUsage
  algorithm : SignatureAlgorithm
  publicKey : Bytes
  keyName : Option String
deriving DecidableEq, Repr

structure Endpoint where
  binding : String
  location : String
deriving DecidableEq, Repr

structure RoleDescriptor where
  kind : RoleKind
  protocols : List String
  keys : List KeyDescriptor
  endpoints : List Endpoint
deriving DecidableEq, Repr

namespace RoleDescriptor

def supports (role : RoleDescriptor) (protocol : String) : Bool := role.protocols.contains protocol

def keysFor (role : RoleDescriptor) (usage : KeyUsage) : List KeyDescriptor :=
  role.keys.filter (·.usage.satisfies usage)

end RoleDescriptor

structure Entity where
  entityId : String
  validUntil : Option Instant
  cacheDuration : Option Duration
  roles : List RoleDescriptor
  organization : Option String
deriving DecidableEq, Repr

def isBefore (now : Instant) (bound : Option Instant) : Bool := bound.all (now < ·)

namespace Entity

def rolesOf (entity : Entity) (kind : RoleKind) : List RoleDescriptor :=
  entity.roles.filter (·.kind == kind)

def isValidAt (entity : Entity) (now : Instant) : Bool := isBefore now entity.validUntil

end Entity

structure Group where
  name : Option String
  validUntil : Option Instant
  cacheDuration : Option Duration
  entities : List Entity
  groups : List Group
deriving BEq, Repr

namespace Group

def empty : Group := ⟨none, none, none, [], []⟩

instance : Inhabited Group := ⟨empty⟩

/-- Induction on groups: a property of all nested groups carries over to the group. -/
theorem induction {motive : Group → Prop}
    (step : ∀ group : Group, (∀ nested ∈ group.groups, motive nested) → motive group)
    (group : Group) : motive group := by
  refine Group.rec (motive_1 := motive) (motive_2 := fun groups => ∀ nested ∈ groups, motive nested)
    ?_ ?_ ?_ group
  · intro name validUntil cacheDuration entities groups nested
    exact step _ nested
  · simp
  · intro first rest head tail nested member
    rcases List.mem_cons.mp member with rfl | member
    · exact head
    · exact tail _ member

theorem induction_lists (all : List Group → Prop) {motive : Group → Prop}
    (group : ∀ name validUntil cacheDuration entities groups, all groups →
      motive ⟨name, validUntil, cacheDuration, entities, groups⟩)
    (nil : all []) (cons : ∀ first rest, motive first → all rest → all (first :: rest))
    (g : Group) : motive g :=
  Group.rec group nil cons g

end Group

inductive Document where
  | entity (entity : Entity)
  | group (group : Group)
deriving BEq, Repr

structure FlattenedEntity where
  entity : Entity
  effectiveValidUntil : Option Instant
deriving DecidableEq, Repr

def FlattenedEntity.isValidAt (flat : FlattenedEntity) (now : Instant) : Bool :=
  isBefore now flat.effectiveValidUntil

end Federation
