import Federation.Document.Basic
import Federation.Json.Shape

/-!
Drafts: documents whose members have the right types, while algorithms and keys are still text.

An object is read in ascending order of its members' names, so of several faults the one under the
smallest name is reported, and required members that are absent come after all of them. An array in
place of an object holds the fields in their declared order; fields with a default may be left off
its end.
-/

namespace Federation.Draft

open Json

structure Key where
  usage : KeyUsage
  algorithm : String
  publicKey : String
  keyName : Option String
deriving DecidableEq, Repr

structure Role where
  kind : RoleKind
  protocols : List String
  keys : List Key
  endpoints : List Endpoint
deriving DecidableEq, Repr

structure Entity where
  entityId : String
  validUntil : Option Instant
  cacheDuration : Option UInt64
  organization : Option String
  roles : List Role
deriving DecidableEq, Repr

structure Group where
  name : Option String
  validUntil : Option Instant
  cacheDuration : Option UInt64
  entities : List Entity
  groups : List Group
deriving BEq, Repr

theorem Group.induction {motive : Group → Prop}
    (step : ∀ group : Group, (∀ nested ∈ group.groups, motive nested) → motive group)
    (group : Group) : motive group := by
  refine Group.rec (motive_1 := motive) (motive_2 := fun groups => ∀ nested ∈ groups, motive nested)
    ?_ ?_ ?_ group
  · intro name validUntil cacheDuration entities groups nested
    exact step _ nested
  · exact fun _ member => absurd member List.not_mem_nil
  · intro first rest head tail nested member
    rcases List.mem_cons.mp member with rfl | member
    · exact head
    · exact tail _ member

def roleKinds : List (String × RoleKind) := RoleKind.all.map fun kind => (kind.name, kind)

def keyUsages : List (String × KeyUsage) := KeyUsage.all.map fun usage => (usage.name, usage)

def endpoint : Value → Shape Endpoint
  | .object members => do
    let binding ← member "binding" asString members
    let location ← member "location" asString members
    return ⟨← required "binding" binding, ← required "location" location⟩
  | .array fields => do
    let binding ← positionAt "struct Endpoint with 2 elements" 0 asString fields
    let location ← positionAt "struct Endpoint with 2 elements" 1 asString fields
    noneAfter 2 fields
    return ⟨binding, location⟩
  | found => .error (.wrongType found "struct Endpoint")

def key : Value → Shape Key
  | .object members => do
    let algorithm ← member "algorithm" asString members
    let keyName ← optionalMember "keyName" asString members
    let publicKey ← member "publicKey" asString members
    let usage ← member "use" (asVariant keyUsages) members
    return {
      usage := usage.getD .unspecified
      algorithm := ← required "algorithm" algorithm
      publicKey := ← required "publicKey" publicKey
      keyName }
  | .array fields => do
    let expected := "struct RawKey with 4 elements"
    let usage ← positionOr .unspecified 0 (asVariant keyUsages) fields
    let algorithm ← positionAt expected 1 asString fields
    let publicKey ← positionAt expected 2 asString fields
    let keyName ← positionAt expected 3 (asOptional asString) fields
    noneAfter 4 fields
    return ⟨usage, algorithm, publicKey, keyName⟩
  | found => .error (.wrongType found "struct RawKey")

def role : Value → Shape Role
  | .object members => do
    let endpoints ← member "endpoints" (asList endpoint) members
    let keys ← member "keys" (asList key) members
    let kind ← member "kind" (asVariant roleKinds) members
    let protocols ← member "protocols" (asList asString) members
    return {
      kind := ← required "kind" kind
      protocols := protocols.getD []
      keys := keys.getD []
      endpoints := endpoints.getD [] }
  | .array fields => do
    let kind ← positionAt "struct RawRole with 4 elements" 0 (asVariant roleKinds) fields
    let protocols ← positionOr [] 1 (asList asString) fields
    let keys ← positionOr [] 2 (asList key) fields
    let endpoints ← positionOr [] 3 (asList endpoint) fields
    noneAfter 4 fields
    return ⟨kind, protocols, keys, endpoints⟩
  | found => .error (.wrongType found "struct RawRole")

def entity : Value → Shape Entity
  | .object members => do
    let cacheDuration ← optionalMember "cacheDuration" asNatural members
    let entityId ← member "entityID" asString members
    let organization ← optionalMember "organization" asString members
    let roles ← member "roles" (asList role) members
    let validUntil ← optionalMember "validUntil" asInstant members
    return {
      entityId := ← required "entityID" entityId
      validUntil, cacheDuration, organization
      roles := roles.getD [] }
  | .array fields => do
    let expected := "struct RawEntity with 5 elements"
    let entityId ← positionAt expected 0 asString fields
    let validUntil ← positionAt expected 1 (asOptional asInstant) fields
    let cacheDuration ← positionAt expected 2 (asOptional asNatural) fields
    let organization ← positionAt expected 3 (asOptional asString) fields
    let roles ← positionOr [] 4 (asList role) fields
    noneAfter 5 fields
    return ⟨entityId, validUntil, cacheDuration, organization, roles⟩
  | found => .error (.wrongType found "struct RawEntity")

mutual

def group : Value → Shape Group
  | .object members => do
    let cacheDuration ← optionalMember "cacheDuration" asNatural members
    let entities ← member "entities" (asList entity) members
    let groups ← groupsMember members
    let name ← optionalMember "name" asString members
    let validUntil ← optionalMember "validUntil" asInstant members
    return ⟨name, validUntil, cacheDuration, entities.getD [], groups⟩
  | .array fields => do
    let expected := "struct RawGroup with 5 elements"
    let name ← positionAt expected 0 (asOptional asString) fields
    let validUntil ← positionAt expected 1 (asOptional asInstant) fields
    let cacheDuration ← positionAt expected 2 (asOptional asNatural) fields
    let entities ← positionOr [] 3 (asList entity) fields
    let groups ← groupsAt 4 fields
    noneAfter 5 fields
    return ⟨name, validUntil, cacheDuration, entities, groups⟩
  | found => .error (.wrongType found "struct RawGroup")

def groupsMember : List (String × Value) → Shape (List Group)
  | [] => .ok []
  | (name, value) :: rest => if name = "groups" then groupList value else groupsMember rest

def groupsAt : Nat → List Value → Shape (List Group)
  | _, [] => .ok []
  | 0, value :: _ => groupList value
  | position + 1, _ :: rest => groupsAt position rest

def groupList : Value → Shape (List Group)
  | .array elements => groupElements elements
  | found => .error (.wrongType found "a sequence")

def groupElements : List Value → Shape (List Group)
  | [] => .ok []
  | first :: rest => do
    let value ← group first
    let values ← groupElements rest
    return value :: values

end

theorem groupElements_eq (elements : List Value) : groupElements elements = readAll group elements := by
  induction elements with
  | nil => rfl
  | cons first rest ih => simp only [groupElements, readAll, ih]

theorem groupList_eq (value : Value) : groupList value = asList group value := by
  cases value <;> simp [groupList, asList, groupElements_eq]

theorem groupsMember_eq (members : List (String × Value)) :
    groupsMember members = (member "groups" (asList group) members).map (·.getD []) := by
  induction members with
  | nil => simp [groupsMember, member, member?, Except.map]
  | cons first rest ih =>
    obtain ⟨name, value⟩ := first
    by_cases same : name = "groups"
    · simp only [groupsMember, member, member?, same, if_true, groupList_eq]
      cases asList group value <;> rfl
    · simpa [groupsMember, member, member?, same] using ih

end Federation.Draft
