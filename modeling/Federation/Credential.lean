import Federation.Crypto.Signing
import Federation.Resolver.Basic

namespace Federation

structure Credential where
  entityId : Option String
  keyName : Option String
  usage : KeyUsage
  algorithm : SignatureAlgorithm
  publicKey : Bytes
deriving DecidableEq, Repr

namespace Credential

def ofKey (entityId : String) (key : KeyDescriptor) : Credential :=
  ⟨some entityId, key.keyName, key.usage, key.algorithm, key.publicKey⟩

def meetsCriterion (credential : Credential) : Criterion → Bool
  | .entityId id => credential.entityId == some id
  | .usage usage => credential.usage.satisfies usage
  | .role _ | .protocol _ => true

def meets (credential : Credential) (criteria : CriteriaSet) : Bool :=
  criteria.items.all credential.meetsCriterion

end Credential

abbrev CredentialSource := CriteriaSet → Except TrustError (List Credential)

namespace CredentialSource

def fixed (credentials : List Credential) : CredentialSource := fun criteria =>
  .ok (credentials.filter (·.meets criteria))

def keysOf (entity : Entity) (criteria : CriteriaSet) (usage : KeyUsage) : List Credential :=
  (entity.roles.filter criteria.covers).flatMap fun role =>
    (role.keysFor usage).map (.ofKey entity.entityId)

/-- The keys that an entity publishes. The criteria must name the entity; signing is the use unless
    they name one. -/
def metadata (resolver : Resolver) (now : Instant) : CredentialSource := fun criteria =>
  match criteria.entityIds with
  | [] => .error (.credentialResolution "metadata credentials require an entityID criterion")
  | id :: _ => do
    let found ← (resolver.resolveSingle (.ofEntityId id) now).mapError TrustError.ofMetadata
    match found with
    | none => .ok []
    | some entity => .ok (keysOf entity criteria (criteria.usage?.getD .signing))

end CredentialSource

end Federation
