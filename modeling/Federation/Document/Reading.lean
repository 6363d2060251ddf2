import Federation.Bytes.Base64
import Federation.Document.Draft
import Federation.Error
import Federation.Json.Reader
import Federation.Text.Blank

namespace Federation

inductive DraftFault where
  | blankEntityId
  | algorithm (entityId : String) (cause : CryptoError)
  | encoding (entityId : String) (fault : Base64.Fault)
  | emptyKey (entityId : String)
deriving DecidableEq, Repr

def DraftFault.message : DraftFault → String
  | .blankEntityId => "entityID must not be empty"
  | .algorithm entityId cause => s!"Key of '{entityId}' has unusable algorithm: {cause.message}"
  | .encoding entityId fault => s!"Key of '{entityId}' is not valid base64: {fault.message}"
  | .emptyKey entityId => s!"Key of '{entityId}' is empty"

def convertAll {α β : Type} (convert : α → Except DraftFault β) : List α → Except DraftFault (List β)
  | [] => .ok []
  | first :: rest => do
    let value ← convert first
    let values ← convertAll convert rest
    return value :: values

namespace Draft

def Key.bytes (key : Key) : Except Base64.Fault Bytes :=
  Base64.decode (Bytes.ofText (String.ofList (Text.trim key.publicKey.toList)))

def Key.convert (entityId : String) (key : Key) : Except DraftFault KeyDescriptor := do
  let algorithm ← match SignatureAlgorithm.ofText key.algorithm with
    | .ok algorithm => Except.ok algorithm
    | .error cause => .error (.algorithm entityId cause)
  let publicKey ← match key.bytes with
    | .ok bytes => Except.ok bytes
    | .error fault => .error (.encoding entityId fault)
  if publicKey.isEmpty then .error (.emptyKey entityId)
  else return ⟨key.usage, algorithm, publicKey, key.keyName⟩

def Role.convert (entityId : String) (role : Role) : Except DraftFault RoleDescriptor := do
  let keys ← convertAll (Key.convert entityId) role.keys
  return ⟨role.kind, role.protocols, keys, role.endpoints⟩

def Entity.convert (entity : Entity) : Except DraftFault Federation.Entity := do
  if Text.isBlankText entity.entityId then .error .blankEntityId
  else
    let roles ← convertAll (Role.convert entity.entityId) entity.roles
    return {
      entityId := entity.entityId
      validUntil := entity.validUntil
      cacheDuration := entity.cacheDuration.map Duration.ofSeconds
      roles
      organization := entity.organization }

mutual

def Group.convert : Group → Except DraftFault Federation.Group
  | ⟨name, validUntil, cacheDuration, entities, groups⟩ => do
    let entities ← convertAll Entity.convert entities
    let groups ← Group.convertGroups groups
    return ⟨name, validUntil, cacheDuration.map Duration.ofSeconds, entities, groups⟩

def Group.convertGroups : List Group → Except DraftFault (List Federation.Group)
  | [] => .ok []
  | first :: rest => do
    let value ← first.convert
    let values ← Group.convertGroups rest
    return value :: values

end

end Draft

inductive DocumentFault where
  | empty
  | json (fault : Json.SyntaxFault)
  | notObject
  | entityShape (fault : Json.ShapeFault)
  | groupShape (fault : Json.ShapeFault)
  | draft (fault : DraftFault)
deriving BEq, Repr

def DocumentFault.message : DocumentFault → String
  | .empty => "Metadata document is empty"
  | .json fault => s!"Invalid JSON: {fault.message}"
  | .notObject => "Metadata document must be a JSON object"
  | .entityShape fault => s!"Invalid entity descriptor: {fault.message}"
  | .groupShape fault => s!"Invalid entities group: {fault.message}"
  | .draft fault => fault.message

namespace Document

/-- An object with a member `entityID`, whatever its value, is an entity; any other is a group. -/
def ofJson : Json.Value → Except DocumentFault Document
  | .object members =>
    if (Json.member? "entityID" members).isSome then do
      let draft ← (Draft.entity (.object members)).mapError DocumentFault.entityShape
      return .entity (← draft.convert.mapError DocumentFault.draft)
    else do
      let draft ← (Draft.group (.object members)).mapError DocumentFault.groupShape
      return .group (← draft.convert.mapError DocumentFault.draft)
  | _ => .error .notObject

def ofBytes (bytes : Bytes) : Except DocumentFault Document :=
  if bytes.all Bytes.isAsciiBlank then .error .empty
  else
    match Json.read bytes with
    | .ok value => ofJson value
    | .error fault => .error (.json fault)

def parse (bytes : Bytes) : Except MetadataError Document :=
  (ofBytes bytes).mapError fun fault => .parse fault.message

end Document

end Federation
