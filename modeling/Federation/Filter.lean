import Federation.Document.Retain
import Federation.Error

namespace Federation

structure FilterOutcome where
  document : Document
  rejected : List MetadataError
deriving BEq, Repr

structure Filter where
  name : String
  run : (now : Instant) → Document → Except MetadataError FilterOutcome

namespace Filter

def validityLimit? (now : Instant) (longest : Duration) : Option Instant := now.after? longest

/-- Requires the document to declare an end of validity at its top, not later than a longest period
    from now if there is one. -/
def requiredValidUntil (longest : Option Duration) : Filter where
  name := "required-valid-until"
  run now document :=
    match document.validUntil with
    | none => .error (.documentRejected "metadata does not declare validUntil")
    | some validUntil =>
      match longest with
      | none => .ok ⟨document, []⟩
      | some longest =>
        if (validityLimit? now longest).any (· < validUntil) then
          .error (.documentRejected
            s!"validUntil {validUntil.display} is more than {longest.seconds}s in the future")
        else .ok ⟨document, []⟩

def restrictRoles? (kinds : List RoleKind) (entity : Entity) : Option Entity :=
  let roles := entity.roles.filter fun role => kinds.contains role.kind
  if roles.isEmpty then none else some { entity with roles }

def keepRoles (kinds : List RoleKind) : Keep (List MetadataError) := fun entity rejected =>
  match restrictRoles? kinds entity with
  | some kept => (some kept, rejected)
  | none => (none, rejected ++ [.validation entity.entityId "no retained roles"])

def entityRole (kinds : List RoleKind) : Filter where
  name := "entity-role"
  run _ document :=
    let (document, rejected) := document.retain (keepRoles kinds) []
    .ok ⟨document, rejected⟩

def runAll (now : Instant) : List Filter → Document → Except MetadataError FilterOutcome
  | [], document => .ok ⟨document, []⟩
  | filter :: filters, document => do
    let first ← filter.run now document
    let rest ← runAll now filters first.document
    return ⟨rest.document, first.rejected ++ rest.rejected⟩

end Filter

end Federation
