namespace Federation

inductive RoleKind where
  | idpSso
  | spSso
  | attributeAuthority
  | authnAuthority
  | pdp
deriving DecidableEq, Repr

namespace RoleKind

def all : List RoleKind := [idpSso, spSso, attributeAuthority, authnAuthority, pdp]

theorem mem_all (kind : RoleKind) : kind ∈ all := by cases kind <;> decide

def position : RoleKind → Nat
  | idpSso => 0
  | spSso => 1
  | attributeAuthority => 2
  | authnAuthority => 3
  | pdp => 4

def name : RoleKind → String
  | idpSso => "idpSso"
  | spSso => "spSso"
  | attributeAuthority => "attributeAuthority"
  | authnAuthority => "authnAuthority"
  | pdp => "pdp"

instance : Ord RoleKind := ⟨fun left right => compare left.position right.position⟩

theorem position_inj {left right : RoleKind} (same : left.position = right.position) :
    left = right := by
  cases left <;> cases right <;> first | rfl | (exact absurd same (by decide))

end RoleKind

inductive KeyUsage where
  | signing
  | encryption
  | unspecified
deriving DecidableEq, Repr

namespace KeyUsage

instance : Inhabited KeyUsage := ⟨unspecified⟩

def all : List KeyUsage := [signing, encryption, unspecified]

def position : KeyUsage → Nat
  | signing => 0
  | encryption => 1
  | unspecified => 2

def name : KeyUsage → String
  | signing => "signing"
  | encryption => "encryption"
  | unspecified => "unspecified"

theorem position_inj {left right : KeyUsage} (same : left.position = right.position) :
    left = right := by
  cases left <;> cases right <;> first | rfl | (exact absurd same (by decide))

def satisfies (usage requested : KeyUsage) : Bool := usage == unspecified || usage == requested

end KeyUsage

end Federation
