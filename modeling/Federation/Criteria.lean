import Federation.Document.Basic
import Federation.Error
import Federation.Text.Blank

namespace Federation

inductive Criterion where
  | entityId (id : String)
  | role (kind : RoleKind)
  | protocol (name : String)
  | usage (usage : KeyUsage)
deriving DecidableEq, Repr

def RoleKind.ofText? (text : String) : Option RoleKind :=
  RoleKind.all.find? fun kind => Text.equalIgnoringCase kind.name text

def KeyUsage.ofText? (text : String) : Option KeyUsage :=
  KeyUsage.all.find? fun usage => Text.equalIgnoringCase usage.name text

namespace Criterion

def kindPosition : Criterion → Nat
  | entityId _ => 0
  | role _ => 1
  | protocol _ => 2
  | usage _ => 3

/-- Identifiers come before roles, roles before protocols, and those before uses; within a kind,
    text goes by its characters, and roles and uses by their positions. -/
def Before : Criterion → Criterion → Prop
  | entityId left, entityId right => left < right
  | role left, role right => left.position < right.position
  | protocol left, protocol right => left < right
  | usage left, usage right => left.position < right.position
  | left, right => left.kindPosition < right.kindPosition

instance (left right : Criterion) : Decidable (left.Before right) := by
  cases left <;> cases right <;> simp only [Before] <;> infer_instance

theorem not_before_self (criterion : Criterion) : ¬ criterion.Before criterion := by
  cases criterion <;> simp [Before]

theorem before_trans {first second third : Criterion} (left : first.Before second)
    (right : second.Before third) : first.Before third := by
  cases first <;> cases second <;> cases third <;>
    simp only [Before, kindPosition] at left right ⊢ <;>
    first
      | exact String.lt_trans left right
      | omega

theorem before_total (left right : Criterion) : left.Before right ∨ left = right ∨ right.Before left := by
  cases left <;> cases right <;> simp only [Before, kindPosition] <;>
    first
      | omega
      | skip
  case entityId.entityId l r =>
    by_cases below : l < r
    · exact .inl below
    · by_cases above : r < l
      · exact .inr (.inr above)
      · exact .inr (.inl (congrArg _ (String.le_antisymm (String.not_lt.mp above) (String.not_lt.mp below))))
  case protocol.protocol l r =>
    by_cases below : l < r
    · exact .inl below
    · by_cases above : r < l
      · exact .inr (.inr above)
      · exact .inr (.inl (congrArg _ (String.le_antisymm (String.not_lt.mp above) (String.not_lt.mp below))))
  case role.role l r =>
    rcases Nat.lt_trichotomy l.position r.position with below | same | above
    · exact .inl below
    · exact .inr (.inl (congrArg _ (RoleKind.position_inj same)))
    · exact .inr (.inr above)
  case usage.usage l r =>
    rcases Nat.lt_trichotomy l.position r.position with below | same | above
    · exact .inl below
    · exact .inr (.inl (congrArg _ (KeyUsage.position_inj same)))
    · exact .inr (.inr above)

def nonempty? (text : String) : Option String := if text.isEmpty then none else some text

def reader? (name : String) : Option (String → Option Criterion) :=
  if name = "entityID" then some fun value => (nonempty? value).map entityId
  else if name = "role" then some fun value => (RoleKind.ofText? value).map role
  else if name = "protocol" then some fun value => (nonempty? value).map protocol
  else if name = "usage" then some fun value => (KeyUsage.ofText? value).map usage
  else none

def ofPair (name value : String) : Except MetadataError Criterion :=
  match reader? name with
  | none => .error (.unknownCriterion name)
  | some read =>
    match read value with
    | some criterion => .ok criterion
    | none => .error (.invalidCriterion name value)

def display : Criterion → String
  | entityId id => s!"entityID={id}"
  | role kind => s!"role={kind.name}"
  | protocol name => s!"protocol={name}"
  | usage u => s!"usage={u.name}"

def place (criterion : Criterion) : List Criterion → List Criterion
  | [] => [criterion]
  | first :: rest =>
    if criterion.Before first then criterion :: first :: rest
    else if criterion = first then first :: rest
    else first :: place criterion rest

theorem mem_place {criterion other : Criterion} {items : List Criterion} :
    other ∈ criterion.place items ↔ other = criterion ∨ other ∈ items := by
  induction items with
  | nil => simp [place]
  | cons first rest ih =>
    simp only [place]
    split
    · simp
    · split
      · rename_i same
        subst same
        simp
      · simp only [List.mem_cons, ih]
        exact or_left_comm

theorem place_sorted (criterion : Criterion) {items : List Criterion}
    (sorted : items.Pairwise Before) : (criterion.place items).Pairwise Before := by
  induction items with
  | nil => simp [place]
  | cons first rest ih =>
    obtain ⟨least, ordered⟩ := List.pairwise_cons.mp sorted
    simp only [place]
    split
    · rename_i before
      refine List.pairwise_cons.mpr ⟨fun other member => ?_, sorted⟩
      rcases List.mem_cons.mp member with rfl | member
      · exact before
      · exact before_trans before (least other member)
    · split
      · exact sorted
      · rename_i notBefore different
        refine List.pairwise_cons.mpr ⟨fun other member => ?_, ih ordered⟩
        rcases mem_place.mp member with rfl | member
        · rcases before_total other first with before | same | after
          · exact absurd before notBefore
          · exact absurd same different
          · exact after
        · exact least other member

end Criterion

structure CriteriaSet where
  items : List Criterion
  sorted : items.Pairwise Criterion.Before
deriving DecidableEq

namespace CriteriaSet

def empty : CriteriaSet := ⟨[], .nil⟩

instance : Inhabited CriteriaSet := ⟨empty⟩

def insert (set : CriteriaSet) (criterion : Criterion) : CriteriaSet :=
  ⟨criterion.place set.items, criterion.place_sorted set.sorted⟩

instance : Membership Criterion CriteriaSet := ⟨fun set criterion => criterion ∈ set.items⟩

instance (criterion : Criterion) (set : CriteriaSet) : Decidable (criterion ∈ set) :=
  inferInstanceAs (Decidable (criterion ∈ set.items))

theorem mem_insert {set : CriteriaSet} {criterion other : Criterion} :
    other ∈ set.insert criterion ↔ other = criterion ∨ other ∈ set := Criterion.mem_place

def ofList (criteria : List Criterion) : CriteriaSet := criteria.foldl insert empty

def ofEntityId (id : String) : CriteriaSet := empty.insert (.entityId id)

def ofPairs (pairs : List (String × String)) : Except MetadataError CriteriaSet := do
  return ofList (← pairs.mapM fun pair => Criterion.ofPair pair.1 pair.2)

def isEmpty (set : CriteriaSet) : Bool := set.items.isEmpty

def size (set : CriteriaSet) : Nat := set.items.length

def entityIds (set : CriteriaSet) : List String :=
  set.items.filterMap fun
    | .entityId id => some id
    | _ => none

def roles (set : CriteriaSet) : List RoleKind :=
  set.items.filterMap fun
    | .role kind => some kind
    | _ => none

def usages (set : CriteriaSet) : List KeyUsage :=
  set.items.filterMap fun
    | .usage usage => some usage
    | _ => none

def usage? (set : CriteriaSet) : Option KeyUsage :=
  match set.usages with
  | [usage] => some usage
  | _ => none

def hasEntityId (set : CriteriaSet) : Bool := !set.entityIds.isEmpty

def ensureNotEmpty (set : CriteriaSet) : Except MetadataError Unit :=
  if set.isEmpty then .error .emptyCriteria else .ok ()

def display (set : CriteriaSet) : String :=
  "\x7b" ++ ", ".intercalate (set.items.map Criterion.display) ++ "\x7d"

end CriteriaSet

/-- The roles in question: those of the kinds that are named, or all if none is. -/
def CriteriaSet.covers (criteria : CriteriaSet) (role : RoleDescriptor) : Bool :=
  criteria.roles.isEmpty || criteria.roles.contains role.kind

def Entity.meetsCriterion (entity : Entity) (criteria : CriteriaSet) : Criterion → Bool
  | .entityId id => entity.entityId == id
  | .role kind => entity.roles.any (·.kind == kind)
  | .protocol name => (entity.roles.filter criteria.covers).any (·.supports name)
  | .usage usage => (entity.roles.filter criteria.covers).any fun role => !(role.keysFor usage).isEmpty

def Entity.meets (entity : Entity) (criteria : CriteriaSet) : Bool :=
  criteria.items.all (entity.meetsCriterion criteria)

end Federation
