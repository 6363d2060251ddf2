import Federation.Proofs.Document.Format

namespace Federation.Format

open Json

namespace Record

variable {record : Record} {elements : List Value} {contents : String → Option Value}

theorem contents?_array :
    record.contents? (.array elements) = some contents ↔
      record.least ≤ elements.length ∧ elements.length ≤ record.fields.length ∧
        (fun field => elements[record.fields.idxOf field]?) = contents := by
  simp [contents?, and_assoc]

end Record

theorem Required.lt_length {α : Type} {meaning : Value → α → Prop} {elements : List Value} {position : Nat}
    {value : α} (given : Required meaning elements[position]? value) : position < elements.length := by
  by_contra short
  rw [List.getElem?_eq_none_iff.mpr (by omega)] at given
  cases given

theorem roleKind_eq_ok_iff {found : Value} {kind : RoleKind} :
    asVariant Draft.roleKinds found = .ok kind ↔ IsNamed RoleKind.name found kind :=
  asVariant_eq_ok_iff RoleKind.mem_all (by
    rintro (_ | _) (_ | _) same <;> first | rfl | exact absurd same (by decide))

theorem keyUsage_eq_ok_iff {found : Value} {usage : KeyUsage} :
    asVariant Draft.keyUsages found = .ok usage ↔ IsNamed KeyUsage.name found usage :=
  asVariant_eq_ok_iff (by rintro (_ | _) <;> decide) (by
    rintro (_ | _) (_ | _) same <;> first | rfl | exact absurd same (by decide))

theorem endpoint_eq_ok_iff {found : Value} {endpoint : Endpoint} :
    Draft.endpoint found = .ok endpoint ↔ IsEndpoint found endpoint := by
  unfold IsEndpoint
  cases found with
  | object members =>
    simp only [Draft.endpoint, bind_eq_ok_iff, pure_eq_ok_iff, required_eq_ok_iff, Record.contents?,
      Option.some.injEq, exists_eq_left', ← member_eq_some_iff fun _ _ _ => asString_eq_ok_iff]
    constructor
    · rintro ⟨_, binding, _, location, _, rfl, _, rfl, rfl⟩
      exact ⟨binding, location⟩
    · rintro ⟨binding, location⟩
      exact ⟨_, binding, _, location, _, rfl, _, rfl, rfl⟩
  | array elements =>
    simp only [Draft.endpoint, bind_eq_ok_iff, pure_eq_ok_iff, noneAfter_eq_ok_iff,
      positionAt_eq_ok_iff fun _ _ => asString_eq_ok_iff, Record.contents?_array]
    constructor
    · rintro ⟨_, binding, _, location, _, short, rfl⟩
      exact ⟨_, ⟨location.lt_length, short, rfl⟩, binding, location⟩
    · rintro ⟨_, ⟨_, short, rfl⟩, binding, location⟩
      exact ⟨_, binding, _, location, (), short, rfl⟩
  | _ => simp [Draft.endpoint, Record.contents?]

theorem key_eq_ok_iff {found : Value} {key : Draft.Key} : Draft.key found = .ok key ↔ IsKey found key := by
  unfold IsKey
  cases found with
  | object members =>
    simp only [Draft.key, bind_eq_ok_iff, pure_eq_ok_iff, required_eq_ok_iff, Record.contents?,
      Option.some.injEq, exists_eq_left', ← member_eq_some_iff fun _ _ _ => asString_eq_ok_iff,
      optionalMember_eq_ok_iff fun _ _ => asString_eq_ok_iff,
      ← member_getD_iff fun _ _ _ => keyUsage_eq_ok_iff]
    constructor
    · rintro ⟨_, algorithm, _, keyName, _, publicKey, usage, read, _, rfl, _, rfl, rfl⟩
      exact ⟨⟨usage, read, rfl⟩, algorithm, publicKey, keyName⟩
    · rintro ⟨⟨usage, read, same⟩, algorithm, publicKey, keyName⟩
      exact ⟨_, algorithm, _, keyName, _, publicKey, usage, read, _, rfl, _, rfl, by rw [same]⟩
  | array elements =>
    simp only [Draft.key, bind_eq_ok_iff, pure_eq_ok_iff, noneAfter_eq_ok_iff,
      positionAt_eq_ok_iff fun _ _ => asString_eq_ok_iff,
      positionAt_optional_iff fun _ _ => asString_eq_ok_iff,
      positionOr_eq_ok_iff fun _ _ _ => keyUsage_eq_ok_iff, Record.contents?_array]
    constructor
    · rintro ⟨_, usage, _, algorithm, _, publicKey, _, ⟨long, keyName⟩, _, short, rfl⟩
      exact ⟨_, ⟨long, short, rfl⟩, usage, algorithm, publicKey, keyName⟩
    · rintro ⟨_, ⟨long, short, rfl⟩, usage, algorithm, publicKey, keyName⟩
      exact ⟨_, usage, _, algorithm, _, publicKey, _, ⟨long, keyName⟩, (), short, rfl⟩
  | _ => simp [Draft.key, Record.contents?]

theorem list_eq_ok_iff {α : Type} {found : Value} {read : Value → Shape α} {meaning : Value → α → Prop}
    {values : List α} (means : ∀ {element value}, read element = .ok value ↔ meaning element value) :
    asList read found = .ok values ↔ IsList meaning found values :=
  asList_eq_ok_iff fun _ _ _ _ _ => means

theorem role_eq_ok_iff {found : Value} {role : Draft.Role} :
    Draft.role found = .ok role ↔ IsRole found role := by
  unfold IsRole
  cases found with
  | object members =>
    simp only [Draft.role, bind_eq_ok_iff, pure_eq_ok_iff, required_eq_ok_iff, Record.contents?,
      Option.some.injEq, exists_eq_left', ← member_eq_some_iff fun _ _ _ => roleKind_eq_ok_iff,
      ← member_getD_iff fun _ _ _ => list_eq_ok_iff asString_eq_ok_iff,
      ← member_getD_iff fun _ _ _ => list_eq_ok_iff key_eq_ok_iff,
      ← member_getD_iff fun _ _ _ => list_eq_ok_iff endpoint_eq_ok_iff]
    constructor
    · rintro ⟨endpoints, first, keys, second, _, kind, protocols, fourth, _, rfl, rfl⟩
      exact ⟨kind, ⟨protocols, fourth, rfl⟩, ⟨keys, second, rfl⟩, ⟨endpoints, first, rfl⟩⟩
    · rintro ⟨kind, ⟨protocols, fourth, listed⟩, ⟨keys, second, published⟩, ⟨endpoints, first, offered⟩⟩
      exact ⟨endpoints, first, keys, second, _, kind, protocols, fourth, _, rfl,
        by rw [listed, published, offered]⟩
  | array elements =>
    simp only [Draft.role, bind_eq_ok_iff, pure_eq_ok_iff, noneAfter_eq_ok_iff,
      positionAt_eq_ok_iff fun _ _ => roleKind_eq_ok_iff,
      positionOr_eq_ok_iff fun _ _ _ => list_eq_ok_iff asString_eq_ok_iff,
      positionOr_eq_ok_iff fun _ _ _ => list_eq_ok_iff key_eq_ok_iff,
      positionOr_eq_ok_iff fun _ _ _ => list_eq_ok_iff endpoint_eq_ok_iff, Record.contents?_array]
    constructor
    · rintro ⟨_, kind, _, protocols, _, keys, _, endpoints, _, short, rfl⟩
      exact ⟨_, ⟨kind.lt_length, short, rfl⟩, kind, protocols, keys, endpoints⟩
    · rintro ⟨_, ⟨_, short, rfl⟩, kind, protocols, keys, endpoints⟩
      exact ⟨_, kind, _, protocols, _, keys, _, endpoints, (), short, rfl⟩
  | _ => simp [Draft.role, Record.contents?]

theorem entity_eq_ok_iff {found : Value} {entity : Draft.Entity} :
    Draft.entity found = .ok entity ↔ IsEntity found entity := by
  unfold IsEntity
  cases found with
  | object members =>
    simp only [Draft.entity, bind_eq_ok_iff, pure_eq_ok_iff, required_eq_ok_iff, Record.contents?,
      Option.some.injEq, exists_eq_left', ← member_eq_some_iff fun _ _ _ => asString_eq_ok_iff,
      optionalMember_eq_ok_iff fun _ _ => asString_eq_ok_iff,
      optionalMember_eq_ok_iff fun _ _ => asNatural_eq_ok_iff,
      optionalMember_eq_ok_iff fun _ _ => asInstant_eq_ok_iff,
      ← member_getD_iff fun _ _ _ => list_eq_ok_iff role_eq_ok_iff]
    constructor
    · rintro ⟨_, cacheDuration, _, entityId, _, organization, roles, read, _, validUntil, _, rfl, rfl⟩
      exact ⟨entityId, validUntil, cacheDuration, organization, roles, read, rfl⟩
    · rintro ⟨entityId, validUntil, cacheDuration, organization, roles, read, same⟩
      exact ⟨_, cacheDuration, _, entityId, _, organization, roles, read, _, validUntil, _, rfl,
        by rw [same]⟩
  | array elements =>
    simp only [Draft.entity, bind_eq_ok_iff, pure_eq_ok_iff, noneAfter_eq_ok_iff,
      positionAt_eq_ok_iff fun _ _ => asString_eq_ok_iff,
      positionAt_optional_iff fun _ _ => asString_eq_ok_iff,
      positionAt_optional_iff fun _ _ => asNatural_eq_ok_iff,
      positionAt_optional_iff fun _ _ => asInstant_eq_ok_iff,
      positionOr_eq_ok_iff fun _ _ _ => list_eq_ok_iff role_eq_ok_iff, Record.contents?_array]
    constructor
    · rintro ⟨_, entityId, _, ⟨_, validUntil⟩, _, ⟨_, cacheDuration⟩, _, ⟨long, organization⟩, _, roles, _,
        short, rfl⟩
      exact ⟨_, ⟨long, short, rfl⟩, entityId, validUntil, cacheDuration, organization, roles⟩
    · rintro ⟨_, ⟨long, short, rfl⟩, entityId, validUntil, cacheDuration, organization, roles⟩
      have long : 4 ≤ elements.length := long
      exact ⟨_, entityId, _, ⟨by omega, validUntil⟩, _, ⟨by omega, cacheDuration⟩, _,
        ⟨long, organization⟩, _, roles, (), short, rfl⟩
  | _ => simp [Draft.entity, Record.contents?]

theorem sizeOf_member {field : String} {members : List (String × Value)} {found : Value}
    (given : member? field members = some found) : sizeOf found < sizeOf members := by
  fun_induction member? field members with
  | case1 => cases given
  | case2 value rest =>
    cases given
    simp
    omega
  | case3 other value rest _ ih =>
    have smaller := ih given
    simp
    omega

theorem sizeOf_of_member {field : String} {members : List (String × Value)} {elements : List Value}
    {element : Value} (listed : member? field members = some (.array elements))
    (inside : element ∈ elements) : sizeOf element < sizeOf (Value.object members) := by
  have inner := List.sizeOf_lt_of_mem inside
  have outer := sizeOf_member listed
  simp at outer ⊢
  omega

theorem sizeOf_of_position {position : Nat} {values elements : List Value} {element : Value}
    (listed : values[position]? = some (.array elements)) (inside : element ∈ elements) :
    sizeOf element < sizeOf (Value.array values) := by
  have inner := List.sizeOf_lt_of_mem inside
  have outer := List.sizeOf_lt_of_mem (List.mem_of_getElem? listed)
  simp at outer ⊢
  omega

theorem groupsAt_eq (position : Nat) (elements : List Value) :
    Draft.groupsAt position elements = positionOr [] position (asList Draft.group) elements := by
  induction elements generalizing position with
  | nil => simp [Draft.groupsAt, positionOr]
  | cons first rest ih =>
    cases position with
    | zero => simp [Draft.groupsAt, positionOr, Draft.groupList_eq]
    | succ position => simpa [Draft.groupsAt, positionOr] using ih position

theorem group_eq_ok_iff (found : Value) {group : Draft.Group} :
    Draft.group found = .ok group ↔ IsGroup found group := by
  have nested : ∀ element, sizeOf element < sizeOf found →
      ∀ group, Draft.group element = .ok group ↔ IsGroup element group :=
    fun element smaller _ => group_eq_ok_iff element
  cases found with
  | object members =>
    simp only [Draft.group, Draft.groupsMember_eq, bind_eq_ok_iff, pure_eq_ok_iff, map_eq_ok_iff,
      optionalMember_eq_ok_iff fun _ _ => asString_eq_ok_iff,
      optionalMember_eq_ok_iff fun _ _ => asNatural_eq_ok_iff,
      optionalMember_eq_ok_iff fun _ _ => asInstant_eq_ok_iff]
    have groupsRead : ∀ given, member? "groups" members = some given → ∀ groups,
        asList Draft.group given = .ok groups ↔ IsList IsGroup given groups := by
      intro given listed groups
      exact asList_eq_ok_iff fun elements same element inside =>
        nested element (sizeOf_of_member (same ▸ listed) inside)
    constructor
    · rintro ⟨_, cacheDuration, entities, first, _, groups, _, name, _, validUntil, rfl⟩
      exact .record rfl name validUntil cacheDuration
        ((member_getD_iff fun _ _ _ => list_eq_ok_iff entity_eq_ok_iff).mp ⟨entities, first, rfl⟩)
        ((member_getD_iff groupsRead).mp groups)
    · rintro ⟨⟨⟩, name, validUntil, cacheDuration, entities, groups⟩
      cases group
      obtain ⟨entities, first, held⟩ :=
        (member_getD_iff fun _ _ _ => list_eq_ok_iff entity_eq_ok_iff).mpr entities
      exact ⟨_, cacheDuration, entities, first, _, (member_getD_iff groupsRead).mpr groups, _, name, _,
        validUntil, by rw [held]⟩
  | array elements =>
    simp only [Draft.group, groupsAt_eq, bind_eq_ok_iff, pure_eq_ok_iff, noneAfter_eq_ok_iff,
      positionAt_optional_iff fun _ _ => asString_eq_ok_iff,
      positionAt_optional_iff fun _ _ => asNatural_eq_ok_iff,
      positionAt_optional_iff fun _ _ => asInstant_eq_ok_iff,
      positionOr_eq_ok_iff fun _ _ _ => list_eq_ok_iff entity_eq_ok_iff]
    have groupsRead : ∀ given, elements[4]? = some given → ∀ groups,
        asList Draft.group given = .ok groups ↔ IsList IsGroup given groups := by
      intro given listed groups
      exact asList_eq_ok_iff fun elements same element inside =>
        nested element (sizeOf_of_position (same ▸ listed) inside)
    constructor
    · rintro ⟨_, ⟨_, name⟩, _, ⟨_, validUntil⟩, _, ⟨long, cacheDuration⟩, _, entities, _, groups, _, short,
        rfl⟩
      have fields : Record.group.contents? (.array elements) = some _ :=
        Record.contents?_array.mpr ⟨long, short, rfl⟩
      exact .record fields name validUntil cacheDuration entities
        ((positionOr_eq_ok_iff groupsRead).mp groups)
    · rintro ⟨fields, name, validUntil, cacheDuration, entities, groups⟩
      cases group
      obtain ⟨long, short, rfl⟩ := Record.contents?_array.mp fields
      have long : 3 ≤ elements.length := long
      exact ⟨_, ⟨by omega, name⟩, _, ⟨by omega, validUntil⟩, _, ⟨long, cacheDuration⟩, _, entities, _,
        (positionOr_eq_ok_iff groupsRead).mpr groups, (), short, rfl⟩
  | _ =>
    refine iff_of_false (by simp [Draft.group]) ?_
    rintro ⟨fields⟩
    cases fields
termination_by sizeOf found
decreasing_by exact smaller

end Federation.Format
