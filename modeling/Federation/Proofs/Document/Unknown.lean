import Federation.Proofs.Document.Records

namespace Federation.Format

open Json

namespace Record

def listed? : Record → String → Option Record
  | role, "keys" => some key
  | role, "endpoints" => some endpoint
  | entity, "roles" => some role
  | group, "entities" => some entity
  | group, "groups" => some group
  | _, _ => none

mutual

/-- A record without the members that it does not know, and without those of the records inside it. -/
def known (record : Record) : Value → Value
  | .object members => .object (record.knownMembers members)
  | .array elements => .array (record.knownElements record.fields elements)
  | other => other

def knownMembers (record : Record) : List (String × Value) → List (String × Value)
  | [] => []
  | (field, content) :: rest =>
    if field ∈ record.fields then
      (field, knownContent (record.listed? field) content) :: record.knownMembers rest
    else record.knownMembers rest

def knownElements (record : Record) : List String → List Value → List Value
  | _, [] => []
  | [], others => others
  | field :: fields, content :: rest =>
    knownContent (record.listed? field) content :: record.knownElements fields rest

def knownContent : Option Record → Value → Value
  | some record, .array elements => .array (record.knownAll elements)
  | _, content => content

def knownAll (record : Record) : List Value → List Value
  | [] => []
  | first :: rest => record.known first :: record.knownAll rest

end

variable {record : Record} {field : String}

theorem knownContent_none (content : Value) : knownContent none content = content := by
  cases content <;> rfl

theorem member?_known (member : field ∈ record.fields) (members : List (String × Value)) :
    member? field (record.knownMembers members) =
      (member? field members).map (knownContent (record.listed? field)) := by
  induction members with
  | nil => rfl
  | cons first rest ih =>
    obtain ⟨name, content⟩ := first
    by_cases same : name = field
    · simp [knownMembers, member?, same, member]
    · by_cases kept : name ∈ record.fields <;> simp [knownMembers, member?, same, kept, ih]

theorem getElem?_known (position : Nat) (fields : List String) (elements : List Value) :
    (record.knownElements fields elements)[position]? =
      elements[position]?.map fun content =>
        knownContent (fields[position]?.bind record.listed?) content := by
  induction elements generalizing fields position with
  | nil => simp [knownElements]
  | cons content rest ih =>
    cases fields with
    | nil =>
      have same : (fun content => knownContent none content) = id := funext knownContent_none
      simp [knownElements, same]
    | cons field fields =>
      cases position with
      | zero => simp [knownElements]
      | succ position => simp [knownElements, ih]

theorem length_known (fields : List String) (elements : List Value) :
    (record.knownElements fields elements).length = elements.length := by
  induction elements generalizing fields with
  | nil => rfl
  | cons content rest ih => cases fields <;> simp [knownElements, ih]

end Record

section Reading

variable {α : Type} {read : Value → Shape α} {record inner : Record} {members : List (String × Value)}
  {elements : List Value} {field expected : String} {position count : Nat} {default : List α}

theorem readAll_known (same : ∀ element ∈ elements, read (inner.known element) = read element) :
    readAll read (inner.knownAll elements) = readAll read elements := by
  induction elements with
  | nil => rfl
  | cons first rest ih =>
    obtain ⟨head, tail⟩ := List.forall_mem_cons.mp same
    simp only [Record.knownAll, readAll, head, ih tail]

theorem asList_known {found : Value}
    (same : ∀ elements, found = .array elements → ∀ element ∈ elements,
      read (inner.known element) = read element) :
    asList read (Record.knownContent (some inner) found) = asList read found := by
  cases found with
  | array elements => exact readAll_known (same elements rfl)
  | _ => rfl

theorem member_known (known : field ∈ record.fields) (plain : record.listed? field = none) :
    member field read (record.knownMembers members) = member field read members := by
  simp only [member, Record.member?_known known, plain]
  cases member? field members with
  | none => rfl
  | some found => rw [Option.map_some, Record.knownContent_none]

theorem member_list_known (known : field ∈ record.fields) (listed : record.listed? field = some inner)
    (same : ∀ elements, member? field members = some (.array elements) → ∀ element ∈ elements,
      read (inner.known element) = read element) :
    member field (asList read) (record.knownMembers members) = member field (asList read) members := by
  simp only [member, Record.member?_known known, listed]
  cases given : member? field members with
  | none => rfl
  | some found =>
    rw [Option.map_some]
    dsimp only
    rw [asList_known fun elements array => same elements (array ▸ given)]

theorem getElem?_known (plain : record.fields[position]?.bind record.listed? = none) :
    (record.knownElements record.fields elements)[position]? = elements[position]? := by
  rw [Record.getElem?_known, plain, funext Record.knownContent_none, Option.map_id']

theorem positionAt_known (plain : record.fields[position]?.bind record.listed? = none) :
    positionAt expected position read (record.knownElements record.fields elements) =
      positionAt expected position read elements := by
  rw [positionAt, getElem?_known plain, positionAt]

theorem positionOr_known {default : α} (plain : record.fields[position]?.bind record.listed? = none) :
    positionOr default position read (record.knownElements record.fields elements) =
      positionOr default position read elements := by
  rw [positionOr, getElem?_known plain, positionOr]

theorem positionOr_list_known (listed : record.fields[position]?.bind record.listed? = some inner)
    (same : ∀ values, elements[position]? = some (.array values) → ∀ element ∈ values,
      read (inner.known element) = read element) :
    positionOr default position (asList read) (record.knownElements record.fields elements) =
      positionOr default position (asList read) elements := by
  simp only [positionOr, Record.getElem?_known, listed]
  cases given : elements[position]? with
  | none => rfl
  | some found =>
    rw [Option.map_some]
    dsimp only
    rw [asList_known fun values array => same values (array ▸ given)]

theorem noneAfter_known :
    noneAfter count (record.knownElements record.fields elements) = noneAfter count elements := by
  simp only [noneAfter, Record.length_known]

end Reading

theorem endpoint_known (found : Value) :
    Draft.endpoint (Record.endpoint.known found) = Draft.endpoint found := by
  cases found with
  | object members =>
    simp (disch := decide) only [Record.known, Draft.endpoint, member_known]
  | array elements =>
    simp (disch := decide) only [Record.known, Draft.endpoint, positionAt_known, noneAfter_known]
  | _ => rfl

theorem key_known (found : Value) : Draft.key (Record.key.known found) = Draft.key found := by
  cases found with
  | object members =>
    simp (disch := decide) only [Record.known, Draft.key, optionalMember, member_known]
  | array elements =>
    simp (disch := decide) only [Record.known, Draft.key, positionAt_known, positionOr_known,
      noneAfter_known]
  | _ => rfl

theorem role_known (found : Value) : Draft.role (Record.role.known found) = Draft.role found := by
  cases found with
  | object members =>
    have keys : member "keys" (asList Draft.key) (Record.role.knownMembers members) =
        member "keys" (asList Draft.key) members :=
      member_list_known (by decide) rfl fun _ _ element _ => key_known element
    have endpoints : member "endpoints" (asList Draft.endpoint) (Record.role.knownMembers members) =
        member "endpoints" (asList Draft.endpoint) members :=
      member_list_known (by decide) rfl fun _ _ element _ => endpoint_known element
    simp (disch := decide) only [Record.known, Draft.role, keys, endpoints, member_known]
  | array elements =>
    simp (disch := decide) only [Record.known, Draft.role, positionAt_known, positionOr_known,
      noneAfter_known,
      positionOr_list_known (rfl : Record.role.fields[2]?.bind Record.role.listed? = some .key)
        fun _ _ element _ => key_known element,
      positionOr_list_known (rfl : Record.role.fields[3]?.bind Record.role.listed? = some .endpoint)
        fun _ _ element _ => endpoint_known element]
  | _ => rfl

theorem entity_known (found : Value) : Draft.entity (Record.entity.known found) = Draft.entity found := by
  cases found with
  | object members =>
    have roles : member "roles" (asList Draft.role) (Record.entity.knownMembers members) =
        member "roles" (asList Draft.role) members :=
      member_list_known (by decide) rfl fun _ _ element _ => role_known element
    simp (disch := decide) only [Record.known, Draft.entity, optionalMember, roles, member_known]
  | array elements =>
    simp (disch := decide) only [Record.known, Draft.entity, positionAt_known, noneAfter_known,
      positionOr_list_known (rfl : Record.entity.fields[4]?.bind Record.entity.listed? = some .role)
        fun _ _ element _ => role_known element]
  | _ => rfl

theorem group_known (found : Value) : Draft.group (Record.group.known found) = Draft.group found := by
  have nested : ∀ element, sizeOf element < sizeOf found →
      Draft.group (Record.group.known element) = Draft.group element :=
    fun element smaller => group_known element
  cases found with
  | object members =>
    have entities : member "entities" (asList Draft.entity) (Record.group.knownMembers members) =
        member "entities" (asList Draft.entity) members :=
      member_list_known (by decide) rfl fun _ _ element _ => entity_known element
    have groups : member "groups" (asList Draft.group) (Record.group.knownMembers members) =
        member "groups" (asList Draft.group) members :=
      member_list_known (by decide) rfl fun _ listed element inside =>
        nested element (sizeOf_of_member listed inside)
    simp (disch := decide) only [Record.known, Draft.group, Draft.groupsMember_eq, optionalMember, entities,
      groups, member_known]
  | array elements =>
    simp (disch := decide) only [Record.known, Draft.group, groupsAt_eq, positionAt_known, noneAfter_known,
      positionOr_list_known (rfl : Record.group.fields[3]?.bind Record.group.listed? = some .entity)
        fun _ _ element _ => entity_known element,
      positionOr_list_known (rfl : Record.group.fields[4]?.bind Record.group.listed? = some .group)
        fun _ listed element inside => nested element (sizeOf_of_position listed inside)]
  | _ => rfl
termination_by sizeOf found
decreasing_by exact smaller

end Federation.Format
