import Federation.Document.Draft
import Federation.Proofs.Results

namespace Federation.Format

open Json

inductive Record where
  | endpoint
  | key
  | role
  | entity
  | group
deriving DecidableEq, Repr

namespace Record

def fields : Record → List String
  | endpoint => ["binding", "location"]
  | key => ["use", "algorithm", "publicKey", "keyName"]
  | role => ["kind", "protocols", "keys", "endpoints"]
  | entity => ["entityID", "validUntil", "cacheDuration", "organization", "roles"]
  | group => ["name", "validUntil", "cacheDuration", "entities", "groups"]

def least : Record → Nat
  | endpoint => 2
  | key => 4
  | role => 1
  | entity => 4
  | group => 3

/-- What a value holds for each field, if it is a record at all: an object has it under the name of the
    field, and other members mean nothing; an array has it at the field's position. -/
def contents? (record : Record) : Value → Option (String → Option Value)
  | .object members => some fun field => member? field members
  | .array elements =>
    if record.least ≤ elements.length ∧ elements.length ≤ record.fields.length then
      some fun field => elements[record.fields.idxOf field]?
    else none
  | _ => none

end Record

section Fields

variable {α : Type}

inductive Required (meaning : Value → α → Prop) : Option Value → α → Prop
  | given {found : Value} {value : α} (means : meaning found value) : Required meaning (some found) value

inductive Optional (meaning : Value → α → Prop) : Option Value → Option α → Prop
  | absent : Optional meaning none none
  | null : Optional meaning (some .null) none
  | given {found : Value} {value : α} (present : found ≠ .null) (means : meaning found value) :
      Optional meaning (some found) (some value)

inductive Defaulted (default : α) (meaning : Value → α → Prop) : Option Value → α → Prop
  | absent : Defaulted default meaning none default
  | given {found : Value} {value : α} (means : meaning found value) :
      Defaulted default meaning (some found) value

def IsText (found : Value) (text : String) : Prop := found = .string text

def IsCount (found : Value) (count : UInt64) : Prop :=
  ∃ value, found = .number (.natural value) ∧ count = UInt64.ofNat value

def IsInstant (found : Value) (t : Instant) : Prop :=
  ∃ text, found = .string text ∧ Timestamp.read text = .ok t

def IsNamed (name : α → String) (found : Value) (variant : α) : Prop :=
  found = .string (name variant) ∨ found = .object [(name variant, .null)]

inductive IsList (meaning : Value → α → Prop) : Value → List α → Prop
  | array {elements : List Value} {values : List α} (means : List.Forall₂ meaning elements values) :
      IsList meaning (.array elements) values

end Fields

def IsEndpoint (found : Value) (endpoint : Endpoint) : Prop :=
  ∃ contents, Record.endpoint.contents? found = some contents ∧
    Required IsText (contents "binding") endpoint.binding ∧
    Required IsText (contents "location") endpoint.location

def IsKey (found : Value) (key : Draft.Key) : Prop :=
  ∃ contents, Record.key.contents? found = some contents ∧
    Defaulted .unspecified (IsNamed KeyUsage.name) (contents "use") key.usage ∧
    Required IsText (contents "algorithm") key.algorithm ∧
    Required IsText (contents "publicKey") key.publicKey ∧
    Optional IsText (contents "keyName") key.keyName

def IsRole (found : Value) (role : Draft.Role) : Prop :=
  ∃ contents, Record.role.contents? found = some contents ∧
    Required (IsNamed RoleKind.name) (contents "kind") role.kind ∧
    Defaulted [] (IsList IsText) (contents "protocols") role.protocols ∧
    Defaulted [] (IsList IsKey) (contents "keys") role.keys ∧
    Defaulted [] (IsList IsEndpoint) (contents "endpoints") role.endpoints

def IsEntity (found : Value) (entity : Draft.Entity) : Prop :=
  ∃ contents, Record.entity.contents? found = some contents ∧
    Required IsText (contents "entityID") entity.entityId ∧
    Optional IsInstant (contents "validUntil") entity.validUntil ∧
    Optional IsCount (contents "cacheDuration") entity.cacheDuration ∧
    Optional IsText (contents "organization") entity.organization ∧
    Defaulted [] (IsList IsRole) (contents "roles") entity.roles

inductive IsGroup : Value → Draft.Group → Prop
  | record {found : Value} {contents : String → Option Value} {group : Draft.Group}
      (fields : Record.group.contents? found = some contents)
      (name : Optional IsText (contents "name") group.name)
      (validUntil : Optional IsInstant (contents "validUntil") group.validUntil)
      (cacheDuration : Optional IsCount (contents "cacheDuration") group.cacheDuration)
      (entities : Defaulted [] (IsList IsEntity) (contents "entities") group.entities)
      (groups : Defaulted [] (IsList IsGroup) (contents "groups") group.groups) :
      IsGroup found group

section Reading

variable {α : Type} {found : Value} {read : Value → Shape α} {meaning : Value → α → Prop}

theorem asString_eq_ok_iff {text : String} : asString found = .ok text ↔ IsText found text := by
  cases found <;> simp [asString, IsText]

theorem asNatural_eq_ok_iff {count : UInt64} : asNatural found = .ok count ↔ IsCount found count := by
  cases found with
  | number number => cases number <;> simp [asNatural, IsCount, eq_comm]
  | _ => simp [asNatural, IsCount]

theorem asInstant_eq_ok_iff {t : Instant} : asInstant found = .ok t ↔ IsInstant found t := by
  cases found with
  | string text =>
    simp only [asInstant, IsInstant, Value.string.injEq, exists_eq_left']
    cases Timestamp.read text <;> simp
  | _ => simp [asInstant, IsInstant]

theorem variantOf_eq_ok_iff {name : α → String} {known : List α} (all : ∀ variant, variant ∈ known)
    (distinct : Function.Injective name) {text : String} {variant : α} :
    variantOf (known.map fun variant => (name variant, variant)) text = .ok variant ↔
      text = name variant := by
  unfold variantOf
  rw [List.find?_map]
  cases named : known.find? ((·.1 == text) ∘ fun variant => (name variant, variant)) with
  | none =>
    have unnamed := List.find?_eq_none.mp named variant (all variant)
    refine ⟨nofun, fun same => ?_⟩
    simp [same] at unnamed
  | some other =>
    have same : name other = text := by simpa using List.find?_some named
    refine ⟨fun done => ?_, fun known => ?_⟩
    · cases done
      exact same.symm
    · rw [distinct (same.trans known)]
      rfl

theorem asVariant_eq_ok_iff {name : α → String} {known : List α} (all : ∀ variant, variant ∈ known)
    (distinct : Function.Injective name) {variant : α} :
    asVariant (known.map fun variant => (name variant, variant)) found = .ok variant ↔
      IsNamed name found variant := by
  unfold asVariant
  split
  · rw [variantOf_eq_ok_iff all distinct]
    simp [IsNamed]
  · simp only [bind_eq_ok_iff, variantOf_eq_ok_iff all distinct, IsNamed, Value.object.injEq,
      List.cons.injEq, Prod.mk.injEq, and_true, reduceCtorEq, false_or]
    constructor
    · rintro ⟨other, rfl, done⟩
      split at done
      · cases done
        exact ⟨rfl, rfl⟩
      · cases done
    · rintro ⟨rfl, rfl⟩
      exact ⟨variant, rfl, rfl⟩
  · next members single =>
    refine ⟨nofun, ?_⟩
    rintro (text | object)
    · cases text
    · cases object
      exact (single _ _ rfl).elim
  · next unnamed _ other =>
    refine ⟨nofun, ?_⟩
    rintro (text | object)
    · exact (unnamed _ text).elim
    · exact (other _ object).elim

theorem asOptional_eq_ok_iff {result : Option α}
    (means : ∀ value, read found = .ok value ↔ meaning found value) :
    asOptional read found = .ok result ↔ Optional meaning (some found) result := by
  unfold asOptional
  split
  · constructor
    · intro done
      cases done
      exact .null
    · intro optional
      cases optional with
      | null => rfl
      | given present => exact (present rfl).elim
  · next present =>
    simp only [bind_eq_ok_iff, pure_eq_ok_iff, means]
    constructor
    · rintro ⟨value, given, rfl⟩
      exact .given present given
    · intro optional
      cases optional with
      | null => exact (present rfl).elim
      | given _ given => exact ⟨_, given, rfl⟩

theorem readAll_eq_mapM (elements : List Value) : readAll read elements = elements.mapM read := by
  induction elements with
  | nil => rfl
  | cons first rest ih => simp only [readAll, List.mapM_cons, ih]

theorem asList_eq_ok_iff {values : List α}
    (means : ∀ elements, found = .array elements →
      ∀ element ∈ elements, ∀ value, read element = .ok value ↔ meaning element value) :
    asList read found = .ok values ↔ IsList meaning found values := by
  unfold asList
  split
  · next elements =>
    rw [readAll_eq_mapM, mapM_eq_ok_iff (means elements rfl)]
    exact ⟨.array, fun ⟨list⟩ => list⟩
  · next other =>
    refine ⟨nofun, ?_⟩
    rintro ⟨⟩
    exact (other _ rfl).elim

end Reading

section Members

variable {α : Type} {read : Value → Shape α} {meaning : Value → α → Prop} {field : String}
  {members : List (String × Value)}

theorem required_eq_ok_iff {given : Option α} {value : α} :
    required field given = .ok value ↔ given = some value := by
  cases given <;> simp [required]

theorem member_eq_some_iff {value : α}
    (means : ∀ found, member? field members = some found →
      ∀ value, read found = .ok value ↔ meaning found value) :
    member field read members = .ok (some value) ↔ Required meaning (member? field members) value := by
  unfold member
  split
  · next absent =>
    rw [absent]
    exact ⟨nofun, nofun⟩
  · next found given =>
    simp only [given, bind_eq_ok_iff, pure_eq_ok_iff, means found given, Option.some.injEq,
      exists_eq_right]
    exact ⟨.given, fun ⟨means⟩ => means⟩

theorem member_getD_iff {default value : α}
    (means : ∀ found, member? field members = some found →
      ∀ value, read found = .ok value ↔ meaning found value) :
    (∃ given, member field read members = .ok given ∧ given.getD default = value) ↔
      Defaulted default meaning (member? field members) value := by
  unfold member
  split
  · next absent =>
    rw [absent]
    constructor
    · rintro ⟨_, ⟨⟩, rfl⟩
      exact .absent
    · rintro ⟨⟩
      exact ⟨none, rfl, rfl⟩
  · next found given =>
    simp only [given, bind_eq_ok_iff, pure_eq_ok_iff, means found given]
    constructor
    · rintro ⟨_, ⟨value, means, rfl⟩, rfl⟩
      exact .given means
    · rintro ⟨⟩
      exact ⟨_, ⟨value, ‹_›, rfl⟩, rfl⟩

theorem optionalMember_eq_ok_iff {result : Option α}
    (means : ∀ found value, read found = .ok value ↔ meaning found value) :
    optionalMember field read members = .ok result ↔ Optional meaning (member? field members) result := by
  unfold optionalMember member
  split
  · next absent =>
    rw [absent]
    constructor
    · intro done
      cases done
      exact .absent
    · rintro ⟨⟩
      rfl
  · next found given =>
    simp only [given, bind_eq_ok_iff, pure_eq_ok_iff, asOptional_eq_ok_iff (means found)]
    constructor
    · rintro ⟨_, ⟨result, means, rfl⟩, rfl⟩
      exact means
    · intro means
      exact ⟨_, ⟨result, means, rfl⟩, rfl⟩

end Members

section Positions

variable {α : Type} {read : Value → Shape α} {meaning : Value → α → Prop} {expected : String}
  {position count : Nat} {elements : List Value}

theorem positionAt_eq_ok_iff {value : α}
    (means : ∀ found value, read found = .ok value ↔ meaning found value) :
    positionAt expected position read elements = .ok value ↔
      Required meaning elements[position]? value := by
  unfold positionAt
  split
  · next found given =>
    rw [given, means]
    exact ⟨.given, fun ⟨means⟩ => means⟩
  · next absent =>
    rw [absent]
    exact ⟨nofun, nofun⟩

theorem positionAt_optional_iff {result : Option α}
    (means : ∀ found value, read found = .ok value ↔ meaning found value) :
    positionAt expected position (asOptional read) elements = .ok result ↔
      position < elements.length ∧ Optional meaning elements[position]? result := by
  unfold positionAt
  split
  · next found given =>
    rw [given, asOptional_eq_ok_iff (means found)]
    exact (and_iff_right (List.getElem?_eq_some_iff.mp given).1).symm
  · next absent =>
    exact ⟨nofun, fun present => absurd (List.getElem?_eq_none_iff.mp absent) (by omega)⟩

theorem positionOr_eq_ok_iff {default value : α}
    (means : ∀ found, elements[position]? = some found →
      ∀ value, read found = .ok value ↔ meaning found value) :
    positionOr default position read elements = .ok value ↔
      Defaulted default meaning elements[position]? value := by
  unfold positionOr
  split
  · next found given =>
    rw [given, means found given]
    exact ⟨.given, fun | .given means => means⟩
  · next absent =>
    rw [absent]
    constructor
    · intro done
      cases done
      exact .absent
    · rintro ⟨⟩
      rfl

theorem noneAfter_eq_ok_iff {done : Unit} :
    noneAfter count elements = .ok done ↔ elements.length ≤ count := by
  unfold noneAfter
  split <;> simp_all

end Positions

end Federation.Format
