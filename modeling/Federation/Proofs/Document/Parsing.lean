import Mathlib.Data.List.Forall2
import Federation.Document.Reading
import Federation.Proofs.Bytes.Base64
import Federation.Proofs.Document.Unknown
import Federation.Proofs.Json.Reading

namespace Federation

theorem convertAll_eq_mapM {α β : Type} (convert : α → Except DraftFault β) (elements : List α) :
    convertAll convert elements = elements.mapM convert := by
  induction elements with
  | nil => rfl
  | cons first rest ih => simp only [convertAll, List.mapM_cons, ih]

theorem SignatureAlgorithm.ofText_eq_ok_iff {text : String} {algorithm : SignatureAlgorithm} :
    ofText text = .ok algorithm ↔ text = algorithm.name ∨ text = algorithm.uri := by
  constructor
  · intro known
    unfold ofText ofUri at known
    split at known
    · next found =>
      cases known
      have same := List.find?_some found
      exact .inl (beq_iff_eq.mp same).symm
    · split at known
      · next found =>
        cases known
        have same := List.find?_some found
        exact .inr (beq_iff_eq.mp same).symm
      · cases known
  · rintro (rfl | rfl) <;> cases algorithm <;> decide

namespace Draft

def Key.material (key : Key) : Bytes := Bytes.ofText (String.ofList (Text.trim key.publicKey.toList))

def Key.IsUsable (key : Key) : Prop :=
  (∃ algorithm : SignatureAlgorithm, key.algorithm = algorithm.name ∨ key.algorithm = algorithm.uri) ∧
    ∃ bytes, bytes ≠ [] ∧ key.material = Base64.encode bytes

def Entity.IsSound (entity : Entity) : Prop :=
  (∃ c ∈ entity.entityId.toList, Text.isBlank c = false) ∧
    ∀ role ∈ entity.roles, ∀ key ∈ role.keys, key.IsUsable

inductive Group.Contains : Group → Entity → Prop
  | entity {group : Group} {entity : Entity} (member : entity ∈ group.entities) : Contains group entity
  | nested {group nested : Group} {entity : Entity} (member : nested ∈ group.groups)
      (inside : Contains nested entity) : Contains group entity

def Group.IsSound (group : Group) : Prop := ∀ entity, group.Contains entity → entity.IsSound

structure Key.Mirrors (key : Key) (descriptor : KeyDescriptor) : Prop where
  usage : descriptor.usage = key.usage
  algorithm : key.algorithm = descriptor.algorithm.name ∨ key.algorithm = descriptor.algorithm.uri
  publicKey : key.material = Base64.encode descriptor.publicKey
  some : descriptor.publicKey ≠ []
  keyName : descriptor.keyName = key.keyName

structure Role.Mirrors (role : Role) (descriptor : RoleDescriptor) : Prop where
  kind : descriptor.kind = role.kind
  protocols : descriptor.protocols = role.protocols
  keys : List.Forall₂ Key.Mirrors role.keys descriptor.keys
  endpoints : descriptor.endpoints = role.endpoints

structure Entity.Mirrors (draft : Entity) (entity : Federation.Entity) : Prop where
  identified : ∃ c ∈ draft.entityId.toList, Text.isBlank c = false
  entityId : entity.entityId = draft.entityId
  validUntil : entity.validUntil = draft.validUntil
  cacheDuration : entity.cacheDuration = draft.cacheDuration.map Duration.ofSeconds
  roles : List.Forall₂ Role.Mirrors draft.roles entity.roles
  organization : entity.organization = draft.organization

inductive Group.Mirrors : Group → Federation.Group → Prop
  | record {draft : Group} {group : Federation.Group}
      (name : group.name = draft.name)
      (validUntil : group.validUntil = draft.validUntil)
      (cacheDuration : group.cacheDuration = draft.cacheDuration.map Duration.ofSeconds)
      (entities : List.Forall₂ Entity.Mirrors draft.entities group.entities)
      (groups : List.Forall₂ Group.Mirrors draft.groups group.groups) : Mirrors draft group

variable {entityId : String}

theorem Key.bytes_eq_ok_iff {key : Key} {bytes : Bytes} :
    key.bytes = .ok bytes ↔ key.material = Base64.encode bytes := Base64.decode_eq_ok_iff

theorem Key.convert_eq_ok_iff {key : Key} {descriptor : KeyDescriptor} :
    key.convert entityId = .ok descriptor ↔ key.Mirrors descriptor := by
  unfold Key.convert
  cases named : SignatureAlgorithm.ofText key.algorithm with
  | error cause =>
    refine ⟨nofun, fun mirrors => ?_⟩
    cases named.symm.trans (SignatureAlgorithm.ofText_eq_ok_iff.mpr mirrors.algorithm)
  | ok algorithm =>
    cases read : key.bytes with
    | error fault =>
      refine ⟨nofun, fun mirrors => ?_⟩
      cases read.symm.trans (bytes_eq_ok_iff.mpr mirrors.publicKey)
    | ok bytes =>
      constructor
      · intro done
        cases bytes with
        | nil => cases done
        | cons first rest =>
          cases done
          exact ⟨rfl, SignatureAlgorithm.ofText_eq_ok_iff.mp named, bytes_eq_ok_iff.mp read,
            List.cons_ne_nil _ _, rfl⟩
      · intro mirrors
        obtain ⟨usage, found, publicKey, keyName⟩ := descriptor
        cases mirrors.usage
        cases mirrors.keyName
        cases named.symm.trans (SignatureAlgorithm.ofText_eq_ok_iff.mpr mirrors.algorithm)
        cases read.symm.trans (bytes_eq_ok_iff.mpr mirrors.publicKey)
        cases publicKey with
        | nil => exact (mirrors.some rfl).elim
        | cons first rest => rfl

theorem Key.exists_mirrors_iff {key : Key} : (∃ descriptor, key.Mirrors descriptor) ↔ key.IsUsable := by
  constructor
  · rintro ⟨descriptor, mirrors⟩
    exact ⟨⟨_, mirrors.algorithm⟩, _, mirrors.some, mirrors.publicKey⟩
  · rintro ⟨⟨algorithm, named⟩, bytes, some, material⟩
    exact ⟨⟨key.usage, algorithm, bytes, key.keyName⟩, rfl, named, material, some, rfl⟩

theorem Role.convert_eq_ok_iff {role : Role} {descriptor : RoleDescriptor} :
    role.convert entityId = .ok descriptor ↔ role.Mirrors descriptor := by
  simp only [Role.convert, convertAll_eq_mapM, bind_eq_ok_iff, pure_eq_ok_iff,
    mapM_eq_ok_iff fun _ _ _ => Key.convert_eq_ok_iff]
  constructor
  · rintro ⟨keys, mirrors, rfl⟩
    exact ⟨rfl, rfl, mirrors, rfl⟩
  · rintro ⟨kind, protocols, keys, endpoints⟩
    exact ⟨_, keys, by rw [← kind, ← protocols, ← endpoints]⟩

theorem Role.exists_mirrors_iff {role : Role} :
    (∃ descriptor, role.Mirrors descriptor) ↔ ∀ key ∈ role.keys, key.IsUsable := by
  simp only [← Key.exists_mirrors_iff, ← exists_forall₂_iff]
  constructor
  · rintro ⟨descriptor, mirrors⟩
    exact ⟨_, mirrors.keys⟩
  · rintro ⟨keys, mirrors⟩
    exact ⟨⟨role.kind, role.protocols, keys, role.endpoints⟩, rfl, rfl, mirrors, rfl⟩

theorem isBlankText_eq_false_iff {text : String} :
    Text.isBlankText text = false ↔ ∃ c ∈ text.toList, Text.isBlank c = false := by
  simp [Text.isBlankText]

theorem Entity.convert_eq_ok_iff {draft : Entity} {entity : Federation.Entity} :
    draft.convert = .ok entity ↔ draft.Mirrors entity := by
  unfold Entity.convert
  split
  · next blank =>
    refine ⟨nofun, fun mirrors => ?_⟩
    cases blank.symm.trans (isBlankText_eq_false_iff.mpr mirrors.identified)
  · next identified =>
    simp only [convertAll_eq_mapM, bind_eq_ok_iff, pure_eq_ok_iff,
      mapM_eq_ok_iff fun _ _ _ => Role.convert_eq_ok_iff]
    constructor
    · rintro ⟨roles, mirrors, rfl⟩
      exact ⟨isBlankText_eq_false_iff.mp (by simpa using identified), rfl, rfl, rfl, mirrors, rfl⟩
    · rintro ⟨_, entityId, validUntil, cacheDuration, roles, organization⟩
      exact ⟨_, roles, by rw [← entityId, ← validUntil, ← cacheDuration, ← organization]⟩

theorem Entity.exists_mirrors_iff {draft : Entity} : (∃ entity, draft.Mirrors entity) ↔ draft.IsSound := by
  simp only [IsSound, ← Role.exists_mirrors_iff, ← exists_forall₂_iff]
  constructor
  · rintro ⟨entity, mirrors⟩
    exact ⟨mirrors.identified, _, mirrors.roles⟩
  · rintro ⟨identified, roles, mirrors⟩
    exact ⟨⟨draft.entityId, draft.validUntil, draft.cacheDuration.map Duration.ofSeconds, roles,
      draft.organization⟩, identified, rfl, rfl, rfl, mirrors, rfl⟩

theorem Group.convertGroups_eq_mapM (groups : List Group) :
    Group.convertGroups groups = groups.mapM Group.convert := by
  induction groups with
  | nil => rfl
  | cons first rest ih => simp only [Group.convertGroups, List.mapM_cons, ih]

theorem Group.convert_eq_ok_iff {draft : Group} {group : Federation.Group} :
    draft.convert = .ok group ↔ draft.Mirrors group := by
  induction draft using Group.induction generalizing group with
  | step draft ih =>
    obtain ⟨name, validUntil, cacheDuration, entities, groups⟩ := draft
    simp only [Group.convert, convertAll_eq_mapM, convertGroups_eq_mapM, bind_eq_ok_iff, pure_eq_ok_iff,
      mapM_eq_ok_iff fun _ _ _ => Entity.convert_eq_ok_iff,
      mapM_eq_ok_iff fun nested member _ => ih nested member]
    constructor
    · rintro ⟨_, entities, _, groups, rfl⟩
      exact .record rfl rfl rfl entities groups
    · rintro ⟨rfl, rfl, cacheDuration, entities, groups⟩
      cases group
      exact ⟨_, entities, _, groups, by rw [← cacheDuration]⟩

theorem Group.isSound_iff {draft : Group} :
    draft.IsSound ↔
      (∀ entity ∈ draft.entities, entity.IsSound) ∧ ∀ nested ∈ draft.groups, nested.IsSound := by
  constructor
  · intro sound
    exact ⟨fun entity member => sound entity (.entity member),
      fun nested member entity inside => sound entity (.nested member inside)⟩
  · rintro ⟨entities, groups⟩ entity inside
    cases inside with
    | entity member => exact entities entity member
    | nested member inside => exact groups _ member entity inside

theorem Group.exists_mirrors_iff {draft : Group} : (∃ group, draft.Mirrors group) ↔ draft.IsSound := by
  induction draft using Group.induction with
  | step draft ih =>
    have groups : ∀ nested ∈ draft.groups, (nested.IsSound ↔ ∃ group, nested.Mirrors group) :=
      fun nested member => (ih nested member).symm
    rw [isSound_iff, forall₂_congr groups, ← exists_forall₂_iff]
    simp only [← Entity.exists_mirrors_iff, ← exists_forall₂_iff]
    constructor
    · rintro ⟨group, _, _, _, entities, groups⟩
      exact ⟨⟨_, entities⟩, _, groups⟩
    · rintro ⟨⟨entities, found⟩, groups, nested⟩
      exact ⟨⟨draft.name, draft.validUntil, draft.cacheDuration.map Duration.ofSeconds, entities, groups⟩,
        .record rfl rfl rfl found nested⟩

end Draft

namespace Format

open Json

/-- An object is an entity if it has an identifier, whatever that is, and else a group. -/
def recordOf (members : List (String × Value)) : Record :=
  if (member? "entityID" members).isSome then .entity else .group

/-- An object that has the shape of what it is, and holds nothing that cannot be used. -/
inductive IsAccepted (members : List (String × Value)) : Prop
  | entity {draft : Draft.Entity} (isEntity : recordOf members = .entity)
      (shape : IsEntity (.object members) draft) (sound : draft.IsSound)
  | group {draft : Draft.Group} (isGroup : recordOf members = .group)
      (shape : IsGroup (.object members) draft) (sound : draft.IsSound)

inductive Describes (members : List (String × Value)) : Document → Prop
  | entity {draft : Draft.Entity} {entity : Entity} (isEntity : recordOf members = .entity)
      (shape : IsEntity (.object members) draft) (mirrors : draft.Mirrors entity) :
      Describes members (.entity entity)
  | group {draft : Draft.Group} {group : Group} (isGroup : recordOf members = .group)
      (shape : IsGroup (.object members) draft) (mirrors : draft.Mirrors group) :
      Describes members (.group group)

/-- Objects that differ only in members that are unknown where they stand. -/
def Agree (left right : List (String × Value)) : Prop :=
  recordOf left = recordOf right ∧
    (recordOf left).known (.object left) = (recordOf right).known (.object right)

variable {members : List (String × Value)}

theorem isAccepted_iff : IsAccepted members ↔ ∃ document, Describes members document := by
  constructor
  · rintro (⟨isEntity, shape, sound⟩ | ⟨isGroup, shape, sound⟩)
    · obtain ⟨entity, mirrors⟩ := Draft.Entity.exists_mirrors_iff.mpr sound
      exact ⟨_, .entity isEntity shape mirrors⟩
    · obtain ⟨group, mirrors⟩ := Draft.Group.exists_mirrors_iff.mpr sound
      exact ⟨_, .group isGroup shape mirrors⟩
  · rintro ⟨_, ⟨isEntity, shape, mirrors⟩ | ⟨isGroup, shape, mirrors⟩⟩
    · exact .entity isEntity shape (Draft.Entity.exists_mirrors_iff.mp ⟨_, mirrors⟩)
    · exact .group isGroup shape (Draft.Group.exists_mirrors_iff.mp ⟨_, mirrors⟩)

end Format

namespace Document

open Format

variable {members : List (String × Json.Value)} {bytes : Bytes} {document : Document}

theorem ofJson_eq_ok_iff : ofJson (.object members) = .ok document ↔ Describes members document := by
  simp only [ofJson]
  split
  · next identified =>
    have isEntity : recordOf members = .entity := if_pos identified
    simp only [bind_eq_ok_iff, pure_eq_ok_iff, mapError_eq_ok_iff, entity_eq_ok_iff,
      Draft.Entity.convert_eq_ok_iff]
    constructor
    · rintro ⟨draft, shape, entity, mirrors, rfl⟩
      exact .entity isEntity shape mirrors
    · rintro (⟨_, shape, mirrors⟩ | ⟨isGroup, _, _⟩)
      · exact ⟨_, shape, _, mirrors, rfl⟩
      · cases isEntity.symm.trans isGroup
  · next unidentified =>
    have isGroup : recordOf members = .group := if_neg unidentified
    simp only [bind_eq_ok_iff, pure_eq_ok_iff, mapError_eq_ok_iff, group_eq_ok_iff,
      Draft.Group.convert_eq_ok_iff]
    constructor
    · rintro ⟨draft, shape, group, mirrors, rfl⟩
      exact .group isGroup shape mirrors
    · rintro (⟨isEntity, _, _⟩ | ⟨_, shape, mirrors⟩)
      · cases isEntity.symm.trans isGroup
      · exact ⟨_, shape, _, mirrors, rfl⟩

theorem ofJson_agree {left right : List (String × Json.Value)} (agree : Agree left right) :
    ofJson (.object left) = ofJson (.object right) := by
  obtain ⟨same, known⟩ := agree
  simp only [ofJson]
  by_cases identified : (Json.member? "entityID" left).isSome = true
  · have isEntity : recordOf left = .entity := if_pos identified
    have other : (Json.member? "entityID" right).isSome = true := by
      by_contra unidentified
      cases isEntity.symm.trans (same.trans (if_neg unidentified))
    rw [← same, isEntity] at known
    rw [if_pos identified, if_pos other, ← entity_known, known, entity_known]
  · have isGroup : recordOf left = .group := if_neg identified
    have other : ¬ (Json.member? "entityID" right).isSome = true := by
      intro identified
      cases isGroup.symm.trans (same.trans (if_pos identified))
    rw [← same, isGroup] at known
    rw [if_neg identified, if_neg other, ← group_known, known, group_known]

theorem ofBytes_of_read (read : Json.read bytes = .ok (.object members)) :
    ofBytes bytes = ofJson (.object members) := by
  simp only [ofBytes, Json.not_blank_of_read_object read, read, Bool.false_eq_true, if_false]

theorem ofBytes_error (other : ∀ members, Json.read bytes ≠ .ok (.object members)) :
    ∃ fault, ofBytes bytes = .error fault := by
  unfold ofBytes
  split
  · exact ⟨_, rfl⟩
  · split
    · next value read =>
      cases value with
      | object members => exact (other members read).elim
      | _ => exact ⟨_, rfl⟩
    · exact ⟨_, rfl⟩

theorem parse_eq_ok_iff (read : Json.read bytes = .ok (.object members)) :
    parse bytes = .ok document ↔ Describes members document := by
  unfold parse
  rw [mapError_eq_ok_iff, ofBytes_of_read read, ofJson_eq_ok_iff]

theorem parse_error {failure : MetadataError} (failed : parse bytes = .error failure) :
    ∃ message, failure = .parse message := by
  unfold parse at failed
  cases read : ofBytes bytes with
  | ok document =>
    rw [read] at failed
    cases failed
  | error fault =>
    rw [read] at failed
    cases failed
    exact ⟨_, rfl⟩

/-- A document is accepted exactly if its object has the shape of an entity or of a group, every entity
    in it has an identifier, and every key in it can be used. Then it is what the object describes, whatever
    unknown members there are. Whole numbers are not cut: they are read with 64 bits. -/
theorem parse_exact (bytes : Bytes) :
    (∀ members, Json.read bytes = .ok (.object members) →
      ((∃ document, parse bytes = .ok document) ↔ IsAccepted members) ∧
      (∀ document, parse bytes = .ok document ↔ Describes members document) ∧
      (∀ other others, Json.read other = .ok (.object others) → Agree members others →
        parse bytes = parse other) ∧
      (Json.Value.object members).IsExact) ∧
    ((∀ members, Json.read bytes ≠ .ok (.object members)) → ∃ failure, parse bytes = .error failure) ∧
    ∀ failure, parse bytes = .error failure → ∃ message, failure = .parse message := by
  refine ⟨?_, ?_, fun _ => parse_error⟩
  · intro members read
    refine ⟨?_, fun _ => parse_eq_ok_iff read, ?_, Json.read_isExact read⟩
    · rw [isAccepted_iff]
      exact exists_congr fun _ => parse_eq_ok_iff read
    · intro other others readOther agree
      rw [parse, parse, ofBytes_of_read read, ofBytes_of_read readOther, ofJson_agree agree]
  · intro other
    obtain ⟨fault, failed⟩ := ofBytes_error other
    exact ⟨_, by rw [parse, failed]; rfl⟩

theorem read_no_members : Json.read [123, 125] = .ok (.object []) := by
  have spelled := Json.read_encoding "\x7b\x7d".toList
  rw [String.toList_ofList] at spelled
  exact spelled.trans rfl

theorem read_unknown_member :
    Json.read [123, 34, 120, 34, 58, 110, 117, 108, 108, 125] = .ok (.object [("x", .null)]) := by
  have spelled := Json.read_encoding "\x7b\"x\":null\x7d".toList
  rw [String.toList_ofList] at spelled
  exact spelled.trans rfl

theorem read_key :
    Json.read [123, 34, 101, 110, 116, 105, 116, 105, 101, 115, 34, 58, 91, 91, 34, 97, 34, 44, 110, 117, 108,
        108, 44, 110, 117, 108, 108, 44, 110, 117, 108, 108, 44, 91, 91, 34, 112, 100, 112, 34, 44, 91, 93, 44,
        91, 91, 34, 115, 105, 103, 110, 105, 110, 103, 34, 44, 34, 101, 100, 50, 53, 53, 49, 57, 34, 44, 34, 65,
        65, 61, 61, 34, 44, 110, 117, 108, 108, 93, 93, 93, 93, 93, 93, 125] =
      .ok (.object [("entities", .array [.array [.string "a", .null, .null, .null,
        .array [.array [.string "pdp", .array [],
          .array [.array [.string "signing", .string "ed25519", .string "AA==", .null]]]]]])]) := by
  have spelled := Json.read_encoding
    "\x7b\"entities\":[[\"a\",null,null,null,[[\"pdp\",[],[[\"signing\",\"ed25519\",\"AA==\",null]]]]]]\x7d".toList
  rw [String.toList_ofList] at spelled
  exact spelled.trans rfl

/-- The document `{"entities":[["a",null,null,null,[["pdp",[],[["signing","ed25519","AA==",null]]]]]]}` is a
    group of an entity with a key of one byte. The document `{"x":null}` is what `{}` is, and no bytes have
    no document. -/
theorem parse_exact_key :
    let keyed := [123, 34, 101, 110, 116, 105, 116, 105, 101, 115, 34, 58, 91, 91, 34, 97, 34, 44, 110, 117,
      108, 108, 44, 110, 117, 108, 108, 44, 110, 117, 108, 108, 44, 91, 91, 34, 112, 100, 112, 34, 44, 91, 93,
      44, 91, 91, 34, 115, 105, 103, 110, 105, 110, 103, 34, 44, 34, 101, 100, 50, 53, 53, 49, 57, 34, 44, 34,
      65, 65, 61, 61, 34, 44, 110, 117, 108, 108, 93, 93, 93, 93, 93, 93, 125]
    let key : KeyDescriptor := ⟨.signing, .ed25519, [0], none⟩
    let entity : Entity := ⟨"a", none, none, [⟨.pdp, [], [key], []⟩], none⟩
    parse keyed = .ok (.group ⟨none, none, none, [entity], []⟩) ∧
      parse [123, 34, 120, 34, 58, 110, 117, 108, 108, 125] = parse [123, 125] ∧
      ∃ message, parse [] = .error (.parse message) := by
  obtain ⟨_, described, _⟩ := (parse_exact _).1 _ read_key
  have isKey : IsKey (.array [.string "signing", .string "ed25519", .string "AA==", .null])
      ⟨.signing, "ed25519", "AA==", none⟩ :=
    ⟨_, rfl, .given (.inl rfl), .given rfl, .given rfl, .null⟩
  have isRole : IsRole (.array [.string "pdp", .array [], .array [_]]) ⟨.pdp, [], [_], []⟩ :=
    ⟨_, rfl, .given (.inl rfl), .given (.array .nil), .given (.array (.cons isKey .nil)), .absent⟩
  have isEntity : IsEntity (.array [.string "a", .null, .null, .null, .array [_]])
      ⟨"a", none, none, none, [_]⟩ :=
    ⟨_, rfl, .given rfl, .null, .null, .null, .given (.array (.cons isRole .nil))⟩
  have isGroup : IsGroup (.object [("entities", .array [_])]) ⟨none, none, none, [_], []⟩ :=
    .record rfl .absent .absent .absent (.given (.array (.cons isEntity .nil))) .absent
  have key : Draft.Key.Mirrors ⟨.signing, "ed25519", "AA==", none⟩ ⟨.signing, .ed25519, [0], none⟩ :=
    ⟨rfl, .inl rfl, (Bytes.ofText_ofList _).trans rfl, List.cons_ne_nil _ _, rfl⟩
  have entity : Draft.Entity.Mirrors ⟨"a", none, none, none, [⟨.pdp, [], [_], []⟩]⟩
      ⟨"a", none, none, [⟨.pdp, [], [_], []⟩], none⟩ :=
    ⟨⟨'a', by decide, by decide⟩, rfl, rfl, rfl, .cons ⟨rfl, rfl, .cons key .nil, rfl⟩ .nil, rfl⟩
  have agree : Agree [("x", .null)] [] := ⟨rfl, rfl⟩
  obtain ⟨_, _, same, _⟩ := (parse_exact _).1 _ read_unknown_member
  have readNothing : Json.read [] = .error .unexpectedEnd := (Json.read_encoding []).trans rfl
  obtain ⟨_, rejected, blamed⟩ := parse_exact []
  obtain ⟨failure, failed⟩ := rejected fun members read => by cases readNothing.symm.trans read
  obtain ⟨message, rfl⟩ := blamed failure failed
  exact ⟨(described _).mpr (.group rfl isGroup (.record rfl rfl rfl (.cons entity .nil) .nil)),
    same _ _ read_no_members agree, message, failed⟩

end Document

end Federation
