import Federation.Document.Flatten
import Federation.Proofs.Document.Parsing

namespace Federation

theorem SignatureAlgorithm.ofText_eq_error_iff {text : String} {cause : CryptoError} :
    ofText text = .error cause ↔
      (∀ algorithm : SignatureAlgorithm, text ≠ algorithm.name ∧ text ≠ algorithm.uri) ∧
        cause = .unsupportedAlgorithm text := by
  have known : ∀ algorithm, ofText text = .ok algorithm ↔ text = algorithm.name ∨ text = algorithm.uri :=
    fun _ => ofText_eq_ok_iff
  simp only [ne_eq, ← not_or, ← known]
  unfold ofText ofUri
  split
  · exact iff_of_false nofun fun unknown => unknown.1 _ rfl
  · split
    · exact iff_of_false nofun fun unknown => unknown.1 _ rfl
    · simp [eq_comm]

namespace Draft

inductive Document where
  | entity (entity : Entity)
  | group (group : Group)

mutual

def Group.listed : Group → List Entity
  | ⟨_, _, _, entities, groups⟩ => entities ++ Group.listedAll groups

def Group.listedAll : List Group → List Entity
  | [] => []
  | group :: groups => group.listed ++ Group.listedAll groups

end

mutual

def Group.drawn (draw : Entity → Federation.Entity) : Group → Federation.Group
  | ⟨name, validUntil, cacheDuration, entities, groups⟩ =>
    ⟨name, validUntil, cacheDuration.map Duration.ofSeconds, entities.map draw, Group.drawnAll draw groups⟩

def Group.drawnAll (draw : Entity → Federation.Entity) : List Group → List Federation.Group
  | [] => []
  | group :: groups => group.drawn draw :: Group.drawnAll draw groups

end

namespace Document

def listed : Document → List Entity
  | entity e => [e]
  | group g => g.listed

def drawn (draw : Entity → Federation.Entity) : Document → Federation.Document
  | entity e => .entity (draw e)
  | group g => .group (g.drawn draw)

def convert : Document → Except DraftFault Federation.Document
  | entity e => e.convert.map .entity
  | group g => g.convert.map .group

end Document

/-- A fault of a key: its algorithm, else its text, else that this is of no bytes. -/
inductive Key.Blames (entityId : String) (key : Key) : DraftFault → Prop
  | algorithm
      (unknown : ∀ algorithm : SignatureAlgorithm,
        key.algorithm ≠ algorithm.name ∧ key.algorithm ≠ algorithm.uri) :
      Blames entityId key (.algorithm entityId (.unsupportedAlgorithm key.algorithm))
  | encoding {algorithm : SignatureAlgorithm} {fault : Base64.Fault}
      (known : key.algorithm = algorithm.name ∨ key.algorithm = algorithm.uri)
      (malformed : Base64.decode key.material = .error fault) :
      Blames entityId key (.encoding entityId fault)
  | empty {algorithm : SignatureAlgorithm}
      (known : key.algorithm = algorithm.name ∨ key.algorithm = algorithm.uri)
      (nothing : key.material = []) : Blames entityId key (.emptyKey entityId)

/-- A fault of an entity: its identifier, else that of its first key that cannot be used, in the order of
    its roles. -/
inductive Entity.Blames (entity : Entity) : DraftFault → Prop
  | blank (blank : ∀ c ∈ entity.entityId.toList, Text.isBlank c = true) : Blames entity .blankEntityId
  | key {fault : DraftFault} (identified : ∃ c ∈ entity.entityId.toList, Text.isBlank c = false)
      (first : BlamesFirst Key.IsUsable (Key.Blames entity.entityId) (entity.roles.flatMap (·.keys)) fault) :
      Blames entity fault

variable {entityId : String} {fault : DraftFault}

theorem Key.convert_eq_error_iff {key : Key} :
    key.convert entityId = .error fault ↔ key.Blames entityId fault := by
  constructor
  · intro failed
    unfold Key.convert at failed
    cases named : SignatureAlgorithm.ofText key.algorithm with
    | error cause =>
      obtain ⟨unknown, rfl⟩ := SignatureAlgorithm.ofText_eq_error_iff.mp named
      rw [named] at failed
      cases failed
      exact .algorithm unknown
    | ok algorithm =>
      have known := SignatureAlgorithm.ofText_eq_ok_iff.mp named
      rw [named] at failed
      cases read : key.bytes with
      | error malformed =>
        rw [read] at failed
        cases failed
        exact .encoding known read
      | ok bytes =>
        rw [read] at failed
        cases bytes with
        | nil =>
          cases failed
          exact .empty known (bytes_eq_ok_iff.mp read)
        | cons first rest => cases failed
  · rintro (unknown | ⟨known, malformed⟩ | ⟨known, nothing⟩)
    · rw [Key.convert, SignatureAlgorithm.ofText_eq_error_iff.mpr ⟨unknown, rfl⟩]
      rfl
    · have read : key.bytes = .error _ := malformed
      rw [Key.convert, SignatureAlgorithm.ofText_eq_ok_iff.mpr known, read]
      rfl
    · have read : key.bytes = .ok [] := bytes_eq_ok_iff.mpr nothing
      rw [Key.convert, SignatureAlgorithm.ofText_eq_ok_iff.mpr known, read]
      rfl

theorem Key.exists_convert_iff {key : Key} :
    (∃ descriptor, key.convert entityId = .ok descriptor) ↔ key.IsUsable := by
  simp only [convert_eq_ok_iff, exists_mirrors_iff]

theorem Role.convert_eq_error_iff {role : Role} :
    role.convert entityId = .error fault ↔
      BlamesFirst Key.IsUsable (Key.Blames entityId) role.keys fault := by
  simp only [Role.convert, convertAll_eq_mapM, bind_eq_error_iff, pure_ne_error, and_false, exists_false,
    or_false]
  exact mapM_eq_error_iff (fun _ _ => Key.exists_convert_iff) fun _ _ _ => Key.convert_eq_error_iff

theorem Role.exists_convert_iff {role : Role} :
    (∃ descriptor, role.convert entityId = .ok descriptor) ↔ ∀ key ∈ role.keys, key.IsUsable := by
  simp only [convert_eq_ok_iff, exists_mirrors_iff]

theorem Entity.convert_eq_error_iff {entity : Entity} :
    entity.convert = .error fault ↔ entity.Blames fault := by
  unfold Entity.convert
  split
  · next blank =>
    have allBlank : ∀ c ∈ entity.entityId.toList, Text.isBlank c = true := by
      simpa [Text.isBlankText] using blank
    constructor
    · rintro ⟨⟩
      exact .blank allBlank
    · rintro (_ | ⟨⟨c, member, visible⟩, _⟩)
      · rfl
      · cases visible.symm.trans (allBlank c member)
  · next visible =>
    have identified := isBlankText_eq_false_iff.mp (by simpa using visible)
    simp only [convertAll_eq_mapM, bind_eq_error_iff, pure_ne_error, and_false, exists_false, or_false]
    rw [mapM_eq_error_iff (fun _ _ => Role.exists_convert_iff) fun _ _ _ => Role.convert_eq_error_iff,
      ← blamesFirst_flatMap_iff]
    constructor
    · exact .key identified
    · intro blames
      cases blames with
      | blank blank =>
        obtain ⟨c, member, visible⟩ := identified
        cases visible.symm.trans (blank c member)
      | key _ first => exact first

theorem Entity.exists_convert_iff {entity : Entity} :
    (∃ converted, entity.convert = .ok converted) ↔ entity.IsSound := by
  simp only [convert_eq_ok_iff, exists_mirrors_iff]

theorem Group.listedAll_eq (groups : List Group) : Group.listedAll groups = groups.flatMap Group.listed := by
  induction groups with
  | nil => rfl
  | cons first rest ih => rw [listedAll, ih, List.flatMap_cons]

theorem Group.mem_listed_iff {group : Group} {entity : Entity} :
    entity ∈ group.listed ↔ group.Contains entity := by
  induction group using Group.induction with
  | step group ih =>
    obtain ⟨name, validUntil, cacheDuration, entities, groups⟩ := group
    rw [listed, listedAll_eq, List.mem_append, List.mem_flatMap]
    constructor
    · rintro (member | ⟨nested, member, inside⟩)
      · exact .entity member
      · exact .nested member ((ih nested member).mp inside)
    · rintro (member | ⟨member, inside⟩)
      · exact .inl member
      · exact .inr ⟨_, member, (ih _ member).mpr inside⟩

theorem Group.isSound_iff_listed {group : Group} :
    group.IsSound ↔ ∀ entity ∈ group.listed, entity.IsSound := by
  simp only [IsSound, mem_listed_iff]

theorem Group.exists_convert_iff {group : Group} :
    (∃ converted, group.convert = .ok converted) ↔ ∀ entity ∈ group.listed, entity.IsSound := by
  simp only [convert_eq_ok_iff, exists_mirrors_iff, isSound_iff_listed]

theorem Group.convert_eq_error_iff {group : Group} :
    group.convert = .error fault ↔ BlamesFirst Entity.IsSound Entity.Blames group.listed fault := by
  induction group using Group.induction generalizing fault with
  | step group ih =>
    obtain ⟨name, validUntil, cacheDuration, entities, groups⟩ := group
    have own : entities.mapM Entity.convert = .error fault ↔
        BlamesFirst Entity.IsSound Entity.Blames entities fault :=
      mapM_eq_error_iff (fun _ _ => Entity.exists_convert_iff) fun _ _ _ => Entity.convert_eq_error_iff
    have nested : groups.mapM Group.convert = .error fault ↔
        BlamesFirst Entity.IsSound Entity.Blames (groups.flatMap Group.listed) fault := by
      rw [blamesFirst_flatMap_iff]
      exact mapM_eq_error_iff (fun _ _ => Group.exists_convert_iff) fun nested member _ =>
        ih nested member
    simp only [Group.convert, convertAll_eq_mapM, convertGroups_eq_mapM, bind_eq_error_iff, pure_ne_error,
      and_false, exists_false, or_false, exists_and_right, own, nested, exists_mapM_iff, Entity.exists_convert_iff]
    rw [listed, listedAll_eq, blamesFirst_append_iff]

/-- Whatever entities are drawn, flattening lists them in the order of their drafts. -/
theorem Group.flatten_drawn (draw : Entity → Federation.Entity) (group : Group)
    (inherited : Option Instant) :
    ((group.drawn draw).flattenUnder inherited).map (·.entity) = group.listed.map draw := by
  refine Group.rec
    (motive_1 := fun group => ∀ inherited,
      ((group.drawn draw).flattenUnder inherited).map (·.entity) = group.listed.map draw)
    (motive_2 := fun groups => ∀ inherited,
      (Federation.Group.flattenAll inherited (drawnAll draw groups)).map (·.entity) =
        (listedAll groups).map draw) ?_ ?_ ?_ group inherited
  · intro name validUntil cacheDuration entities groups nested inherited
    rw [drawn, Federation.Group.flattenUnder, listed, List.map_append, List.map_append, nested,
      List.map_map, List.map_map]
    rfl
  · intro inherited
    rfl
  · intro first rest here later inherited
    rw [drawnAll, Federation.Group.flattenAll, listedAll, List.map_append, List.map_append, here, later]

namespace Document

theorem flatten_drawn (draw : Entity → Federation.Entity) (document : Document) :
    (document.drawn draw).flatten.map (·.entity) = document.listed.map draw := by
  cases document with
  | entity e => rfl
  | group g => exact g.flatten_drawn draw none

theorem convert_eq_error_iff {document : Document} :
    document.convert = .error fault ↔
      BlamesFirst Entity.IsSound Entity.Blames document.listed fault := by
  cases document with
  | entity e =>
    simp only [convert, listed, blamesFirst_cons_iff, blamesFirst_nil, and_false, or_false,
      ← Entity.convert_eq_error_iff]
    cases e.convert <;> simp [Except.map]
  | group g =>
    rw [convert, listed, ← Group.convert_eq_error_iff]
    cases g.convert <;> simp [Except.map]

theorem exists_convert_iff {document : Document} :
    (∃ converted, document.convert = .ok converted) ↔ ∀ entity ∈ document.listed, entity.IsSound := by
  cases document with
  | entity e =>
    rw [listed, List.forall_mem_singleton, ← Entity.exists_convert_iff]
    cases converted : e.convert <;> simp [convert, converted, Except.map]
  | group g =>
    rw [listed, ← Group.exists_convert_iff]
    cases converted : g.convert <;> simp [convert, converted, Except.map]

end Document

theorem Entity.Blames.names {entity : Entity} (blames : entity.Blames fault) :
    fault = .blankEntityId ∨
      ∃ rest, fault.message = "Key of '" ++ entity.entityId ++ "'" ++ rest := by
  cases blames with
  | blank => exact .inl rfl
  | key _ first =>
    obtain ⟨_, key, _, _, _, blames⟩ := first
    have quoted (said rest : String) : "Key of '" ++ entity.entityId ++ "'" ++ (said ++ rest) =
        "Key of '" ++ entity.entityId ++ ("'" ++ said) ++ rest := by
      simp only [String.append_assoc]
    refine .inr ?_
    cases blames with
    | algorithm => exact ⟨" has unusable algorithm: " ++ _, by rw [quoted]; rfl⟩
    | encoding => exact ⟨" is not valid base64: " ++ _, by rw [quoted]; rfl⟩
    | empty => exact ⟨" is empty", by rw [String.append_assoc]; rfl⟩

end Draft

namespace Format

open Json

inductive Drafts (members : List (String × Value)) : Draft.Document → Prop
  | entity {draft : Draft.Entity} (isEntity : recordOf members = .entity)
      (shape : IsEntity (.object members) draft) : Drafts members (.entity draft)
  | group {draft : Draft.Group} (isGroup : recordOf members = .group)
      (shape : IsGroup (.object members) draft) : Drafts members (.group draft)

end Format

namespace Document

open Format

variable {members : List (String × Json.Value)} {bytes : Bytes} {draft : Draft.Document}

theorem ofJson_of_drafts (drafts : Drafts members draft) :
    ofJson (.object members) = draft.convert.mapError DocumentFault.draft := by
  cases drafts with
  | @entity draft isEntity shape =>
    have identified : (Json.member? "entityID" members).isSome = true := by
      by_contra unidentified
      cases isEntity.symm.trans (if_neg unidentified)
    rw [ofJson, if_pos identified, entity_eq_ok_iff.mpr shape, Draft.Document.convert]
    change (do return entity (← draft.convert.mapError DocumentFault.draft)) = _
    cases draft.convert <;> rfl
  | @group draft isGroup shape =>
    have unidentified : ¬ (Json.member? "entityID" members).isSome = true := by
      intro identified
      cases isGroup.symm.trans (if_pos identified)
    rw [ofJson, if_neg unidentified, (group_eq_ok_iff _).mpr shape, Draft.Document.convert]
    change (do return group (← draft.convert.mapError DocumentFault.draft)) = _
    cases draft.convert <;> rfl

theorem ofBytes_of_drafts (read : Json.read bytes = .ok (.object members)) (drafts : Drafts members draft) :
    ofBytes bytes = draft.convert.mapError DocumentFault.draft := by
  rw [ofBytes_of_read read, ofJson_of_drafts drafts]

/-- An object with the right shape that has faults is rejected with that of the entity that flattening would
    list first among those with any: that it has no identifier, or else that of its first key that cannot be
    used. Each key is asked for its algorithm, then for its text, then for its bytes, and its fault names the
    entity. -/
theorem parse_blames_first (read : Json.read bytes = .ok (.object members))
    (drafts : Drafts members draft) :
    (∀ draw, (draft.drawn draw).flatten.map (·.entity) = draft.listed.map draw) ∧
    ((∃ entity ∈ draft.listed, ¬ entity.IsSound) → ∃ fault,
      BlamesFirst Draft.Entity.IsSound Draft.Entity.Blames draft.listed fault ∧
      parse bytes = .error (.parse fault.message)) ∧
    (∀ fault, ofBytes bytes = .error (.draft fault) ↔
      BlamesFirst Draft.Entity.IsSound Draft.Entity.Blames draft.listed fault) ∧
    ∀ entity fault, Draft.Entity.Blames entity fault →
      fault = .blankEntityId ∨
        ∃ rest, fault.message = "Key of '" ++ entity.entityId ++ "'" ++ rest := by
  have converted : ∀ fault, ofBytes bytes = .error (.draft fault) ↔ draft.convert = .error fault := by
    intro fault
    rw [ofBytes_of_drafts read drafts]
    cases draft.convert <;> simp [Except.mapError]
  refine ⟨fun draw => draft.flatten_drawn draw, ?_, fun fault => ?_, fun _ _ blames => blames.names⟩
  · rintro ⟨entity, member, unsound⟩
    cases failed : draft.convert with
    | ok document =>
      exact absurd (Draft.Document.exists_convert_iff.mp ⟨document, failed⟩ entity member) unsound
    | error fault =>
      refine ⟨fault, Draft.Document.convert_eq_error_iff.mp failed, ?_⟩
      rw [parse, (converted fault).mpr failed]
      rfl
  · rw [converted, Draft.Document.convert_eq_error_iff]

set_option maxRecDepth 20000 in
theorem read_nested_faults :
    Json.read [123, 34, 103, 114, 111, 117, 112, 115, 34, 58, 91, 91, 110, 117, 108, 108, 44, 110, 117, 108,
        108, 44, 110, 117, 108, 108, 44, 91, 91, 34, 98, 34, 44, 110, 117, 108, 108, 44, 110, 117, 108,
        108, 44, 110, 117, 108, 108, 44, 91, 91, 34, 112, 100, 112, 34, 44, 91, 93, 44, 91, 91, 34, 115,
        105, 103, 110, 105, 110, 103, 34, 44, 34, 120, 34, 44, 34, 33, 34, 44, 110, 117, 108, 108, 93,
        93, 93, 93, 93, 93, 44, 91, 91, 110, 117, 108, 108, 44, 110, 117, 108, 108, 44, 110, 117, 108,
        108, 44, 91, 91, 34, 34, 44, 110, 117, 108, 108, 44, 110, 117, 108, 108, 44, 110, 117, 108, 108,
        93, 93, 93, 93, 93, 93, 125] =
      .ok (.object [("groups", .array [.array [.null, .null, .null,
        .array [.array [.string "b", .null, .null, .null, .array [.array [.string "pdp", .array [],
          .array [.array [.string "signing", .string "x", .string "!", .null]]]]]],
        .array [.array [.null, .null, .null, .array [.array [.string "", .null, .null, .null]]]]]])]) := by
  have spelled := Json.read_encoding
    ("\x7b\"groups\":[[null,null,null,[[\"b\",null,null,null,[[\"pdp\",[],[[\"signing\",\"x\",\"!\",null]]]]]],".toList ++
      "[[null,null,null,[[\"\",null,null,null]]]]]]\x7d".toList)
  rw [String.toList_ofList, String.toList_ofList] at spelled
  exact spelled.trans rfl

/-- A key without a known algorithm, whose text is not base64 either, in a group that has an entity without
    an identifier in a group inside it. -/
theorem parse_blames_first_algorithm :
    let bytes := [123, 34, 103, 114, 111, 117, 112, 115, 34, 58, 91, 91, 110, 117, 108, 108, 44, 110, 117, 108, 108,
      44, 110, 117, 108, 108, 44, 91, 91, 34, 98, 34, 44, 110, 117, 108, 108, 44, 110, 117, 108, 108,
      44, 110, 117, 108, 108, 44, 91, 91, 34, 112, 100, 112, 34, 44, 91, 93, 44, 91, 91, 34, 115, 105,
      103, 110, 105, 110, 103, 34, 44, 34, 120, 34, 44, 34, 33, 34, 44, 110, 117, 108, 108, 93, 93, 93,
      93, 93, 93, 44, 91, 91, 110, 117, 108, 108, 44, 110, 117, 108, 108, 44, 110, 117, 108, 108, 44,
      91, 91, 34, 34, 44, 110, 117, 108, 108, 44, 110, 117, 108, 108, 44, 110, 117, 108, 108, 93, 93,
      93, 93, 93, 93, 125]
    let key : Draft.Key := ⟨.signing, "x", "!", none⟩
    let own : Draft.Entity := ⟨"b", none, none, none, [⟨.pdp, [], [key], []⟩]⟩
    let nested : Draft.Entity := ⟨"", none, none, none, []⟩
    let inner : Draft.Group := ⟨none, none, none, [nested], []⟩
    let draft : Draft.Document := .group ⟨none, none, none, [], [⟨none, none, none, [own], [inner]⟩]⟩
    draft.listed = [own, nested] ∧ nested.Blames .blankEntityId ∧
      Base64.decode key.material = .error (.symbol 33 0) ∧
      ofBytes bytes = .error (.draft (.algorithm "b" (.unsupportedAlgorithm "x"))) ∧
      parse bytes = .error (.parse "Key of 'b' has unusable algorithm: Algorithm not supported: x") := by
  intro bytes key own nested inner draft
  have isKey : IsKey (.array [.string "signing", .string "x", .string "!", .null]) key :=
    ⟨_, rfl, .given (.inl rfl), .given rfl, .given rfl, .null⟩
  have isRole : IsRole (.array [.string "pdp", .array [], .array [_]]) ⟨.pdp, [], [key], []⟩ :=
    ⟨_, rfl, .given (.inl rfl), .given (.array .nil), .given (.array (.cons isKey .nil)), .absent⟩
  have isOwn : IsEntity (.array [.string "b", .null, .null, .null, .array [_]]) own :=
    ⟨_, rfl, .given rfl, .null, .null, .null, .given (.array (.cons isRole .nil))⟩
  have isNested : IsEntity (.array [.string "", .null, .null, .null]) nested :=
    ⟨_, rfl, .given rfl, .null, .null, .null, .absent⟩
  have isInner : IsGroup (.array [.null, .null, .null, .array [_]]) inner :=
    .record rfl .null .null .null (.given (.array (.cons isNested .nil))) .absent
  have isOuter : IsGroup (.array [.null, .null, .null, .array [_], .array [_]])
      ⟨none, none, none, [own], [inner]⟩ :=
    .record rfl .null .null .null (.given (.array (.cons isOwn .nil)))
      (.given (.array (.cons isInner .nil)))
  have drafts : Drafts [("groups", .array [_])] draft :=
    .group rfl (.record rfl .absent .absent .absent .absent (.given (.array (.cons isOuter .nil))))
  have unknown : key.Blames "b" (.algorithm "b" (.unsupportedAlgorithm "x")) := by
    refine .algorithm fun algorithm => ?_
    cases algorithm <;> decide
  have blames : own.Blames (.algorithm "b" (.unsupportedAlgorithm "x")) :=
    .key ⟨'b', by decide, by decide⟩ ⟨[], key, [], rfl, nofun, unknown⟩
  obtain ⟨_, _, exactly, _⟩ := parse_blames_first read_nested_faults drafts
  have listed : draft.listed = [own, nested] := rfl
  have failed : ofBytes bytes = .error (.draft (.algorithm "b" (.unsupportedAlgorithm "x"))) :=
    (exactly _).mpr ⟨[], own, [nested], listed, List.forall_mem_nil _, blames⟩
  have material : key.material = [33] := (Bytes.ofText_ofList (Text.trim "!".toList)).trans (by decide)
  refine ⟨listed, .blank nofun, by rw [material]; rfl, failed, ?_⟩
  rw [parse, failed]
  rfl

end Document

end Federation
