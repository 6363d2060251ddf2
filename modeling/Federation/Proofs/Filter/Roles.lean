import Mathlib.Data.List.Basic
import Federation.Proofs.Document.Choosing
import Federation.Proofs.Filter.Order

namespace Federation

theorem contains_inter (first second : List RoleKind) (kind : RoleKind) :
    (first ∩ second).contains kind = (first.contains kind && second.contains kind) := by
  rw [Bool.eq_iff_iff, Bool.and_eq_true]
  simp only [List.contains_iff_mem, List.mem_inter_iff]

namespace Entity

def playsAny (kinds : List RoleKind) (entity : Entity) : Bool :=
  entity.roles.any fun role => kinds.contains role.kind

def onlyRoles (kinds : List RoleKind) (entity : Entity) : Entity :=
  { entity with roles := entity.roles.filter fun role => kinds.contains role.kind }

theorem playsAny_onlyRoles (first second : List RoleKind) (entity : Entity) :
    (entity.onlyRoles first).playsAny second = entity.playsAny (first ∩ second) := by
  unfold onlyRoles playsAny
  simp only [List.any_filter, contains_inter]

theorem onlyRoles_onlyRoles (first second : List RoleKind) (entity : Entity) :
    (entity.onlyRoles first).onlyRoles second = entity.onlyRoles (first ∩ second) := by
  unfold onlyRoles
  simp only [List.filter_filter, contains_inter, Bool.and_comm]

theorem playsAny_of_inter {first second : List RoleKind} {entity : Entity}
    (plays : entity.playsAny (first ∩ second) = true) : entity.playsAny first = true := by
  unfold playsAny at plays ⊢
  obtain ⟨role, member, among⟩ := List.any_eq_true.mp plays
  rw [contains_inter] at among
  exact List.any_eq_true.mpr ⟨role, member, (Bool.and_eq_true_iff.mp among).1⟩

end Entity

namespace Filter

def rejections (kinds : List RoleKind) (entities : List Entity) : List MetadataError :=
  (entities.filter fun entity => !entity.playsAny kinds).map fun entity =>
    .validation entity.entityId "no retained roles"

theorem restrictRoles?_eq (kinds : List RoleKind) (entity : Entity) :
    restrictRoles? kinds entity =
      if entity.playsAny kinds then some (entity.onlyRoles kinds) else none := by
  have none : (entity.roles.filter fun role => kinds.contains role.kind).isEmpty =
      !entity.playsAny kinds := by
    rw [Bool.eq_iff_iff]
    simp [Entity.playsAny]
  unfold restrictRoles?
  simp only [none]
  cases entity.playsAny kinds <;> rfl

theorem restrictRoles?_bind (first second : List RoleKind) (entity : Entity) :
    (restrictRoles? first entity).bind (restrictRoles? second) =
      restrictRoles? (first ∩ second) entity := by
  rw [restrictRoles?_eq, restrictRoles?_eq]
  cases plays : entity.playsAny first with
  | true =>
    rw [if_pos rfl, Option.bind_some, restrictRoles?_eq, Entity.playsAny_onlyRoles,
      Entity.onlyRoles_onlyRoles]
  | false =>
    have neither : entity.playsAny (first ∩ second) = false :=
      Bool.eq_false_iff.mpr fun both => Bool.eq_false_iff.mp plays (Entity.playsAny_of_inter both)
    rw [neither]
    rfl

theorem keepRoles_fst (kinds : List RoleKind) (entity : Entity) (rejected : List MetadataError) :
    (keepRoles kinds entity rejected).1 = restrictRoles? kinds entity := by
  unfold keepRoles
  cases restrictRoles? kinds entity <;> rfl

theorem answers_keepRoles (kinds : List RoleKind) (entities : List Entity)
    (rejected : List MetadataError) :
    ((keepRoles kinds).answers entities rejected).2 = rejected ++ rejections kinds entities := by
  induction entities generalizing rejected with
  | nil => exact (List.append_nil rejected).symm
  | cons entity rest ih =>
    rw [Keep.answers_cons, ih]
    unfold keepRoles rejections
    rw [restrictRoles?_eq]
    cases plays : entity.playsAny kinds <;> simp [plays]

theorem restricted_eq (kinds : List RoleKind) (document : Document) :
    restricted kinds document = document.chosen (restrictRoles? kinds) :=
  document.retain_of_choose (keepRoles_fst kinds) []

theorem entityRole_run (kinds : List RoleKind) (now : Instant) (document : Document) :
    (entityRole kinds).run now document =
      .ok ⟨restricted kinds document, rejections kinds (document.flatten.map (·.entity))⟩ := by
  have reported := (document.occurrences_retain (keepRoles kinds) []).2
  have listed : document.occurrences.map (·.entity) = document.flatten.map (·.entity) := by
    rw [document.flatten_eq, List.map_map]
    rfl
  rw [Keep.retained, answers_keepRoles, listed, List.nil_append] at reported
  change Except.ok (FilterOutcome.mk _ (document.retain (keepRoles kinds) []).2) = _
  rw [reported]
  rfl

theorem flatten_restricted (kinds : List RoleKind) (document : Document) :
    (restricted kinds document).flatten =
      (document.flatten.filter (·.entity.playsAny kinds)).map fun flat =>
        { flat with entity := flat.entity.onlyRoles kinds } := by
  rw [restricted_eq, Document.flatten_chosen fun _ _ => restrictRoles?_validUntil,
    ← List.filterMap_eq_map, List.filterMap_filter]
  congr 1
  funext flat
  rw [restrictRoles?_eq]
  cases flat.entity.playsAny kinds <;> rfl

theorem restricted_restricted (first second : List RoleKind) (document : Document) :
    restricted second (restricted first document) = restricted (first ∩ second) document := by
  rw [restricted_eq, restricted_eq, restricted_eq, Document.chosen_chosen]
  simp only [restrictRoles?_bind]

theorem entities_restricted (kinds : List RoleKind) (document : Document) :
    (restricted kinds document).flatten.map (·.entity) =
      ((document.flatten.map (·.entity)).filter (·.playsAny kinds)).map (·.onlyRoles kinds) := by
  rw [flatten_restricted, List.map_map, List.filter_map, List.map_map]
  rfl

/-- Each entity that one of two filters reports is reported once by the filter for both. -/
theorem rejections_perm (first second : List RoleKind) (entities : List Entity) :
    (rejections first entities ++
      rejections second ((entities.filter (·.playsAny first)).map (·.onlyRoles first))).Perm
        (rejections (first ∩ second) entities) := by
  let dropped := entities.filter fun entity => !entity.playsAny (first ∩ second)
  have early : (dropped.filter fun entity => !entity.playsAny first) =
      entities.filter fun entity => !entity.playsAny first := by
    rw [List.filter_filter]
    apply List.filter_congr
    intro entity _
    cases plays : entity.playsAny (first ∩ second) with
    | false => simp
    | true => simp [Entity.playsAny_of_inter plays]
  have late : rejections second ((entities.filter (·.playsAny first)).map (·.onlyRoles first)) =
      (dropped.filter (·.playsAny first)).map fun entity =>
        .validation entity.entityId "no retained roles" := by
    have left : (entities.filter (·.playsAny first)).filter
        (fun entity => !(entity.onlyRoles first).playsAny second) = dropped.filter (·.playsAny first) := by
      rw [List.filter_filter, List.filter_filter]
      simp only [Entity.playsAny_onlyRoles, Bool.and_comm]
    rw [rejections, List.filter_map, List.map_map, ← left]
    rfl
  rw [late, rejections, ← early, ← List.map_append]
  exact (List.perm_append_comm.trans (List.filter_append_perm _ dropped)).map _

/-- Which kinds are retained decides, and not how they are listed. -/
theorem keepRoles_congr {first second : List RoleKind} (same : ∀ kind, kind ∈ first ↔ kind ∈ second) :
    keepRoles first = keepRoles second := by
  have contains : first.contains = second.contains := by
    funext kind
    rw [Bool.eq_iff_iff, List.contains_iff_mem, List.contains_iff_mem]
    exact same kind
  unfold keepRoles restrictRoles?
  rw [contains]

theorem entityRole_then (first second : List RoleKind) (now : Instant) (document : Document) :
    runAll now [entityRole first, entityRole second] document =
      .ok ⟨restricted (first ∩ second) document,
        rejections first (document.flatten.map (·.entity)) ++
          rejections second ((restricted first document).flatten.map (·.entity))⟩ := by
  have last : runAll now [entityRole second] (restricted first document) =
      .ok ⟨restricted (first ∩ second) document,
        rejections second ((restricted first document).flatten.map (·.entity))⟩ := by
    rw [runAll_cons, entityRole_run, restricted_restricted]
    simp [runAll, Except.map]
  rw [runAll_cons, entityRole_run]
  dsimp only
  rw [last]
  rfl

theorem entityRole_once (first second : List RoleKind) (now : Instant) (document : Document) :
    ∃ twice once, runAll now [entityRole first, entityRole second] document = .ok twice ∧
      (entityRole (first ∩ second)).run now document = .ok once ∧
      twice.document = once.document ∧ twice.rejected.Perm once.rejected := by
  refine ⟨_, _, entityRole_then first second now document, entityRole_run _ now document, rfl, ?_⟩
  rw [entities_restricted]
  exact rejections_perm first second _

theorem roles_of_restricted {kinds : List RoleKind} {document : Document} {flat : FlattenedEntity}
    (member : flat ∈ (restricted kinds document).flatten) :
    flat.entity.roles ≠ [] ∧ ∀ role ∈ flat.entity.roles, role.kind ∈ kinds := by
  rw [flatten_restricted] at member
  obtain ⟨before, chosen, rfl⟩ := List.mem_map.mp member
  obtain ⟨role, plays, among⟩ := List.any_eq_true.mp (List.mem_filter.mp chosen).2
  refine ⟨List.ne_nil_of_mem (List.mem_filter.mpr ⟨plays, among⟩), ?_⟩
  intro role member
  exact List.contains_iff_mem.mp (List.mem_filter.mp member).2

theorem rejections_restricted (kinds : List RoleKind) (document : Document) :
    rejections kinds ((restricted kinds document).flatten.map (·.entity)) = [] := by
  rw [rejections, List.map_eq_nil_iff, List.filter_eq_nil_iff]
  intro entity member
  obtain ⟨flat, listed, rfl⟩ := List.mem_map.mp member
  obtain ⟨some, among⟩ := roles_of_restricted listed
  obtain ⟨role, plays⟩ := List.exists_mem_of_ne_nil _ some
  have any : flat.entity.playsAny kinds = true :=
    List.any_eq_true.mpr ⟨role, plays, List.contains_iff_mem.mpr (among role plays)⟩
  simp [any]

theorem entityRole_again (kinds : List RoleKind) (now : Instant) (document : Document) :
    runAll now [entityRole kinds, entityRole kinds] document = (entityRole kinds).run now document := by
  have same : keepRoles (kinds ∩ kinds) = keepRoles kinds :=
    keepRoles_congr fun kind => by rw [List.mem_inter_iff, and_self]
  rw [entityRole_then, rejections_restricted, List.append_nil, entityRole_run, restricted, same]
  rfl

theorem entityCount_restricted (kinds : List RoleKind) (document : Document) :
    document.entityCount = (restricted kinds document).entityCount +
      (rejections kinds (document.flatten.map (·.entity))).length := by
  have parted := (List.filter_append_perm (·.playsAny kinds) (document.flatten.map (·.entity))).length_eq
  have left := congrArg List.length (entities_restricted kinds document)
  simp only [List.length_map, Document.flatten_length, List.length_append] at parted left
  rw [rejections, List.length_map, left, parted]

/-- The filter on roles keeps the entities that play a retained role, in their places and with just these
    roles, and reports each of the others once, in order. Run twice it does what it does once. Two of them
    leave in either order what one leaves that retains the kinds of both, and report the same entities. -/
theorem roles_intersect (kinds : List RoleKind) (now : Instant) (document : Document) :
    ∃ outcome, (entityRole kinds).run now document = .ok outcome ∧
      outcome.document.flatten =
        (document.flatten.filter (·.entity.playsAny kinds)).map
          (fun flat => { flat with entity := flat.entity.onlyRoles kinds }) ∧
      (∀ flat ∈ outcome.document.flatten,
        flat.entity.roles ≠ [] ∧ ∀ role ∈ flat.entity.roles, role.kind ∈ kinds) ∧
      outcome.rejected =
        (document.flatten.filter fun flat => !flat.entity.playsAny kinds).map
          (fun flat => .validation flat.entity.entityId "no retained roles") ∧
      document.entityCount = outcome.document.entityCount + outcome.rejected.length ∧
      runAll now [entityRole kinds, entityRole kinds] document = .ok outcome ∧
      ∀ others, ∃ once twice swapped,
        (entityRole (kinds ∩ others)).run now document = .ok once ∧
        runAll now [entityRole kinds, entityRole others] document = .ok twice ∧
        runAll now [entityRole others, entityRole kinds] document = .ok swapped ∧
        twice.document = once.document ∧ twice.rejected.Perm once.rejected ∧
        swapped.document = once.document ∧ swapped.rejected.Perm once.rejected := by
  refine ⟨_, entityRole_run kinds now document, flatten_restricted kinds document,
    fun flat => roles_of_restricted, ?_, entityCount_restricted kinds document, ?_, ?_⟩
  · rw [rejections, List.filter_map, List.map_map]
    rfl
  · rw [entityRole_again, entityRole_run]
  · intro others
    have both : keepRoles (others ∩ kinds) = keepRoles (kinds ∩ others) :=
      keepRoles_congr fun kind => by rw [List.mem_inter_iff, List.mem_inter_iff, and_comm]
    obtain ⟨twice, once, ran, alone, left, reported⟩ := entityRole_once kinds others now document
    obtain ⟨swapped, other, back, single, rest, told⟩ := entityRole_once others kinds now document
    rw [entityRole, both, ← entityRole, alone] at single
    cases single
    exact ⟨once, twice, swapped, alone, ran, back, left, reported, rest, told⟩

/-- An entity that only the second filter drops is reported last by the two, and first by the one for
    both. -/
theorem roles_intersect_nested :
    let entity (id : String) (kinds : List RoleKind) : Entity :=
      ⟨id, none, none, kinds.map (⟨·, [], [], []⟩), none⟩
    let inner : Group :=
      ⟨none, some .epoch, none, [entity "c" [], entity "d" [.pdp, .spSso, .idpSso, .pdp]], []⟩
    let document :=
      Document.group ⟨none, none, none, [entity "a" [.idpSso], entity "b" [.spSso]], [inner]⟩
    let dropped (id : String) := MetadataError.validation id "no retained roles"
    ∃ outcome once twice, (entityRole [.idpSso, .pdp]).run .epoch document = .ok outcome ∧
      outcome.document.flatten =
        [⟨entity "a" [.idpSso], none⟩, ⟨entity "d" [.pdp, .idpSso, .pdp], some .epoch⟩] ∧
      (entity "a" [.idpSso]).roles ≠ [] ∧
      (∀ role ∈ (entity "a" [.idpSso]).roles, role.kind ∈ [RoleKind.idpSso, .pdp]) ∧
      outcome.rejected = [dropped "b", dropped "c"] ∧
      (entityRole ([.idpSso, .pdp] ∩ [.pdp])).run .epoch document = .ok once ∧
      runAll .epoch [entityRole [.idpSso, .pdp], entityRole [.pdp]] document = .ok twice ∧
      once.rejected = [dropped "a", dropped "b", dropped "c"] ∧
      twice.rejected = [dropped "b", dropped "c", dropped "a"] ∧
      twice.document = once.document := by
  intro entity inner document dropped
  obtain ⟨outcome, ran, listed, retained, reported, _, _, composed⟩ :=
    roles_intersect [.idpSso, .pdp] .epoch document
  obtain ⟨once, twice, _, alone, both, _, same, _⟩ := composed [.pdp]
  have first : outcome.document.flatten =
      [⟨entity "a" [.idpSso], none⟩, ⟨entity "d" [.pdp, .idpSso, .pdp], some .epoch⟩] :=
    listed.trans (by decide)
  have roles := retained ⟨entity "a" [.idpSso], none⟩ (first ▸ List.mem_cons_self)
  refine ⟨outcome, once, twice, ran, first, roles.1, roles.2, reported.trans (by decide), alone, both,
    ?_, ?_, same⟩
  · cases alone
    rfl
  · cases both
    rfl

end Filter

end Federation
