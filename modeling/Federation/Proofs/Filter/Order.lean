import Federation.Proofs.Document.Retaining
import Federation.Proofs.Filter.Running

namespace Federation

def Document.Vanishes (kinds : List RoleKind) (document : Document) : Prop :=
  ∃ entity, document = .entity entity ∧ ∀ role ∈ entity.roles, role.kind ∉ kinds

namespace Filter

variable {kinds : List RoleKind} {longest : Option Duration} {now : Instant} {document : Document}

theorem restrictRoles?_none_iff {entity : Entity} :
    restrictRoles? kinds entity = none ↔ ∀ role ∈ entity.roles, role.kind ∉ kinds := by
  simp [restrictRoles?]

theorem restrictRoles?_validUntil {entity kept : Entity}
    (restricted : restrictRoles? kinds entity = some kept) : kept.validUntil = entity.validUntil := by
  unfold restrictRoles? at restricted
  dsimp only at restricted
  split at restricted
  · cases restricted
  · rw [← Option.some.inj restricted]

theorem restricted_of_vanishes (vanishes : document.Vanishes kinds) :
    restricted kinds document = .group .empty := by
  obtain ⟨entity, rfl, without⟩ := vanishes
  have dropped := restrictRoles?_none_iff.mpr without
  simp only [restricted, Document.retain, keepRoles, dropped]

theorem restricted_validUntil (remains : ¬ document.Vanishes kinds) :
    (restricted kinds document).validUntil = document.validUntil := by
  cases document with
  | group g =>
    change (g.retain (keepRoles kinds) []).1.validUntil = g.validUntil
    rw [← Group.bare_validUntil, Group.bare_retain, Group.bare_validUntil]
  | entity e =>
    cases kept : restrictRoles? kinds e with
    | none => exact absurd ⟨e, rfl, restrictRoles?_none_iff.mp kept⟩ remains
    | some left =>
      simp only [restricted, Document.retain, keepRoles, kept, Document.validUntil]
      exact restrictRoles?_validUntil kept

theorem rolesFirst_iff {left : Document} :
    passed? now [entityRole kinds, requiredValidUntil longest] document = some left ↔
      InTime longest now (restricted kinds document).validUntil ∧ restricted kinds document = left := by
  rw [passed?_entityRole_iff, passed?_requiredValidUntil_iff, passed?_nil, Option.some_inj]

theorem validityFirst_iff {left : Document} :
    passed? now [requiredValidUntil longest, entityRole kinds] document = some left ↔
      InTime longest now document.validUntil ∧ restricted kinds document = left := by
  rw [passed?_requiredValidUntil_iff, passed?_entityRole_iff, passed?_nil, Option.some_inj]

theorem rolesFirst_of_vanishes (vanishes : document.Vanishes kinds) (longest : Option Duration)
    (now : Instant) :
    runAll now [entityRole kinds, requiredValidUntil longest] document =
      .error (.documentRejected "metadata does not declare validUntil") := by
  have undeclared : (restricted kinds document).validUntil = none := by
    rw [restricted_of_vanishes vanishes]
    rfl
  have refused := requiredValidUntil_undeclared longest now undeclared
  exact runAll_error_iff.mpr ⟨[entityRole kinds], _, [], _, rfl, rfl, refused⟩

theorem orders_agree (stays : ¬ (document.Vanishes kinds ∧ InTime longest now document.validUntil)) :
    passed? now [entityRole kinds, requiredValidUntil longest] document =
      passed? now [requiredValidUntil longest, entityRole kinds] document := by
  by_cases vanishes : document.Vanishes kinds
  · have late : passed? now [requiredValidUntil longest, entityRole kinds] document = none := by
      apply Option.eq_none_iff_forall_ne_some.mpr
      intro left passed
      exact stays ⟨vanishes, (validityFirst_iff.mp passed).1⟩
    rw [late, passed?, rolesFirst_of_vanishes vanishes]
    rfl
  · apply Option.ext
    intro left
    rw [rolesFirst_iff, validityFirst_iff, restricted_validUntil vanishes]

/-- Whether roles or validity are looked at first, a document is accepted alike and comes out the same,
    except when it is one entity that is dropped and that declares its end of validity in time. Then the
    order with roles first rejects it for want of a declaration, and the other leaves an empty group. -/
theorem orders_agree_iff (kinds : List RoleKind) (longest : Option Duration) (now : Instant)
    (document : Document) :
    let rolesFirst := [entityRole kinds, requiredValidUntil longest]
    let validityFirst := [requiredValidUntil longest, entityRole kinds]
    (passed? now rolesFirst document = passed? now validityFirst document ↔
      ¬ (document.Vanishes kinds ∧ InTime longest now document.validUntil)) ∧
    (passed? now rolesFirst document ≠ passed? now validityFirst document →
      runAll now rolesFirst document =
          .error (.documentRejected "metadata does not declare validUntil") ∧
        passed? now validityFirst document = some (.group .empty)) := by
  intro rolesFirst validityFirst
  refine ⟨⟨?_, orders_agree⟩, ?_⟩
  · intro same vanishing
    have accepted := validityFirst_iff.mpr ⟨vanishing.2, restricted_of_vanishes vanishing.1⟩
    rw [accepted, passed?, rolesFirst_of_vanishes vanishing.1] at same
    cases same
  · intro differs
    have vanishing := Classical.not_not.mp (mt orders_agree differs)
    exact ⟨rolesFirst_of_vanishes vanishing.1 longest now,
      validityFirst_iff.mpr ⟨vanishing.2, restricted_of_vanishes vanishing.1⟩⟩

/-- An entity that is dropped from a group leaves the group's declaration; one that is the whole
    document does not. -/
theorem orders_agree_iff_dropped :
    let entity : Entity := ⟨"a", some .epoch, none, [⟨.spSso, [], [], []⟩], none⟩
    let group : Group := ⟨none, some .epoch, none, [entity], []⟩
    let rolesFirst := [entityRole [.idpSso], requiredValidUntil none]
    let validityFirst := [requiredValidUntil none, entityRole [.idpSso]]
    passed? .epoch rolesFirst (.group group) = passed? .epoch validityFirst (.group group) ∧
      passed? .epoch rolesFirst (.entity entity) ≠ passed? .epoch validityFirst (.entity entity) ∧
      runAll .epoch rolesFirst (.entity entity) =
        .error (.documentRejected "metadata does not declare validUntil") := by
  intro entity group rolesFirst validityFirst
  have kept : ¬ (Document.group group).Vanishes [.idpSso] := by
    intro vanishes
    obtain ⟨_, same, _⟩ := vanishes
    cases same
  have agree := (orders_agree_iff [.idpSso] none .epoch (.group group)).1.mpr fun both => kept both.1
  have differ : passed? .epoch rolesFirst (.entity entity) ≠
      passed? .epoch validityFirst (.entity entity) := nofun
  exact ⟨agree, differ, ((orders_agree_iff [.idpSso] none .epoch (.entity entity)).2 differ).1⟩

/-- Dropping the only entity of a document makes a filter reject it that has accepted it before. -/
theorem dropping_rejects :
    ¬ ∀ kinds longest now document,
      passed? now [entityRole kinds, requiredValidUntil longest] document =
        passed? now [requiredValidUntil longest, entityRole kinds] document := by
  intro same
  have orders := same [.idpSso] none .epoch
    (.entity ⟨"a", some .epoch, none, [⟨.spSso, [], [], []⟩], none⟩)
  cases orders

end Filter

end Federation
