import Federation.Document.Flatten

namespace Federation

/-- An entity with the groups around it, from the outermost. -/
structure Occurrence where
  entity : Entity
  groups : List Group

mutual

def Group.occurrencesUnder (outer : List Group) : Group → List Occurrence
  | ⟨name, validUntil, cacheDuration, entities, groups⟩ =>
    let around := outer ++ [⟨name, validUntil, cacheDuration, entities, groups⟩]
    entities.map (⟨·, around⟩) ++ Group.occurrencesAll around groups

def Group.occurrencesAll (outer : List Group) : List Group → List Occurrence
  | [] => []
  | group :: groups => group.occurrencesUnder outer ++ Group.occurrencesAll outer groups

end

def Document.occurrences : Document → List Occurrence
  | .entity e => [⟨e, []⟩]
  | .group g => g.occurrencesUnder []

theorem isBefore_earliest (now : Instant) (left right : Option Instant) :
    isBefore now (Instant.earliest left right) = (isBefore now left && isBefore now right) := by
  cases left with
  | none => rfl
  | some first =>
    cases right with
    | none => simp [Instant.earliest, isBefore]
    | some second =>
      have least : now < min first second ↔ now < first ∧ now < second := by
        show now < (if first ≤ second then first else second) ↔ _
        simp only [Instant.lt_def, Instant.le_def]
        split <;> omega
      simp [Instant.earliest, isBefore, least]

def Group.boundOf (groups : List Group) : Option Instant :=
  groups.foldl (fun bound group => Instant.earliest bound group.validUntil) none

theorem Group.boundOf_snoc (groups : List Group) (group : Group) :
    boundOf (groups ++ [group]) = Instant.earliest (boundOf groups) group.validUntil := by
  unfold boundOf
  rw [List.foldl_append]
  rfl

theorem Group.isBefore_boundOf (now : Instant) (groups : List Group) :
    isBefore now (boundOf groups) = groups.all (isBefore now ·.validUntil) := by
  have folded : ∀ bound, isBefore now
      (groups.foldl (fun bound group => Instant.earliest bound group.validUntil) bound) =
        (isBefore now bound && groups.all (isBefore now ·.validUntil)) := by
    induction groups with
    | nil => simp
    | cons group rest ih =>
      intro bound
      rw [List.foldl_cons, ih, isBefore_earliest, List.all_cons, Bool.and_assoc]
  exact folded none

namespace Occurrence

def flattened (occurrence : Occurrence) : FlattenedEntity :=
  occurrence.entity.flattenUnder (Group.boundOf occurrence.groups)

def Declares (occurrence : Occurrence) (bound : Instant) : Prop :=
  occurrence.entity.validUntil = some bound ∨
    ∃ group ∈ occurrence.groups, group.validUntil = some bound

def hasEnded (occurrence : Occurrence) (now : Instant) : Bool :=
  !(isBefore now occurrence.entity.validUntil &&
    occurrence.groups.all (isBefore now ·.validUntil))

end Occurrence

theorem isBefore_iff {now : Instant} {declared : Option Instant} :
    isBefore now declared = true ↔ ∀ bound, declared = some bound → now < bound := by
  cases declared <;> simp [isBefore]

namespace Occurrence

theorem hasEnded_eq_false_iff {occurrence : Occurrence} {now : Instant} :
    occurrence.hasEnded now = false ↔ ∀ bound, occurrence.Declares bound → now < bound := by
  simp only [hasEnded, Declares, Bool.not_eq_false', Bool.and_eq_true, List.all_eq_true, isBefore_iff]
  constructor
  · rintro ⟨own, inherited⟩ bound (declared | ⟨group, around, declared⟩)
    · exact own bound declared
    · exact inherited group around bound declared
  · intro lasts
    exact ⟨fun bound declared => lasts bound (.inl declared),
      fun group around bound declared => lasts bound (.inr ⟨group, around, declared⟩)⟩

theorem flattened_isValidAt (occurrence : Occurrence) (now : Instant) :
    occurrence.flattened.isValidAt now = !occurrence.hasEnded now := by
  show isBefore now (Instant.earliest _ _) = _
  rw [isBefore_earliest, Group.isBefore_boundOf, hasEnded, Bool.not_not, Bool.and_comm]

end Occurrence

/-- The bound that flattening hands down to a group is that of the groups around it. -/
theorem Group.flattenUnder_eq (group : Group) (outer : List Group) :
    group.flattenUnder (boundOf outer) = (group.occurrencesUnder outer).map (·.flattened) := by
  induction group using Group.induction_lists (fun groups => ∀ around,
      flattenAll (boundOf around) groups = (occurrencesAll around groups).map (·.flattened))
      generalizing outer with
  | group name validUntil cacheDuration entities groups nested =>
    have placed : ∀ entity, (Occurrence.mk entity (outer ++
        [⟨name, validUntil, cacheDuration, entities, groups⟩])).flattened =
          entity.flattenUnder (Instant.earliest (boundOf outer) validUntil) := by
      intro entity
      rw [Occurrence.flattened, boundOf_snoc]
    simp only [flattenUnder, occurrencesUnder, List.map_append, List.map_map, Function.comp_def, placed,
      ← nested, boundOf_snoc]
  | nil => rfl
  | cons first rest here later =>
    rw [flattenAll, occurrencesAll, List.map_append, here, later]

theorem Document.flatten_eq (document : Document) :
    document.flatten = document.occurrences.map (·.flattened) := by
  cases document with
  | entity e => rfl
  | group g => exact g.flattenUnder_eq []

theorem Group.flattenUnder_length (group : Group) (inherited : Option Instant) :
    (group.flattenUnder inherited).length = group.entityCount := by
  induction group using Group.induction_lists
      (fun groups => ∀ bound, (flattenAll bound groups).length = entityCounts groups)
      generalizing inherited with
  | group name validUntil cacheDuration entities groups nested =>
    rw [flattenUnder, entityCount, List.length_append, List.length_map, nested]
  | nil => rfl
  | cons first rest here later =>
    rw [flattenAll, entityCounts, List.length_append, here, later]

theorem Document.flatten_length (document : Document) :
    document.flatten.length = document.entityCount := by
  cases document with
  | entity e => rfl
  | group g => exact g.flattenUnder_length none

end Federation
