import Federation.Proofs.Document.Retaining

namespace Federation

abbrev Choose := Entity → Option Entity

mutual

def Group.chosen (choose : Choose) : Group → Group
  | ⟨name, validUntil, cacheDuration, entities, groups⟩ =>
    ⟨name, validUntil, cacheDuration, entities.filterMap choose, Group.chosenAll choose groups⟩

def Group.chosenAll (choose : Choose) : List Group → List Group
  | [] => []
  | group :: groups => group.chosen choose :: Group.chosenAll choose groups

end

def Document.chosen (choose : Choose) : Document → Document
  | .entity e => (choose e).elim (.group .empty) .entity
  | .group g => .group (g.chosen choose)

section

variable {σ : Type} {keep : Keep σ} {choose : Choose}

theorem Keep.answers_of_choose (alone : ∀ entity state, (keep entity state).1 = choose entity)
    (entities : List Entity) (state : σ) :
    (keep.answers entities state).1 = entities.map choose := by
  induction entities generalizing state with
  | nil => rfl
  | cons entity rest ih => rw [answers_cons, alone, ih, List.map_cons]

theorem Group.retain_of_choose (alone : ∀ entity state, (keep entity state).1 = choose entity)
    (group : Group) (state : σ) : (group.retain keep state).1 = group.chosen choose := by
  induction group using Group.induction_lists
      (fun groups => ∀ state, (retainAll keep groups state).1 = chosenAll choose groups)
      generalizing state with
  | group name validUntil cacheDuration entities groups nested =>
    rw [retain_mk, nested, retainEntities_eq, Keep.answers_of_choose alone, List.filterMap_map, chosen]
    rfl
  | nil => rfl
  | cons first rest here later => rw [retainAll_cons, chosenAll, here, later]

theorem Document.retain_of_choose (alone : ∀ entity state, (keep entity state).1 = choose entity)
    (document : Document) (state : σ) : (document.retain keep state).1 = document.chosen choose := by
  cases document with
  | group g => exact congrArg Document.group (g.retain_of_choose alone state)
  | entity e =>
    rw [retain, chosen, ← alone e state]
    cases keep e state with
    | mk kept after => cases kept <;> rfl

end

section

variable (first second : Choose)

theorem Group.chosen_chosen (group : Group) :
    (group.chosen first).chosen second = group.chosen fun entity => (first entity).bind second := by
  induction group using Group.induction_lists (fun groups =>
      chosenAll second (chosenAll first groups) =
        chosenAll (fun entity => (first entity).bind second) groups) with
  | group name validUntil cacheDuration entities groups nested =>
    rw [chosen, chosen, chosen, nested, List.filterMap_filterMap]
  | nil => rfl
  | cons head rest here later => rw [chosenAll, chosenAll, chosenAll, here, later]

theorem Document.chosen_chosen (document : Document) :
    (document.chosen first).chosen second = document.chosen fun entity => (first entity).bind second := by
  cases document with
  | group g => exact congrArg Document.group (g.chosen_chosen first second)
  | entity e =>
    simp only [chosen]
    cases first e <;> rfl

end

section

variable {choose : Choose}
  (same : ∀ entity kept, choose entity = some kept → kept.validUntil = entity.validUntil)

include same

theorem Group.flattenUnder_chosen (group : Group) (inherited : Option Instant) :
    (group.chosen choose).flattenUnder inherited =
      (group.flattenUnder inherited).filterMap fun flat =>
        (choose flat.entity).map fun entity => { flat with entity } := by
  induction group using Group.induction_lists (fun groups => ∀ inherited,
      flattenAll inherited (chosenAll choose groups) =
        (flattenAll inherited groups).filterMap fun flat =>
          (choose flat.entity).map fun entity => { flat with entity })
      generalizing inherited with
  | group name validUntil cacheDuration entities groups nested =>
    rw [chosen, flattenUnder, flattenUnder, List.filterMap_append, nested, List.map_filterMap,
      List.filterMap_map]
    congr 2
    funext entity
    cases kept : choose entity with
    | none => simp [Entity.flattenUnder, kept]
    | some left => simp [Entity.flattenUnder, kept, same entity left kept]
  | nil => rfl
  | cons first rest here later =>
    rw [chosenAll, flattenAll, flattenAll, here, later, List.filterMap_append]

/-- A choice that leaves ends of validity as they are is made of what flattening lists. -/
theorem Document.flatten_chosen (document : Document) :
    (document.chosen choose).flatten =
      document.flatten.filterMap fun flat =>
        (choose flat.entity).map fun entity => { flat with entity } := by
  cases document with
  | group g => exact g.flattenUnder_chosen same none
  | entity e =>
    cases kept : choose e with
    | none => simp [chosen, flatten, kept, Group.empty, Group.flattenUnder, Group.flattenAll]
    | some left => simp [chosen, flatten, kept, same e left kept]

end

end Federation
