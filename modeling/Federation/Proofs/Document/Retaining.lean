import Federation.Document.Retain
import Federation.Proofs.Document.Occurrences
import Federation.Proofs.Time.Bounds

namespace Federation

namespace Keep

variable {σ : Type}

def answers (keep : Keep σ) (entities : List Entity) (state : σ) : List (Option Entity) × σ :=
  (entities.mapM (m := StateM σ) keep).run state

def recording (keep : Keep σ) : Keep (σ × List Entity) := fun entity recorded =>
  let (kept, state) := keep entity recorded.1
  (kept, state, recorded.2 ++ [entity])

theorem answers_cons (keep : Keep σ) (entity : Entity) (rest : List Entity) (state : σ) :
    keep.answers (entity :: rest) state =
      ((keep entity state).1 :: (keep.answers rest (keep entity state).2).1,
        (keep.answers rest (keep entity state).2).2) := by
  unfold answers
  rw [List.mapM_cons]
  rfl

theorem answers_append (keep : Keep σ) (left right : List Entity) (state : σ) :
    keep.answers (left ++ right) state =
      ((keep.answers left state).1 ++ (keep.answers right (keep.answers left state).2).1,
        (keep.answers right (keep.answers left state).2).2) := by
  induction left generalizing state with
  | nil => rfl
  | cons entity rest ih => rw [List.cons_append, answers_cons, answers_cons, ih]; rfl

theorem answers_length (keep : Keep σ) (entities : List Entity) (state : σ) :
    (keep.answers entities state).1.length = entities.length := by
  induction entities generalizing state with
  | nil => rfl
  | cons entity rest ih => rw [answers_cons, List.length_cons, List.length_cons, ih]

theorem answers_recording (keep : Keep σ) (entities : List Entity) (state : σ) (seen : List Entity) :
    keep.recording.answers entities (state, seen) =
      ((keep.answers entities state).1, (keep.answers entities state).2, seen ++ entities) := by
  induction entities generalizing state seen with
  | nil => rw [List.append_nil]; rfl
  | cons entity rest ih =>
    rw [answers_cons, answers_cons]
    simp only [recording, ih, List.append_assoc, List.singleton_append]

end Keep

mutual

def Group.bare : Group → Group
  | ⟨name, validUntil, cacheDuration, _, groups⟩ =>
    ⟨name, validUntil, cacheDuration, [], Group.bareAll groups⟩

def Group.bareAll : List Group → List Group
  | [] => []
  | group :: groups => group.bare :: Group.bareAll groups

end

theorem Group.bare_validUntil (group : Group) : group.bare.validUntil = group.validUntil := by
  cases group
  rw [bare]

namespace Occurrence

open Instant

def bare (occurrence : Occurrence) : Occurrence :=
  { occurrence with groups := occurrence.groups.map Group.bare }

/-- What stands in the places of some occurrences after they are answered. -/
def kept (occurrences : List Occurrence) (answers : List (Option Entity)) : List Occurrence :=
  (occurrences.zip answers).filterMap fun (occurrence, answer) =>
    answer.map fun entity => { occurrence with entity }

def EndsAt (occurrence : Occurrence) : Option Instant → Prop
  | none => ∀ bound, ¬ occurrence.Declares bound
  | some bound => occurrence.Declares bound ∧ ∀ other, occurrence.Declares other → bound ≤ other

theorem bare_flattened (occurrence : Occurrence) : occurrence.bare.flattened = occurrence.flattened := by
  have bound : ∀ groups : List Group, Group.boundOf (groups.map Group.bare) = Group.boundOf groups := by
    intro groups
    unfold Group.boundOf
    simp only [List.foldl_map, Group.bare_validUntil]
  unfold flattened
  exact congrArg occurrence.entity.flattenUnder (bound occurrence.groups)

theorem flattened_firstOf (occurrence : Occurrence) :
    FirstOf occurrence.Declares occurrence.flattened.effectiveValidUntil := by
  have unbounded : FirstOf (fun _ => False) none := fun _ => id
  have inherited := unbounded.foldl fun group (_ : group ∈ occurrence.groups) =>
    firstOf_self group.validUntil
  exact (inherited.earliest (firstOf_self occurrence.entity.validUntil)).of_iff fun bound => by
    rw [false_or, or_comm, Declares]

theorem endsAt_flattened (occurrence : Occurrence) :
    occurrence.EndsAt occurrence.flattened.effectiveValidUntil := by
  have first := occurrence.flattened_firstOf
  cases bound : occurrence.flattened.effectiveValidUntil with
  | none => rwa [bound] at first
  | some ending => rwa [bound] at first

theorem kept_append (left right : List Occurrence) {answersLeft : List (Option Entity)}
    (length : answersLeft.length = left.length) (answersRight : List (Option Entity)) :
    kept (left ++ right) (answersLeft ++ answersRight) =
      kept left answersLeft ++ kept right answersRight := by
  unfold kept
  rw [List.zip_append length.symm, List.filterMap_append]

theorem kept_cons (occurrence : Occurrence) (rest : List Occurrence) (answer : Option Entity)
    (answers : List (Option Entity)) :
    kept (occurrence :: rest) (answer :: answers) =
      (answer.map fun entity => { occurrence with entity }).toList ++ kept rest answers := by
  unfold kept
  rw [List.zip_cons_cons, List.filterMap_cons]
  cases answer <;> rfl

theorem kept_entities (occurrences : List Occurrence) {answers : List (Option Entity)}
    (length : answers.length = occurrences.length) :
    (kept occurrences answers).map (·.entity) = answers.filterMap id := by
  induction occurrences generalizing answers with
  | nil =>
    rw [List.eq_nil_of_length_eq_zero length]
    rfl
  | cons occurrence rest ih =>
    cases answers with
    | nil => cases length
    | cons answer others =>
      rw [kept_cons, List.map_append, ih (Nat.succ.inj length)]
      cases answer <;> rfl

theorem kept_together (entities : List Entity) (groups : List Group) {answers : List (Option Entity)}
    (length : answers.length = entities.length) :
    kept (entities.map (⟨·, groups⟩)) answers = (answers.filterMap id).map (⟨·, groups⟩) := by
  induction entities generalizing answers with
  | nil =>
    rw [List.eq_nil_of_length_eq_zero length]
    rfl
  | cons entity rest ih =>
    cases answers with
    | nil => cases length
    | cons answer others =>
      rw [List.map_cons, kept_cons, ih (Nat.succ.inj length)]
      cases answer <;> rfl

end Occurrence

section

variable {σ : Type} (keep : Keep σ)

theorem retainEntities_eq (entities : List Entity) (state : σ) :
    retainEntities keep entities state =
      ((keep.answers entities state).1.filterMap id, (keep.answers entities state).2) := by
  induction entities generalizing state with
  | nil => rfl
  | cons entity rest ih =>
    rw [retainEntities, Keep.answers_cons]
    simp only [ih]
    cases (keep entity state).1 <;> rfl

def Keep.retained (occurrences : List Occurrence) (state : σ) : List Occurrence × σ :=
  let answered := keep.answers (occurrences.map (·.entity)) state
  (Occurrence.kept occurrences answered.1, answered.2)

theorem Keep.retained_append (left right : List Occurrence) (state : σ) :
    keep.retained (left ++ right) state =
      ((keep.retained left state).1 ++ (keep.retained right (keep.retained left state).2).1,
        (keep.retained right (keep.retained left state).2).2) := by
  have length := keep.answers_length (left.map (·.entity)) state
  rw [List.length_map] at length
  simp only [retained, List.map_append, answers_append, Occurrence.kept_append left right length]

theorem Keep.retained_together (entities : List Entity) (groups : List Group) (state : σ) :
    keep.retained (entities.map (⟨·, groups⟩)) state =
      ((retainEntities keep entities state).1.map (⟨·, groups⟩),
        (retainEntities keep entities state).2) := by
  have read : (entities.map (Occurrence.mk · groups)).map (·.entity) = entities := by
    rw [List.map_map]
    exact List.map_id entities
  have length := keep.answers_length entities state
  simp only [retained, read, retainEntities_eq, Occurrence.kept_together entities groups length]

namespace Group

theorem retain_mk (name : Option String) (validUntil : Option Instant) (cacheDuration : Option Duration)
    (entities : List Entity) (groups : List Group) (state : σ) :
    retain keep ⟨name, validUntil, cacheDuration, entities, groups⟩ state =
      (⟨name, validUntil, cacheDuration, (retainEntities keep entities state).1,
          (retainAll keep groups (retainEntities keep entities state).2).1⟩,
        (retainAll keep groups (retainEntities keep entities state).2).2) := by
  rw [retain]

theorem retainAll_cons (group : Group) (groups : List Group) (state : σ) :
    retainAll keep (group :: groups) state =
      ((group.retain keep state).1 :: (retainAll keep groups (group.retain keep state).2).1,
        (retainAll keep groups (group.retain keep state).2).2) := by
  rw [retainAll]

theorem bare_retain (group : Group) (state : σ) : (group.retain keep state).1.bare = group.bare := by
  induction group using Group.induction_lists
      (fun groups => ∀ state, bareAll (retainAll keep groups state).1 = bareAll groups)
      generalizing state with
  | group name validUntil cacheDuration entities groups nested =>
    rw [retain_mk, bare, bare, nested]
  | nil => rfl
  | cons first rest here later =>
    rw [retainAll_cons, bareAll, bareAll, here, later]

/-- Of the occurrences in a group those are left that are kept, among groups that differ in nothing but
    their entities. -/
theorem occurrencesUnder_retain (group : Group) {outer left : List Group}
    (same : left.map bare = outer.map bare) (state : σ) :
    ((group.retain keep state).1.occurrencesUnder left).map (·.bare) =
        (keep.retained (group.occurrencesUnder outer) state).1.map (·.bare) ∧
      (group.retain keep state).2 = (keep.retained (group.occurrencesUnder outer) state).2 := by
  induction group using Group.induction_lists (fun groups => ∀ {outer left : List Group},
      left.map bare = outer.map bare → ∀ state,
        (occurrencesAll left (retainAll keep groups state).1).map (·.bare) =
            (keep.retained (occurrencesAll outer groups) state).1.map (·.bare) ∧
          (retainAll keep groups state).2 = (keep.retained (occurrencesAll outer groups) state).2)
      generalizing outer left state with
  | group name validUntil cacheDuration entities groups nested =>
    -- What is left of this group is another group around the nested ones, but bare it is the same.
    have around :
        (left ++ [(retain keep ⟨name, validUntil, cacheDuration, entities, groups⟩ state).1]).map bare =
          (outer ++ [Group.mk name validUntil cacheDuration entities groups]).map bare := by
      rw [List.map_append, List.map_append, same, List.map_singleton, List.map_singleton, bare_retain]
    rw [retain_mk] at around ⊢
    have inner := nested around (retainEntities keep entities state).2
    rw [occurrencesUnder, occurrencesUnder, keep.retained_append, keep.retained_together,
      List.map_append, List.map_append, inner.1, inner.2]
    refine ⟨?_, rfl⟩
    congr 1
    simp only [List.map_map, Function.comp_def, Occurrence.bare, around]
  | nil => exact ⟨rfl, rfl⟩
  | cons first rest here later =>
    rename_i outer left same state
    have others := later same (first.retain keep state).2
    rw [retainAll_cons, occurrencesAll, occurrencesAll, keep.retained_append, List.map_append,
      List.map_append, (here same state).1, others.1, others.2, (here same state).2]
    exact ⟨rfl, rfl⟩

end Group

namespace Document

variable (document : Document) (state : σ)

theorem occurrences_retain :
    (document.retain keep state).1.occurrences.map (·.bare) =
        (keep.retained document.occurrences state).1.map (·.bare) ∧
      (document.retain keep state).2 = (keep.retained document.occurrences state).2 := by
  cases document with
  | entity e =>
    have left := keep.retained_together [e] [] state
    rw [List.map_singleton] at left
    rw [occurrences, left]
    simp only [retain, retainEntities]
    cases keep e state with
    | mk kept after => cases kept <;> exact ⟨rfl, rfl⟩
  | group g => exact g.occurrencesUnder_retain keep rfl state

theorem flatten_retain :
    (document.retain keep state).1.flatten =
      (keep.retained document.occurrences state).1.map (·.flattened) := by
  have bare : ∀ occurrences : List Occurrence,
      (occurrences.map (·.bare)).map (·.flattened) = occurrences.map (·.flattened) := by
    intro occurrences
    simp only [List.map_map, Function.comp_def, Occurrence.bare_flattened]
  rw [flatten_eq, ← bare, (document.occurrences_retain keep state).1, bare]

/-- The choice is asked for each entity once, in the order of flattening, with the state that the
    answer before left. The entities that it keeps, as it returns them, are what is listed afterwards:
    each stands among the groups that it stood in, and ends where it or one of these declares first. The
    groups of a document are otherwise what and where they were. -/
theorem retains_in_place :
    let entities := document.flatten.map (·.entity)
    let answered := keep.answers entities state
    let kept := Occurrence.kept document.occurrences answered.1
    let retained := document.retain keep state
    document.occurrences.map (·.flattened) = document.flatten ∧
    retained.2 = answered.2 ∧
    (∀ seen, (document.retain keep.recording (state, seen)).2 = (answered.2, seen ++ entities)) ∧
    kept.map (·.entity) = answered.1.filterMap id ∧
    retained.1.flatten = kept.map (·.flattened) ∧
    (∀ occurrence ∈ kept, occurrence.EndsAt occurrence.flattened.effectiveValidUntil) ∧
    retained.1.entityCount = kept.length ∧
    retained.1.occurrences.map (·.bare) = kept.map (·.bare) ∧
    ∀ group, document = .group group →
      ∃ rest, retained.1 = .group rest ∧ rest.bare = group.bare := by
  intro entities answered kept retained
  have listed : document.occurrences.map (·.entity) = entities := by
    change _ = document.flatten.map (·.entity)
    rw [flatten_eq, List.map_map]
    rfl
  have left : keep.retained document.occurrences state = (kept, answered.2) := by
    unfold Keep.retained
    rw [listed]
  have flat := document.flatten_retain keep state
  have places := (document.occurrences_retain keep state).1
  rw [left] at flat places
  refine ⟨document.flatten_eq.symm, ?_, ?_, ?_, flat, fun occurrence _ => occurrence.endsAt_flattened,
    ?_, places, ?_⟩
  · exact (document.occurrences_retain keep state).2.trans (congrArg Prod.snd left)
  · intro seen
    have asked := (document.occurrences_retain keep.recording (state, seen)).2
    rw [asked, Keep.retained, listed, keep.answers_recording]
  · apply Occurrence.kept_entities
    have length := congrArg List.length listed
    rw [List.length_map] at length
    exact (keep.answers_length entities state).trans length.symm
  · have count := congrArg List.length flat
    rwa [flatten_length, List.length_map] at count
  · intro group same
    subst same
    exact ⟨_, rfl, group.bare_retain keep state⟩

/-- A choice that counts leaves out the second of three entities and renames the others. -/
theorem retains_in_place_counting :
    let sooner : Instant := ⟨1, 0, by decide, by decide, by decide⟩
    let later : Instant := ⟨2, 0, by decide, by decide, by decide⟩
    let entity (id : String) : Entity := ⟨id, none, none, [], none⟩
    let renamed (id : String) : Entity := { entity id with organization := some "kept" }
    let inner : Group := ⟨some "inner", some sooner, none, [entity "b", entity "c"], []⟩
    let outer : Group := ⟨some "outer", some later, none, [entity "a"], [inner]⟩
    let choose : Keep Nat := fun entity count =>
      (if count = 1 then none else some { entity with organization := some "kept" }, count + 1)
    let retained := (Document.group outer).retain choose 0
    retained.1.flatten = [⟨renamed "a", some later⟩, ⟨renamed "c", some sooner⟩] ∧ retained.2 = 3 ∧
      ((Document.group outer).retain choose.recording (0, [])).2 =
        (3, [entity "a", entity "b", entity "c"]) ∧
      ∃ rest, retained.1 = .group rest ∧ rest.bare = outer.bare := by
  intro sooner later entity renamed inner outer choose retained
  obtain ⟨_, last, asked, _, flat, _, _, _, shells⟩ := (Document.group outer).retains_in_place choose 0
  exact ⟨flat, last, asked [], shells outer rfl⟩

end Document

end

end Federation
