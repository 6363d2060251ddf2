import Mathlib.Data.List.Basic
import Federation.Proofs.Document.Occurrences

namespace Federation

/-- The numbers of the nested groups to go into, from the outermost, and the number of the entity in
    the last of them. -/
structure Position where
  groups : List Nat
  entity : Nat
deriving DecidableEq, Repr

namespace Position

def inside (number : Nat) (position : Position) : Position :=
  { position with groups := number :: position.groups }

/-- The entities of a group come before those of its nested groups. -/
inductive Before : Position → Position → Prop where
  | entities {left right : Nat} (less : left < right) : Before ⟨[], left⟩ ⟨[], right⟩
  | nested (left : Nat) (right : Position) (number : Nat) : Before ⟨[], left⟩ (right.inside number)
  | groups {first second : Nat} (less : first < second) (left right : Position) :
    Before (left.inside first) (right.inside second)
  | inside {left right : Position} (number : Nat) (before : Before left right) :
    Before (left.inside number) (right.inside number)

theorem Before.ne {left right : Position} (before : left.Before right) : left ≠ right := by
  induction before with
  | entities less =>
    intro same
    cases same
    exact Nat.lt_irrefl _ less
  | nested left right number => exact nofun
  | groups less left right =>
    intro same
    cases List.head_eq_of_cons_eq (congrArg Position.groups same)
    exact Nat.lt_irrefl _ less
  | @inside left right number before apart =>
    intro same
    apply apart
    have groups := List.tail_eq_of_cons_eq (congrArg Position.groups same)
    have entity : left.entity = right.entity := congrArg (·.entity) same
    cases left
    cases right
    simp_all

end Position

namespace Occurrence

def within (group : Group) (occurrence : Occurrence) : Occurrence :=
  { occurrence with groups := group :: occurrence.groups }

def under (outer : List Group) (occurrence : Occurrence) : Occurrence :=
  { occurrence with groups := outer ++ occurrence.groups }

end Occurrence

namespace Group

def at? (group : Group) : List Nat → Nat → Option Occurrence
  | [], entity => group.entities[entity]?.map (⟨·, [group]⟩)
  | number :: path, entity =>
    (group.groups[number]?.bind (·.at? path entity)).map (·.within group)

mutual

def positions : Group → List Position
  | ⟨_, _, _, entities, groups⟩ =>
    (List.range entities.length).map (⟨[], ·⟩) ++ positionsFrom 0 groups

def positionsFrom (number : Nat) : List Group → List Position
  | [] => []
  | group :: groups => group.positions.map (·.inside number) ++ positionsFrom (number + 1) groups

end

theorem positionsFrom_eq (number : Nat) (groups : List Group) :
    positionsFrom number groups =
      (groups.zipIdx number).flatMap fun nested => nested.1.positions.map (·.inside nested.2) := by
  induction groups generalizing number with
  | nil => rfl
  | cons first rest ih => rw [positionsFrom, ih, List.zipIdx_cons, List.flatMap_cons]

theorem occurrencesAll_eq (outer : List Group) (groups : List Group) (number : Nat) :
    occurrencesAll outer groups =
      (groups.zipIdx number).flatMap fun nested => nested.1.occurrencesUnder outer := by
  induction groups generalizing number with
  | nil => rfl
  | cons first rest ih => rw [occurrencesAll, ih (number + 1), List.zipIdx_cons, List.flatMap_cons]

theorem positions_pairwise (group : Group) : group.positions.Pairwise Position.Before := by
  induction group using Group.induction with
  | step group ih =>
    obtain ⟨name, validUntil, cacheDuration, entities, groups⟩ := group
    rw [positions, positionsFrom_eq, List.pairwise_append]
    refine ⟨?_, ?_, ?_⟩
    · rw [List.pairwise_map]
      exact List.pairwise_lt_range.imp fun less => .entities less
    · rw [List.pairwise_flatMap]
      refine ⟨?_, ?_⟩
      · intro nested member
        rw [List.pairwise_map]
        exact (ih nested.1 (List.fst_mem_of_mem_zipIdx member)).imp fun before => before.inside _
      · have ascending : ((groups.zipIdx 0).map Prod.snd).Pairwise (· < ·) := by
          rw [List.zipIdx_map_snd]
          exact List.pairwise_lt_range' 1
        refine (List.pairwise_map.mp ascending).imp ?_
        intro first second less left leftMember right rightMember
        obtain ⟨left, _, rfl⟩ := List.mem_map.mp leftMember
        obtain ⟨right, _, rfl⟩ := List.mem_map.mp rightMember
        exact .groups less left right
    · intro left leftMember right rightMember
      obtain ⟨entity, _, rfl⟩ := List.mem_map.mp leftMember
      obtain ⟨nested, _, inner⟩ := List.mem_flatMap.mp rightMember
      obtain ⟨right, _, rfl⟩ := List.mem_map.mp inner
      exact .nested entity right nested.2

theorem at?_inside {group nested : Group} {number : Nat} (present : group.groups[number]? = some nested)
    (position : Position) :
    group.at? (position.inside number).groups (position.inside number).entity =
      (nested.at? position.groups position.entity).map (·.within group) := by
  simp only [Position.inside, at?, present, Option.bind_some]

/-- Along its positions, the entities of a group stand where they occur in it. -/
theorem map_at?_positions (group : Group) (outer : List Group) :
    group.positions.map (fun position =>
        (group.at? position.groups position.entity).map (·.under outer)) =
      (group.occurrencesUnder outer).map some := by
  induction group using Group.induction generalizing outer with
  | step group ih =>
    obtain ⟨name, validUntil, cacheDuration, entities, groups⟩ := group
    rw [positions, positionsFrom_eq, occurrencesUnder, occurrencesAll_eq _ _ 0, List.map_append,
      List.map_append]
    congr 1
    · apply List.ext_getElem
      · simp
      · intro number _ _
        simp [at?, Occurrence.under]
    · rw [List.map_flatMap, List.map_flatMap]
      apply List.flatMap_congr
      intro nested member
      have present := List.mem_zipIdx_iff_getElem?.mp member
      have inner := ih nested.1 (List.fst_mem_of_mem_zipIdx member)
        (outer ++ [⟨name, validUntil, cacheDuration, entities, groups⟩])
      rw [← inner, List.map_map]
      apply List.map_congr_left
      intro position _
      rw [Function.comp_apply, at?_inside present, Option.map_map]
      congr 1
      funext occurrence
      simp [Occurrence.under, Occurrence.within]

theorem mem_positions_of_at? {group : Group} {position : Position}
    (stands : (group.at? position.groups position.entity).isSome = true) :
    position ∈ group.positions := by
  induction group using Group.induction generalizing position with
  | step group ih =>
    obtain ⟨name, validUntil, cacheDuration, entities, groups⟩ := group
    obtain ⟨path, entity⟩ := position
    rw [positions, positionsFrom_eq, List.mem_append]
    cases path with
    | nil =>
      left
      have less : entity < entities.length := by simpa [at?] using stands
      exact List.mem_map.mpr ⟨entity, List.mem_range.mpr less, rfl⟩
    | cons number path =>
      right
      cases present : groups[number]? with
      | none => simp [at?, present] at stands
      | some nested =>
        simp only [at?, present, Option.bind_some, Option.isSome_map] at stands
        have inner : (⟨path, entity⟩ : Position) ∈ nested.positions :=
          ih nested (List.mem_of_getElem? present) stands
        exact List.mem_flatMap.mpr ⟨(nested, number), List.mem_zipIdx_iff_getElem?.mpr present,
          List.mem_map.mpr ⟨_, inner, rfl⟩⟩

def amend (change : Group → Group) : List Nat → Group → Group
  | [], group => change group
  | number :: path, group => { group with groups := group.groups.modify number (amend change path) }

end Group

namespace Occurrence

def declarations (occurrence : Occurrence) : Entity × List (Option Instant) :=
  (occurrence.entity, occurrence.groups.map (·.validUntil))

theorem map_declarations_within (group : Group) (found : Option Occurrence) :
    (found.map (·.within group)).map declarations =
      (found.map declarations).map fun inner => (inner.1, group.validUntil :: inner.2) := by
  rw [Option.map_map, Option.map_map]
  rfl

theorem flattened_of_declarations {found other : Option Occurrence}
    (same : found.map declarations = other.map declarations) :
    found.map (·.flattened) = other.map (·.flattened) := by
  have read : ∀ occurrence : Occurrence, occurrence.flattened =
      occurrence.declarations.1.flattenUnder
        (occurrence.declarations.2.foldl Instant.earliest none) := by
    intro occurrence
    rw [flattened, declarations, List.foldl_map]
    rfl
  simp only [read]
  have mapped := congrArg (Option.map fun inner : Entity × List (Option Instant) =>
    inner.1.flattenUnder (inner.2.foldl Instant.earliest none)) same
  rwa [Option.map_map, Option.map_map] at mapped

end Occurrence

/-- A change inside one group does not reach what stands outside it. -/
theorem Group.at?_amend (change : Group → Group) {path around : List Nat} (apart : ¬ path <+: around)
    (group : Group) (entity : Nat) :
    ((group.amend change path).at? around entity).map (·.declarations) =
      (group.at? around entity).map (·.declarations) := by
  induction path generalizing group around with
  | nil => exact absurd List.nil_prefix apart
  | cons number path ih =>
    cases around with
    | nil =>
      simp only [amend, at?, Option.map_map]
      rfl
    | cons other around =>
      simp only [amend, at?, List.getElem?_modify, Occurrence.map_declarations_within]
      congr 1
      cases group.groups[other]? with
      | none => rfl
      | some nested =>
        by_cases same : number = other
        · have inner : ¬ path <+: around := fun reaches =>
            apart (List.cons_prefix_cons.mpr ⟨same, reaches⟩)
          simpa [same] using ih inner nested
        · simp [same]

namespace Document

def at? : Document → Position → Option Occurrence
  | entity e, position => if position = ⟨[], 0⟩ then some ⟨e, []⟩ else none
  | group g, position => g.at? position.groups position.entity

def positions : Document → List Position
  | entity _ => [⟨[], 0⟩]
  | group g => g.positions

def amend (change : Group → Group) (path : List Nat) : Document → Document
  | entity e => entity e
  | group g => group (g.amend change path)

theorem positions_pairwise (document : Document) : document.positions.Pairwise Position.Before := by
  cases document with
  | entity e => exact List.pairwise_singleton _ _
  | group g => exact g.positions_pairwise

theorem map_at?_positions (document : Document) :
    document.positions.map document.at? = document.occurrences.map some := by
  cases document with
  | entity e => rfl
  | group g =>
    have read := g.map_at?_positions []
    have same : ∀ found : Option Occurrence, found.map (·.under []) = found :=
      fun _ => Option.map_id_apply
    simp only [same] at read
    exact read

theorem mem_positions_iff (document : Document) (position : Position) :
    position ∈ document.positions ↔ (document.at? position).isSome = true := by
  constructor
  · intro member
    have read : document.at? position ∈ document.occurrences.map some := by
      rw [← document.map_at?_positions]
      exact List.mem_map_of_mem member
    obtain ⟨occurrence, _, stands⟩ := List.mem_map.mp read
    rw [← stands]
    rfl
  · intro stands
    cases document with
    | entity e =>
      by_cases top : position = ⟨[], 0⟩
      · exact List.mem_singleton.mpr top
      · simp [at?, top] at stands
    | group g => exact Group.mem_positions_of_at? stands

theorem flatten_positions (document : Document) :
    document.flatten.map some =
      document.positions.map fun position => (document.at? position).map (·.flattened) := by
  have read := congrArg (List.map (Option.map Occurrence.flattened)) document.map_at?_positions
  rw [List.map_map, List.map_map] at read
  rw [document.flatten_eq, List.map_map]
  exact read.symm

theorem at?_amend (document : Document) (change : Group → Group) {path : List Nat} {position : Position}
    (apart : ¬ path <+: position.groups) :
    ((document.amend change path).at? position).map (·.flattened) =
      (document.at? position).map (·.flattened) := by
  cases document with
  | entity e => rfl
  | group g =>
    exact Occurrence.flattened_of_declarations (Group.at?_amend change apart g position.entity)

/-- Flattening goes through the positions of a document in ascending order, each once, and through every
    position where an entity stands; so it lists as many entities as there are. What stands at a
    position is listed as valid exactly before every end that it or a group on the way to it declares,
    whatever is changed in other groups. -/
theorem flattens_by_position (document : Document) :
    document.positions.Pairwise Position.Before ∧ document.positions.Nodup ∧
    (∀ position, position ∈ document.positions ↔ (document.at? position).isSome = true) ∧
    document.flatten.map some =
      document.positions.map (fun position => (document.at? position).map (·.flattened)) ∧
    document.flatten.length = document.entityCount ∧
    (∀ position occurrence, document.at? position = some occurrence →
      occurrence.flattened.entity = occurrence.entity ∧
      ∀ now, occurrence.flattened.isValidAt now = true ↔
        ∀ bound, occurrence.Declares bound → now < bound) ∧
    ∀ change path position, ¬ path <+: position.groups →
      ((document.amend change path).at? position).map (·.flattened) =
        (document.at? position).map (·.flattened) := by
  have ascending := document.positions_pairwise
  refine ⟨ascending, ascending.imp Position.Before.ne, document.mem_positions_iff,
    document.flatten_positions, document.flatten_length, ?_,
    fun change path position apart => document.at?_amend change apart⟩
  intro position occurrence _
  refine ⟨rfl, ?_⟩
  intro now
  rw [occurrence.flattened_isValidAt, Bool.not_eq_true', Occurrence.hasEnded_eq_false_iff]

/-- Beside a group that ends, an entity in another group lasts until its own end, and also when the
    other group ends sooner. -/
theorem flattens_by_position_beside :
    let sooner : Instant := ⟨1, 0, by decide, by decide, by decide⟩
    let later : Instant := ⟨2, 0, by decide, by decide, by decide⟩
    let first : Group := ⟨none, some sooner, none, [⟨"a", none, none, [], none⟩], []⟩
    let second : Group := ⟨none, none, none, [⟨"b", some later, none, [], none⟩], []⟩
    let document := Document.group ⟨none, none, none, [], [first, second]⟩
    let ended := document.amend (fun group => { group with validUntil := some .epoch }) [0]
    document.positions = [⟨[0], 0⟩, ⟨[1], 0⟩] ∧
      (document.at? ⟨[1], 0⟩).map (·.flattened.isValidAt sooner) = some true ∧
      ¬ [0] <+: [1] ∧
      (ended.at? ⟨[0], 0⟩).map (·.flattened.isValidAt .epoch) = some false ∧
      (ended.at? ⟨[1], 0⟩).map (·.flattened) = (document.at? ⟨[1], 0⟩).map (·.flattened) := by
  intro sooner later first second document ended
  obtain ⟨_, _, _, _, _, valid, apart⟩ := document.flattens_by_position
  refine ⟨by decide, ?_, by decide, by decide, apart _ [0] ⟨[1], 0⟩ (by decide)⟩
  let occurrence : Occurrence :=
    ⟨⟨"b", some later, none, [], none⟩, [⟨none, none, none, [], [first, second]⟩, second]⟩
  have stands : document.at? ⟨[1], 0⟩ = some occurrence := rfl
  have lasts := ((valid ⟨[1], 0⟩ occurrence stands).2 sooner).mpr
  rw [stands, Option.map_some, lasts]
  intro bound declares
  rcases declares with own | ⟨group, around, declared⟩
  · rw [← Option.some.inj own]
    decide
  · have unbounded : ∀ group ∈ occurrence.groups, group.validUntil = none := by
      intro group member
      rcases List.mem_cons.mp member with rfl | member
      · rfl
      · rw [List.mem_singleton.mp member]
    rw [unbounded group around] at declared
    cases declared

end Document

end Federation
