import Federation.Proofs.Document.Retaining
import Federation.Proofs.Time.Leap

namespace Federation

open Instant

inductive Group.Declares : Group → Option Instant → Option Duration → Prop where
  | own (group : Group) : Declares group group.validUntil group.cacheDuration
  | entity {group : Group} {entity : Entity} (member : entity ∈ group.entities) :
      Declares group entity.validUntil entity.cacheDuration
  | nested {group inner : Group} {validUntil : Option Instant} {cacheDuration : Option Duration}
      (member : inner ∈ group.groups) (inside : Declares inner validUntil cacheDuration) :
      Declares group validUntil cacheDuration

def Document.Declares : Document → Option Instant → Option Duration → Prop
  | .entity e, validUntil, cacheDuration => validUntil = e.validUntil ∧ cacheDuration = e.cacheDuration
  | .group g, validUntil, cacheDuration => g.Declares validUntil cacheDuration

/-- What is declared ends at the hint: it is the end of validity, or that of the time to be cached. -/
def EndsWith (now : Instant) (validUntil : Option Instant) (cacheDuration : Option Duration)
    (hint : Instant) : Prop :=
  validUntil = some hint ∨ ∃ step, cacheDuration = some step ∧ now.after? step = some hint

def Document.Hints (document : Document) (now hint : Instant) : Prop :=
  ∃ validUntil cacheDuration,
    document.Declares validUntil cacheDuration ∧ EndsWith now validUntil cacheDuration hint

section

variable {now earlier later hint : Instant}

theorem expiration_firstOf (now : Instant) (validUntil : Option Instant) (cacheDuration : Option Duration) :
    FirstOf (EndsWith now validUntil cacheDuration) (expiration now validUntil cacheDuration) := by
  refine ((firstOf_self validUntil).earliest (firstOf_self _)).of_iff fun hint => ?_
  rw [EndsWith, Option.bind_eq_some_iff]

theorem EndsWith.sooner (ordered : earlier ≤ later) {validUntil : Option Instant}
    {cacheDuration : Option Duration}
    (apart : ∀ step, cacheDuration = some step → ¬ earlier.LeapsPast later step)
    (ends : EndsWith later validUntil cacheDuration hint) :
    ∃ first, EndsWith earlier validUntil cacheDuration first ∧ first ≤ hint := by
  rcases ends with declared | ⟨step, cached, reached⟩
  · exact ⟨hint, .inl declared, Int.le_refl _⟩
  · have noLater := (noLater_after?_iff ordered step).mpr fun leaps => apart step cached leaps.1
    obtain ⟨first, sooner, le⟩ := noLater hint reached
    exact ⟨first, .inr ⟨step, cached, sooner⟩, le⟩

namespace Document

theorem hints_entity_iff (e : Entity) :
    (entity e).Hints now hint ↔ EndsWith now e.validUntil e.cacheDuration hint := by
  constructor
  · rintro ⟨_, _, ⟨rfl, rfl⟩, ends⟩
    exact ends
  · exact fun ends => ⟨_, _, ⟨rfl, rfl⟩, ends⟩

theorem hints_group_iff (g : Group) : (group g).Hints now hint ↔
    (EndsWith now g.validUntil g.cacheDuration hint ∨
      ∃ e ∈ g.entities, EndsWith now e.validUntil e.cacheDuration hint) ∨
    ∃ inner ∈ g.groups, (group inner).Hints now hint := by
  constructor
  · rintro ⟨validUntil, cacheDuration, declares, ends⟩
    cases declares with
    | own => exact .inl (.inl ends)
    | entity member => exact .inl (.inr ⟨_, member, ends⟩)
    | nested member inside => exact .inr ⟨_, member, _, _, inside, ends⟩
  · rintro ((ends | ⟨e, member, ends⟩) | ⟨inner, member, _, _, inside, ends⟩)
    · exact ⟨_, _, .own g, ends⟩
    · exact ⟨_, _, .entity member, ends⟩
    · exact ⟨_, _, .nested member inside, ends⟩

end Document

theorem Group.earliestOf_eq (now : Instant) (found : Option Instant) (groups : List Group) :
    earliestOf now found groups =
      groups.foldl (fun found group => earliest found (group.earliestExpiration now)) found := by
  induction groups generalizing found with
  | nil => rw [earliestOf]; rfl
  | cons group rest ih => rw [earliestOf, ih, List.foldl_cons]

theorem Group.earliestExpiration_firstOf (now : Instant) (group : Group) :
    FirstOf ((Document.group group).Hints now) (group.earliestExpiration now) := by
  induction group using Group.induction with
  | step group nested =>
    have own := expiration_firstOf now group.validUntil group.cacheDuration
    have entities := own.foldl fun entity (_ : entity ∈ group.entities) =>
      expiration_firstOf now entity.validUntil entity.cacheDuration
    have all := (entities.foldl nested).of_iff fun hint => (Document.hints_group_iff group).symm
    cases group
    rw [earliestExpiration, earliestOf_eq]
    exact all

theorem Document.earliestExpiration_firstOf (now : Instant) (document : Document) :
    FirstOf (document.Hints now) (document.earliestExpiration now) := by
  cases document with
  | group g => exact g.earliestExpiration_firstOf now
  | entity e =>
    exact (expiration_firstOf now e.validUntil e.cacheDuration).of_iff fun _ => (hints_entity_iff e).symm

theorem Group.mem_occurrencesAll {outer groups : List Group} {occurrence : Occurrence} :
    occurrence ∈ occurrencesAll outer groups ↔
      ∃ inner ∈ groups, occurrence ∈ inner.occurrencesUnder outer := by
  induction groups with
  | nil => simp [occurrencesAll]
  | cons first rest ih => simp [occurrencesAll, ih]

/-- An occurrence in a group consists of an entity in it, and of groups that are in it or around it. -/
theorem Group.declares_of_occurrence {group : Group} {outer : List Group} {occurrence : Occurrence}
    (member : occurrence ∈ group.occurrencesUnder outer) :
    group.Declares occurrence.entity.validUntil occurrence.entity.cacheDuration ∧
      ∀ around ∈ occurrence.groups,
        around ∈ outer ∨ group.Declares around.validUntil around.cacheDuration := by
  induction group using Group.induction generalizing outer with
  | step group nested =>
    have here : ∀ around ∈ outer ++ [group],
        around ∈ outer ∨ group.Declares around.validUntil around.cacheDuration := by
      intro around among
      rcases List.mem_append.mp among with outside | own
      · exact .inl outside
      · rw [List.mem_singleton.mp own]
        exact .inr (.own group)
    cases group
    rw [occurrencesUnder] at member
    rcases List.mem_append.mp member with own | inside
    · obtain ⟨entity, present, rfl⟩ := List.mem_map.mp own
      exact ⟨.entity present, here⟩
    · obtain ⟨inner, present, within⟩ := mem_occurrencesAll.mp inside
      obtain ⟨entity, among⟩ := nested inner present within
      refine ⟨.nested present entity, fun around member => ?_⟩
      rcases among around member with outside | deeper
      · exact here around outside
      · exact .inr (.nested present deeper)

theorem Document.hints_of_declares {document : Document} {occurrence : Occurrence}
    (member : occurrence ∈ document.occurrences) (declares : occurrence.Declares hint) :
    document.Hints now hint := by
  cases document with
  | entity e =>
    obtain rfl := List.mem_singleton.mp member
    rcases declares with own | ⟨around, among, _⟩
    · exact (hints_entity_iff e).mpr (.inl own)
    · cases among
  | group g =>
    obtain ⟨entity, among⟩ := Group.declares_of_occurrence member
    rcases declares with own | ⟨around, within, declared⟩
    · exact ⟨_, _, entity, .inl own⟩
    · rcases among around within with outside | inside
      · cases outside
      · exact ⟨_, _, inside, .inl declared⟩

end

section

variable {σ : Type} {keep : Keep σ}

theorem Group.exists_of_mem_retainAll {groups : List Group} {state : σ} {left : Group}
    (member : left ∈ (retainAll keep groups state).1) :
    ∃ group ∈ groups, ∃ before, left = (group.retain keep before).1 := by
  induction groups generalizing state with
  | nil => cases member
  | cons first rest ih =>
    rw [retainAll_cons] at member
    rcases List.mem_cons.mp member with rfl | later
    · exact ⟨first, List.mem_cons_self, state, rfl⟩
    · obtain ⟨group, present, found⟩ := ih later
      exact ⟨group, List.mem_cons_of_mem first present, found⟩

def Keep.ChangesNone (keep : Keep σ) : Prop :=
  ∀ entity state kept, (keep entity state).1 = some kept → kept = entity

variable (drops : keep.ChangesNone)

include drops

theorem mem_of_mem_retainEntities {entities : List Entity} {state : σ} {entity : Entity}
    (member : entity ∈ (retainEntities keep entities state).1) : entity ∈ entities := by
  induction entities generalizing state with
  | nil => exact member
  | cons first rest ih =>
    rw [retainEntities] at member
    rcases List.mem_append.mp member with here | later
    · rw [drops first state entity (Option.mem_toList.mp here)]
      exact List.mem_cons_self
    · exact List.mem_cons_of_mem first (ih later)

theorem Group.declares_of_retain {group : Group} {state : σ} {validUntil : Option Instant}
    {cacheDuration : Option Duration}
    (declares : (group.retain keep state).1.Declares validUntil cacheDuration) :
    group.Declares validUntil cacheDuration := by
  induction group using Group.induction generalizing state with
  | step group nested =>
    cases group
    rw [retain_mk] at declares
    cases declares with
    | own => exact .own _
    | entity member => exact .entity (mem_of_mem_retainEntities drops member)
    | nested member inside =>
      obtain ⟨inner, present, before, rfl⟩ := exists_of_mem_retainAll member
      exact .nested present (nested inner present inside)

theorem Document.hints_of_retain {document : Document} {state : σ} {now hint : Instant}
    (hints : (document.retain keep state).1.Hints now hint) : document.Hints now hint := by
  cases document with
  | group g =>
    obtain ⟨validUntil, cacheDuration, declares, ends⟩ := hints
    exact ⟨validUntil, cacheDuration, Group.declares_of_retain drops declares, ends⟩
  | entity e =>
    cases answer : keep e state with
    | mk kept after =>
      rw [retain, answer] at hints
      cases kept with
      | some kept =>
        rwa [drops e state kept (congrArg Prod.fst answer)] at hints
      | none =>
        have inside := (hints_group_iff .empty).mp hints
        simp [Group.empty, EndsWith] at inside

end

namespace Document

/-- What the document expires at is the first of the ends of validity in it and of the ends of the times
    that its parts may be cached, as far as these are instants. So it comes no later than the end of any
    entity, and leaving entities out does not bring it forward. Reading the document later does not either,
    but into a leap second: a time to be cached that begins inside one does not count it. -/
theorem expires_first (document : Document) (now : Instant) :
    (∀ first, document.earliestExpiration now = first ↔ FirstOf (document.Hints now) first) ∧
    (∀ step, (now.after? step).isSome = true ↔
      now.seconds * 1_000_000_000 + (now.nanoseconds % 1_000_000_000 : Nat) + step.nanoseconds ≤
        lastNanosecond) ∧
    (now.IsPlain → ∀ step due, now.after? step = some due ↔
      due.IsPlain ∧ due.sinceEpoch = now.sinceEpoch + step.nanoseconds) ∧
    (∀ flat ∈ document.flatten, NoLater (document.earliestExpiration now) flat.effectiveValidUntil) ∧
    (∀ later, now ≤ later →
      (∀ validUntil step, document.Declares validUntil (some step) → ¬ now.LeapsPast later step) →
        NoLater (document.earliestExpiration now) (document.earliestExpiration later)) ∧
    ∀ (σ : Type) (keep : Keep σ) (state : σ), keep.ChangesNone →
      NoLater (document.earliestExpiration now)
        ((document.retain keep state).1.earliestExpiration now) := by
  have here := document.earliestExpiration_firstOf now
  refine ⟨fun first => ⟨?_, here.unique⟩, now.reaches_iff, fun plain _ _ => after?_eq_some_iff plain,
    ?_, ?_, ?_⟩
  · rintro rfl
    exact here
  · intro flat member
    rw [flatten_eq] at member
    obtain ⟨occurrence, present, rfl⟩ := List.mem_map.mp member
    exact here.noLater occurrence.flattened_firstOf fun bound declares =>
      ⟨bound, hints_of_declares present declares, Int.le_refl _⟩
  · intro later ordered apart
    refine here.noLater (document.earliestExpiration_firstOf later) fun hint hints => ?_
    obtain ⟨validUntil, cacheDuration, declares, ends⟩ := hints
    have whole : ∀ step, cacheDuration = some step → ¬ now.LeapsPast later step := by
      rintro step rfl
      exact apart validUntil step declares
    obtain ⟨first, sooner, le⟩ := ends.sooner ordered whole
    exact ⟨first, ⟨validUntil, cacheDuration, declares, sooner⟩, le⟩
  · intro σ keep state drops
    exact here.noLater ((document.retain keep state).1.earliestExpiration_firstOf now) fun hint hints =>
      ⟨hint, hints_of_retain drops hints, Int.le_refl _⟩

/-- Of two entities that may be cached for one second and for two, the first is left out. -/
theorem expires_first_left_out :
    let now : Instant := ⟨0, 900_000_000, by decide, by decide, by decide⟩
    let later : Instant := ⟨1, 0, by decide, by decide, by decide⟩
    let cached (id : String) (seconds : UInt64) : Entity := ⟨id, none, some (.ofSeconds seconds), [], none⟩
    let inner : Group := ⟨none, some ⟨9, 0, by decide, by decide, by decide⟩, none, [cached "b" 2], []⟩
    let document := Document.group ⟨none, none, none, [cached "a" 1], [inner]⟩
    let keep : Keep Nat := fun entity count => (if count = 0 then none else some entity, count + 1)
    let retained := (document.retain keep 0).1
    (document.earliestExpiration now).map (·.seconds) = some 1 ∧
      (document.earliestExpiration later).map (·.seconds) = some 2 ∧
      (retained.earliestExpiration now).map (·.seconds) = some 2 ∧
      FirstOf (document.Hints now) (document.earliestExpiration now) ∧
      NoLater (document.earliestExpiration now) (document.earliestExpiration later) ∧
      NoLater (document.earliestExpiration now) (retained.earliestExpiration now) := by
  intro now later cached inner document keep retained
  obtain ⟨exact, _, _, _, grows, drops⟩ := document.expires_first now
  have plain : later.IsPlain := by decide
  refine ⟨by decide, by decide, by decide, (exact _).mp rfl, ?_, ?_⟩
  · exact grows later (by decide) fun _ _ _ leaps => leaps.2.1 plain
  · apply drops Nat keep 0
    intro entity count kept same
    by_cases first : count = 0
    · simp [keep, first] at same
    · simpa [keep, first, eq_comm] using same

/-- Read within the leap second that ended 2016, a document that may be cached for a second expires sooner
    than when it is read a tenth of a second earlier. -/
theorem expires_sooner_in_leap :
    let now : Instant := ⟨1483228799, 900_000_000, by decide, by decide, by decide⟩
    let later : Instant := ⟨1483228799, 1_000_000_000, by decide, by decide, by decide⟩
    let document := Document.entity ⟨"a", none, some (.ofSeconds 1), [], none⟩
    now ≤ later ∧
      document.earliestExpiration now =
        some ⟨1483228800, 900_000_000, by decide, by decide, by decide⟩ ∧
      document.earliestExpiration later = some ⟨1483228800, 0, by decide, by decide, by decide⟩ ∧
      ¬ NoLater (document.earliestExpiration now) (document.earliestExpiration later) := by
  intro now later document
  have expires : document.earliestExpiration now =
      some ⟨1483228800, 900_000_000, by decide, by decide, by decide⟩ := by decide
  have sooner : document.earliestExpiration later =
      some ⟨1483228800, 0, by decide, by decide, by decide⟩ := by decide
  refine ⟨by decide, expires, sooner, fun noLater => ?_⟩
  obtain ⟨first, same, le⟩ := noLater _ sooner
  cases expires.symm.trans same
  exact absurd le (by decide)

end Document

end Federation
