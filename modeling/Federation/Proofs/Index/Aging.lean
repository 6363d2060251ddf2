import Mathlib.Data.List.Basic
import Federation.Proofs.Cycle.Ending
import Federation.Proofs.Index.Search

namespace Federation

theorem FlattenedEntity.isValidAt_antitone {earlier later : Instant} (ordered : earlier ≤ later)
    {flat : FlattenedEntity} (valid : flat.isValidAt later = true) : flat.isValidAt earlier = true := by
  unfold isValidAt isBefore at valid ⊢
  cases bound : flat.effectiveValidUntil with
  | none => rfl
  | some validUntil =>
    rw [bound] at valid
    have before : later < validUntil := by simpa using valid
    have sooner : earlier < validUntil := by
      rw [Instant.lt_def] at before ⊢
      rw [Instant.le_def] at ordered
      omega
    simpa using sooner

theorem filter_implied {before after : FlattenedEntity → Bool}
    (implied : ∀ flat, after flat = true → before flat = true) (flats : List FlattenedEntity) :
    (flats.filter before).filter after = flats.filter after := by
  rw [List.filter_filter]
  apply List.filter_congr
  intro flat _
  by_cases kept : after flat = true
  · rw [kept, implied flat kept]
    rfl
  · rw [Bool.eq_false_iff.mpr kept, Bool.false_and]

theorem mem_of_mem_firstOccurrences {flats : List FlattenedEntity} {flat : FlattenedEntity}
    (member : flat ∈ firstOccurrences flats) : flat ∈ flats := by
  induction flats using induction_without_first with
  | nil => cases member
  | cons first rest ih =>
    rw [firstOccurrences_cons] at member
    rcases List.mem_cons.mp member with rfl | later
    · exact List.mem_cons_self
    · exact List.mem_cons_of_mem _ (List.mem_filter.mp (ih later)).1

theorem firstOccurrences_filter_id (keep : String → Bool) (flats : List FlattenedEntity) :
    firstOccurrences (flats.filter (keep ·.id)) = (firstOccurrences flats).filter (keep ·.id) := by
  induction flats using induction_without_first with
  | nil => rfl
  | cons first rest ih =>
    rw [List.filter_comm] at ih
    rw [firstOccurrences_cons]
    by_cases kept : keep first.id = true
    · simp only [List.filter_cons, kept, if_true]
      rw [firstOccurrences_cons, ih]
    · have apart : (rest.filter (keep ·.id)).filter (fun other => !(other.id == first.id)) =
          rest.filter (keep ·.id) := by
        apply List.filter_eq_self.mpr
        intro other member
        have keeps := (List.mem_filter.mp member).2
        have differs : other.id ≠ first.id := fun same => kept (same ▸ keeps)
        simpa using differs
      simp only [List.filter_cons, kept]
      rw [if_neg Bool.false_ne_true, if_neg Bool.false_ne_true, ← ih, apart]

def Lasts (flats : List FlattenedEntity) (lasts : FlattenedEntity → Bool) (id : String) : Bool :=
  (findId flats id).all lasts

theorem lasts_cons_self (first : FlattenedEntity) (rest : List FlattenedEntity)
    (lasts : FlattenedEntity → Bool) : Lasts (first :: rest) lasts first.id = lasts first := by
  simp [Lasts, findId]

theorem lasts_cons_other {first : FlattenedEntity} {id : String} (differs : first.id ≠ id)
    (rest : List FlattenedEntity) (lasts : FlattenedEntity → Bool) :
    Lasts (first :: rest) lasts id =
      Lasts (rest.filter fun other => !(other.id == first.id)) lasts id := by
  unfold Lasts
  rw [findId_filter_other differs]
  simp [findId, differs]

/-- Of the first occurrences, those that last are the first occurrences of what lasts, less those
    whose identifier stood for something that does not. -/
theorem firstOccurrences_lasting (lasts : FlattenedEntity → Bool) (flats : List FlattenedEntity) :
    (firstOccurrences flats).filter lasts =
      (firstOccurrences (flats.filter lasts)).filter (Lasts flats lasts ·.id) := by
  induction flats using induction_without_first with
  | nil => rfl
  | cons first rest ih =>
    have others :
        (firstOccurrences ((rest.filter fun other => !(other.id == first.id)).filter lasts)).filter
            (Lasts (first :: rest) lasts ·.id) =
          (firstOccurrences (rest.filter fun other => !(other.id == first.id))).filter lasts := by
      rw [ih]
      apply List.filter_congr
      intro other member
      have kept := (List.mem_filter.mp (mem_of_mem_firstOccurrences member)).1
      have differs : first.id ≠ other.id := by
        have apart := (List.mem_filter.mp kept).2
        intro same
        simp [same] at apart
      exact lasts_cons_other differs rest lasts
    rw [firstOccurrences_cons]
    cases whether : lasts first with
    | true =>
      simp only [List.filter_cons, whether, if_true]
      rw [firstOccurrences_cons, List.filter_comm, List.filter_cons_of_pos (by
        rw [lasts_cons_self, whether]), others]
    | false =>
      simp only [List.filter_cons, whether]
      rw [if_neg Bool.false_ne_true, if_neg Bool.false_ne_true, ← others, List.filter_comm,
        firstOccurrences_filter_id (fun id => !(id == first.id)), List.filter_filter]
      apply List.filter_congr
      intro other _
      by_cases same : other.id = first.id
      · rw [same, lasts_cons_self, whether]
        rfl
      · simp [same]

namespace Index

def builtAt (flats : List FlattenedEntity) (now : Instant) : Index :=
  ofFlattened (flats.filter (·.isValidAt now)) true

theorem builtAt_represents (flats : List FlattenedEntity) (now : Instant) :
    (builtAt flats now).Represents (firstOccurrences (flats.filter (·.isValidAt now))) :=
  ofFlattened_represents _ _

theorem builtAt_enforcesValidity (flats : List FlattenedEntity) (now : Instant) :
    (builtAt flats now).enforcesValidity = true :=
  ofFlattened_enforcesValidity _ _

/-- An identifier that stood at an instant for an entity which has ended since. -/
def Vacated (flats : List FlattenedEntity) (built asked : Instant) (id : String) : Bool :=
  !Lasts (flats.filter (·.isValidAt built)) (·.isValidAt asked) id

theorem Represents.query_valid {index : Index} {flats : List FlattenedEntity}
    (represents : index.Represents flats) (enforces : index.enforcesValidity = true)
    (criteria : CriteriaSet) (now : Instant) :
    (index.query criteria now).toList =
      if criteria.isEmpty then []
      else ((flats.filter (·.isValidAt now)).filter (·.entity.meets criteria)).map (·.entity) := by
  rw [represents.query_toList, matching, represents.contents_eq, enforces, List.filter_filter]
  simp only [FlattenedEntity.isServed, Bool.not_true, Bool.false_or, Bool.and_comm]

/-- What lasts of an index, however often it was pruned, is what lasts of an index built anew, less
    the entities whose identifier is vacated. -/
theorem aged_lasting (flats : List FlattenedEntity) {built asked : Instant} (ordered : built ≤ asked)
    {times : List Instant} (before : ∀ time ∈ times, time ≤ asked) :
    ((firstOccurrences (flats.filter (·.isValidAt built))).filter
        fun flat => times.all (flat.isServed true ·)).filter (·.isValidAt asked) =
      (firstOccurrences (flats.filter (·.isValidAt asked))).filter
        (!Vacated flats built asked ·.id) := by
  have served : ∀ flat : FlattenedEntity, flat.isValidAt asked = true →
      (times.all fun time => flat.isServed true time) = true := by
    intro flat valid
    rw [List.all_eq_true]
    exact fun time member => FlattenedEntity.isValidAt_antitone (before time member) valid
  have lasting : (flats.filter (·.isValidAt built)).filter (·.isValidAt asked) =
      flats.filter (·.isValidAt asked) :=
    filter_implied (fun _ valid => FlattenedEntity.isValidAt_antitone ordered valid) flats
  rw [filter_implied served, firstOccurrences_lasting, lasting]
  simp only [Vacated, Bool.not_not]

theorem query_aged (flats : List FlattenedEntity) {built asked : Instant} (ordered : built ≤ asked)
    {times : List Instant} (before : ∀ time ∈ times, time ≤ asked) (criteria : CriteriaSet) :
    ((times.foldl prune (builtAt flats built)).query criteria asked).toList =
      ((builtAt flats asked).query criteria asked).toList.filter
        (!Vacated flats built asked ·.entityId) := by
  have represents := (builtAt_represents flats built).foldl_prune times
  have enforces := foldl_prune_enforcesValidity (builtAt flats built) times
  rw [builtAt_enforcesValidity] at represents enforces
  have fresh := builtAt_represents flats asked
  have valid : (firstOccurrences (flats.filter (·.isValidAt asked))).filter (·.isValidAt asked) =
      firstOccurrences (flats.filter (·.isValidAt asked)) :=
    List.filter_eq_self.mpr fun flat member =>
      (List.mem_filter.mp (mem_of_mem_firstOccurrences member)).2
  rw [represents.query_valid enforces, fresh.query_valid (builtAt_enforcesValidity _ _),
    aged_lasting flats ordered before, valid]
  split
  · rfl
  · rw [List.filter_map, List.filter_comm]
    rfl

end Index

theorem Pipeline.indexOf_of_requiresValid {pipeline : Pipeline}
    (requires : pipeline.settings.requiresValid = true) (now : Instant) (document : Document) :
    pipeline.indexOf now document = .builtAt document.flatten now := by
  unfold indexOf select Index.builtAt
  simp only [requires, Bool.not_true, Bool.false_or]

/-- Where validity is enforced, the index of a pipeline is built of the entities that are valid, and
    a cycle that finds nothing new prunes it. An index that has aged, pruned at any instants or never,
    answers like one that is built anew, except for entities whose identifier stood at first for an
    entity that has ended since; so it answers the same where there is no such entity. -/
theorem Pipeline.ages_like_rebuilt :
    (∀ (pipeline : Pipeline) (now : Instant) (document : Document),
      pipeline.settings.requiresValid = true →
        pipeline.indexOf now document = .builtAt document.flatten now) ∧
    (∀ (pipeline : Pipeline) (readings : Readings) (jitter : Duration) (state : State),
      (pipeline.confirm readings jitter state).index = state.index.prune readings.published) ∧
    ∀ (flats : List FlattenedEntity) (built asked : Instant), built ≤ asked →
      ∀ times : List Instant, (∀ time ∈ times, time ≤ asked) → ∀ criteria : CriteriaSet,
        let aged := ((times.foldl Index.prune (.builtAt flats built)).query criteria asked).toList
        let anew := ((Index.builtAt flats asked).query criteria asked).toList
        aged = anew.filter (!Index.Vacated flats built asked ·.entityId) ∧
          (aged = anew ↔
            ∀ entity ∈ anew, Index.Vacated flats built asked entity.entityId = false) := by
  refine ⟨fun _ now document requires => indexOf_of_requiresValid requires now document, ?_, ?_⟩
  · intro pipeline readings jitter state
    exact congrArg Served.index (pipeline.confirm_served readings jitter state)
  · intro flats built asked ordered times before criteria aged anew
    have same : aged = _ := Index.query_aged flats ordered before criteria
    refine ⟨same, ?_⟩
    rw [same, List.filter_eq_self]
    simp only [Bool.not_eq_true']
    exact Iff.rfl

/-- While one entity ends, another is found as before. -/
theorem Pipeline.ages_like_rebuilt_beside :
    let later : Instant := ⟨1, 0, by decide, by decide, by decide⟩
    let ends : FlattenedEntity := ⟨⟨"a", none, none, [], none⟩, some later⟩
    let stays : FlattenedEntity := ⟨⟨"b", none, none, [], none⟩, none⟩
    Instant.epoch ≤ later ∧ (∀ time ∈ [later], time ≤ later) ∧
      (((Index.builtAt [ends, stays] .epoch).prune later).query (.ofEntityId "b") later).toList =
        ((Index.builtAt [ends, stays] later).query (.ofEntityId "b") later).toList := by
  intro later ends stays
  have ordered : Instant.epoch ≤ later := by decide
  have before : ∀ time ∈ [later], time ≤ later := by decide
  refine ⟨ordered, before, ?_⟩
  refine (ages_like_rebuilt.2.2 [ends, stays] .epoch later ordered [later] before (.ofEntityId "b")).2.mpr ?_
  rw [(Index.builtAt_represents _ _).query_valid (Index.builtAt_enforcesValidity _ _)]
  decide

/-- An entity that comes second is not found once the first has ended, but would be if the index were
    built anew. -/
theorem Index.aged_misses_second :
    ¬ ∀ (flats : List FlattenedEntity) (built asked : Instant) (criteria : CriteriaSet),
      built ≤ asked → criteria.isEmpty = false →
        ((builtAt flats built).query criteria asked).toList =
            ((builtAt flats asked).query criteria asked).toList ∧
          (((builtAt flats built).prune asked).query criteria asked).toList =
            ((builtAt flats asked).query criteria asked).toList := by
  intro same
  let later : Instant := ⟨1, 0, by decide, by decide, by decide⟩
  let ends : FlattenedEntity := ⟨⟨"a", none, none, [], none⟩, some later⟩
  let again : FlattenedEntity := ⟨⟨"a", none, none, [], none⟩, none⟩
  have equal := (same [ends, again] .epoch later (.ofEntityId "a") (by decide) (by decide)).1
  rw [(builtAt_represents _ _).query_valid (builtAt_enforcesValidity _ _),
    (builtAt_represents _ _).query_valid (builtAt_enforcesValidity _ _)] at equal
  revert equal
  decide

end Federation
