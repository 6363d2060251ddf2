import Federation.Proofs.Document.Occurrences
import Federation.Proofs.Index.Aging

namespace Federation

theorem FlattenedEntity.isServed_antitone {enforces : Bool} {earlier later : Instant}
    (ordered : earlier ≤ later) (flat : FlattenedEntity)
    (served : flat.isServed enforces later = true) : flat.isServed enforces earlier = true := by
  cases enforces with
  | false => rfl
  | true => exact isValidAt_antitone ordered served

namespace Index

variable {index : Index} {flats : List FlattenedEntity}

theorem Represents.withoutExpired?_none_iff (represents : index.Represents flats) (now : Instant) :
    index.withoutExpired? now = none ↔
      ∀ flat ∈ flats, flat.isServed index.enforcesValidity now = true := by
  rw [← represents.all_current_iff now]
  unfold withoutExpired?
  split
  · rename_i all
    exact ⟨fun _ => all, fun _ => rfl⟩
  · rename_i some
    exact ⟨fun none => absurd none (by simp), fun all => absurd all some⟩

theorem Represents.withoutExpired?_some (represents : index.Represents flats) {now : Instant}
    {rest : Index} (left : index.withoutExpired? now = some rest) :
    index.enforcesValidity = true ∧ rest = ofFlattened (flats.filter (·.isValidAt now)) true := by
  cases enforces : index.enforcesValidity with
  | false =>
    have none := (represents.withoutExpired?_none_iff now).mpr fun flat _ => by rw [enforces]; rfl
    rw [none] at left
    cases left
  | true =>
    refine ⟨rfl, ?_⟩
    unfold withoutExpired? at left
    split at left
    · cases left
    · rw [represents.current_eq, enforces] at left
      exact (Option.some.inj left).symm

theorem prune_of_withoutExpired?_none {now : Instant} (none : index.withoutExpired? now = none) :
    index.prune now = index := by
  unfold prune
  rw [none]
  rfl

/-- To prune an index that was built is to build it of what has not ended. -/
theorem prune_ofFlattened (distinct : DistinctIds flats) (now : Instant) :
    (ofFlattened flats true).prune now = ofFlattened (flats.filter (·.isValidAt now)) true := by
  have represents := ofFlattened_represents flats true
  rw [firstOccurrences_of_distinct distinct] at represents
  cases left : (ofFlattened flats true).withoutExpired? now with
  | none =>
    have all := (represents.withoutExpired?_none_iff now).mp left
    rw [ofFlattened_enforcesValidity] at all
    have whole : flats.filter (·.isValidAt now) = flats := List.filter_eq_self.mpr all
    rw [prune_of_withoutExpired?_none left, whole]
  | some rest =>
    rw [prune_of_withoutExpired? left, (represents.withoutExpired?_some left).2]

/-- After a pruning, an earlier instant has nothing left to prune. -/
theorem Represents.withoutExpired?_prune (represents : index.Represents flats) {earlier later : Instant}
    (ordered : earlier ≤ later) : (index.prune later).withoutExpired? earlier = none := by
  rw [(represents.prune later).withoutExpired?_none_iff, prune_enforcesValidity]
  intro flat member
  exact flat.isServed_antitone ordered (List.mem_filter.mp member).2

/-- A later pruning makes an earlier one unnecessary. -/
theorem Represents.prune_later (represents : index.Represents flats) {earlier later : Instant}
    (ordered : earlier ≤ later) : (index.prune earlier).prune later = index.prune later := by
  cases left : index.withoutExpired? earlier with
  | none => rw [prune_of_withoutExpired?_none left]
  | some rest =>
    obtain ⟨enforces, built⟩ := represents.withoutExpired?_some left
    have kept := represents.distinct.filter (·.isValidAt earlier)
    have lasting : (flats.filter (·.isValidAt earlier)).filter (·.isValidAt later) =
        flats.filter (·.isValidAt later) :=
      filter_implied (fun _ valid => FlattenedEntity.isValidAt_antitone ordered valid) flats
    rw [prune_of_withoutExpired? left, built, prune_ofFlattened kept, lasting]
    cases again : index.withoutExpired? later with
    | none =>
      -- What ended by the earlier instant has ended by the later one too.
      have all := (represents.withoutExpired?_none_iff later).mp again
      have before := (represents.withoutExpired?_none_iff earlier).mpr fun flat member =>
        flat.isServed_antitone ordered (all flat member)
      rw [before] at left
      cases left
    | some pruned =>
      rw [prune_of_withoutExpired? again, (represents.withoutExpired?_some again).2]

theorem Represents.prune_prune (represents : index.Represents flats) (first second : Instant) :
    (index.prune first).prune second = index.prune (max first second) ∧
      (index.prune second).prune first = index.prune (max first second) := by
  have both : ∀ {earlier later : Instant}, earlier ≤ later →
      (index.prune earlier).prune later = index.prune later ∧
        (index.prune later).prune earlier = index.prune later := fun ordered =>
    ⟨represents.prune_later ordered,
      prune_of_withoutExpired?_none (represents.withoutExpired?_prune ordered)⟩
  rcases first.le_total second with ordered | ordered
  · rw [(Instant.max_of_le ordered).1]
    exact both ordered
  · rw [(Instant.max_of_le ordered).2]
    exact (both ordered).symm

/-- A search finds in a pruned index what it would have found before. -/
theorem Represents.query_prune (represents : index.Represents flats) {pruned asked : Instant}
    (ordered : pruned ≤ asked) (criteria : CriteriaSet) :
    ((index.prune pruned).query criteria asked).toList = (index.query criteria asked).toList := by
  have rest := represents.prune pruned
  rw [rest.query_toList, represents.query_toList, matching, matching, rest.contents_eq,
    represents.contents_eq, prune_enforcesValidity]
  congr 2
  apply filter_implied
  intro flat accepted
  exact flat.isServed_antitone ordered (Bool.and_eq_true_iff.mp accepted).1

theorem Represents.size_eq (represents : index.Represents flats) : index.size = flats.length := by
  have length := congrArg List.length represents.ordered
  rwa [List.length_map] at length

theorem Represents.countP_isCurrent (represents : index.Represents flats) (now : Instant) :
    index.entities.countP (index.isCurrent ·.entityId now) =
      (flats.filter (·.isServed index.enforcesValidity now)).length := by
  rw [represents.ordered, List.countP_map, List.countP_eq_length_filter]
  congr 1
  apply List.filter_congr
  intro flat member
  exact represents.isCurrent_of_mem member now

/-- An index is pruned exactly when it enforces validity and an entity in it has ended. Every part of
    the pruned index is what the others say of it, in their order and with their ends of validity; it is
    not pruned again at that instant, and answers every later search alike. Two prunings, in either
    order, are one at the later instant. -/
theorem prunes_transparently (reachable : index.Reachable) :
    (∀ now, index.withoutExpired? now = none ↔
      index.enforcesValidity = false ∨
        ∀ flat ∈ index.contents, ∀ bound, flat.effectiveValidUntil = some bound → now < bound) ∧
    (∀ now rest, index.withoutExpired? now = some rest →
      rest.Represents (index.contents.filter (·.isValidAt now)) ∧
      rest.enforcesValidity = index.enforcesValidity ∧
      rest.size = index.entities.countP (index.isCurrent ·.entityId now) ∧
      rest.withoutExpired? now = none ∧
      ∀ later, now ≤ later → ∀ criteria count,
        (rest.query criteria later).nth count = (index.query criteria later).nth count) ∧
    ∀ first second,
      (index.prune first).prune second = index.prune (max first second) ∧
        (index.prune second).prune first = index.prune (max first second) := by
  have represents := reachable.represents
  refine ⟨?_, ?_, represents.prune_prune⟩
  · intro now
    rw [represents.withoutExpired?_none_iff]
    cases index.enforcesValidity with
    | false => exact ⟨fun _ => .inl rfl, fun _ _ _ => rfl⟩
    | true =>
      simp only [FlattenedEntity.isServed, FlattenedEntity.isValidAt, Bool.not_true, Bool.false_or,
        isBefore_iff, Bool.true_eq_false, false_or]
  · intro now rest left
    have pruned := represents.prune now
    have enforces := (represents.withoutExpired?_some left).1
    have size := pruned.size_eq
    have again := represents.withoutExpired?_prune (Int.le_refl now.rank)
    have kept := index.prune_enforcesValidity now
    rw [← represents.countP_isCurrent] at size
    rw [enforces] at pruned
    rw [prune_of_withoutExpired? left] at pruned size again kept
    refine ⟨pruned, kept, size, again, ?_⟩
    intro later ordered criteria count
    have same := represents.query_prune ordered criteria
    rw [prune_of_withoutExpired? left] at same
    rw [Query.nth_eq_getElem?, Query.nth_eq_getElem?, same]

/-- Of three entities that play a role one has ended, and another ends before the search. -/
theorem prunes_transparently_twice :
    let sooner : Instant := ⟨1, 0, by decide, by decide, by decide⟩
    let later : Instant := ⟨2, 0, by decide, by decide, by decide⟩
    let plays : List RoleDescriptor := [⟨.idpSso, [], [], []⟩]
    let first : FlattenedEntity := ⟨⟨"a", none, none, plays, none⟩, some sooner⟩
    let second : FlattenedEntity := ⟨⟨"b", none, none, plays, none⟩, some later⟩
    let third : FlattenedEntity := ⟨⟨"c", none, none, plays, none⟩, none⟩
    let index := ofFlattened [first, second, third] true
    let criteria := CriteriaSet.empty.insert (.role .idpSso)
    index.Reachable ∧ sooner ≤ later ∧ ∃ rest, index.withoutExpired? sooner = some rest ∧
      rest.contents = [second, third] ∧ rest.withoutExpired? sooner = none ∧
      (rest.query criteria later).nth 0 = (index.query criteria later).nth 0 ∧
      (index.prune sooner).prune later = index.prune (max sooner later) := by
  intro sooner later plays first second third index criteria
  have reachable : index.Reachable := .ofFlattened _ _
  have contents : index.contents = [first, second, third] := by
    rw [contents_ofFlattened]
    decide
  have ordered : sooner ≤ later := by decide
  obtain ⟨unpruned, pruned, composed⟩ := prunes_transparently reachable
  obtain ⟨rest, left⟩ : ∃ rest, index.withoutExpired? sooner = some rest := by
    apply Option.ne_none_iff_exists'.mp
    rw [ne_eq, unpruned, contents]
    decide
  obtain ⟨represents, _, _, again, searched⟩ := pruned sooner rest left
  have kept : [first, second, third].filter (·.isValidAt sooner) = [second, third] := by decide
  rw [contents, kept] at represents
  exact ⟨reachable, ordered, rest, left, represents.contents_eq, again,
    searched later ordered criteria 0, (composed sooner later).1⟩

end Index

end Federation
