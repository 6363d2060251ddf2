import Federation.Filter
import Federation.Proofs.Results

namespace Federation

namespace Filter

variable {now : Instant} {filters : List Filter} {document : Document} {failure : MetadataError}

theorem runAll_cons (now : Instant) (first : Filter) (rest : List Filter) (document : Document) :
    runAll now (first :: rest) document =
      match first.run now document with
      | .error failure => .error failure
      | .ok outcome => (runAll now rest outcome.document).map fun others =>
          ⟨others.document, outcome.rejected ++ others.rejected⟩ := by
  rw [runAll]
  cases first.run now document with
  | error failure => rfl
  | ok outcome =>
    simp only [Bind.bind, Except.bind]
    cases runAll now rest outcome.document <;> rfl

theorem runAll_cons_ok_iff {first : Filter} {rest : List Filter} {outcome : FilterOutcome} :
    runAll now (first :: rest) document = .ok outcome ↔
      ∃ passed others, first.run now document = .ok passed ∧
        runAll now rest passed.document = .ok others ∧
        outcome = ⟨others.document, passed.rejected ++ others.rejected⟩ := by
  simp only [runAll, bind_eq_ok_iff, pure_eq_ok_iff, exists_and_left, @eq_comm _ outcome]

theorem runAll_cons_error_iff {first : Filter} {rest : List Filter} :
    runAll now (first :: rest) document = .error failure ↔
      first.run now document = .error failure ∨
        ∃ passed, first.run now document = .ok passed ∧
          runAll now rest passed.document = .error failure := by
  simp only [runAll, bind_eq_error_iff, pure_ne_error, and_false, exists_false, or_false]

theorem runAll_append_of_ok {before : List Filter} {passed : FilterOutcome}
    (accepted : runAll now before document = .ok passed) (rest : List Filter) :
    runAll now (before ++ rest) document =
      (runAll now rest passed.document).map fun others =>
        ⟨others.document, passed.rejected ++ others.rejected⟩ := by
  induction before generalizing document passed with
  | nil =>
    cases accepted
    simp only [List.nil_append]
    cases runAll now rest document <;> rfl
  | cons first others ih =>
    obtain ⟨outcome, inner, ran, done, rfl⟩ := runAll_cons_ok_iff.mp accepted
    rw [List.cons_append, runAll_cons, ran]
    dsimp only
    rw [ih done]
    cases runAll now rest inner.document with
    | error failure => rfl
    | ok last => simp [Except.map]

/-- Filters fail together when one of them rejects what those before it have passed on. -/
theorem runAll_error_iff :
    runAll now filters document = .error failure ↔
      ∃ before filter after passed, filters = before ++ filter :: after ∧
        runAll now before document = .ok passed ∧ filter.run now passed.document = .error failure := by
  constructor
  · intro failed
    induction filters generalizing document with
    | nil => cases failed
    | cons first rest ih =>
      rcases runAll_cons_error_iff.mp failed with refused | ⟨outcome, ran, later⟩
      · exact ⟨[], first, rest, ⟨document, []⟩, rfl, rfl, refused⟩
      · obtain ⟨before, filter, after, passed, rfl, accepted, rejected⟩ := ih later
        refine ⟨first :: before, filter, after, ⟨_, outcome.rejected ++ passed.rejected⟩, rfl, ?_,
          rejected⟩
        exact runAll_cons_ok_iff.mpr ⟨outcome, passed, ran, accepted, rfl⟩
  · rintro ⟨before, filter, after, passed, rfl, accepted, rejected⟩
    rw [runAll_append_of_ok accepted, runAll_cons]
    simp [rejected, Except.map]

/-- The end of validity is declared, and not later than a longest period from now if there is one. -/
def InTime (longest : Option Duration) (now : Instant) (declared : Option Instant) : Prop :=
  ∃ validUntil, declared = some validUntil ∧
    ∀ limit, longest.bind (validityLimit? now) = some limit → validUntil ≤ limit

theorem inTime_some_iff {longest : Option Duration} {validUntil : Instant} :
    InTime longest now (some validUntil) ↔
      ∀ limit, longest.bind (validityLimit? now) = some limit → validUntil ≤ limit := by
  constructor
  · intro inTime
    obtain ⟨_, same, allowed⟩ := inTime
    cases same
    exact allowed
  · exact fun allowed => ⟨validUntil, rfl, allowed⟩

theorem requiredValidUntil_ok_iff {longest : Option Duration} {outcome : FilterOutcome} :
    (requiredValidUntil longest).run now document = .ok outcome ↔
      InTime longest now document.validUntil ∧ outcome = ⟨document, []⟩ := by
  simp only [requiredValidUntil]
  cases document.validUntil with
  | none => simp [InTime]
  | some validUntil =>
    rw [inTime_some_iff]
    cases longest with
    | none => simp [eq_comm]
    | some period =>
      simp only [Option.bind_some]
      cases validityLimit? now period with
      | none => simp [eq_comm]
      | some limit =>
        have order : validUntil ≤ limit ↔ ¬ limit < validUntil := Instant.not_lt.symm
        by_cases late : limit < validUntil
        · simp [order, late]
        · simp [order, late, eq_comm]

theorem requiredValidUntil_undeclared (longest : Option Duration) (now : Instant)
    (undeclared : document.validUntil = none) :
    (requiredValidUntil longest).run now document =
      .error (.documentRejected "metadata does not declare validUntil") := by
  simp only [requiredValidUntil, undeclared]

def restricted (kinds : List RoleKind) (document : Document) : Document :=
  (document.retain (keepRoles kinds) []).1

def passed? (now : Instant) (filters : List Filter) (document : Document) : Option Document :=
  (runAll now filters document).toOption.map (·.document)

theorem passed?_nil (now : Instant) (document : Document) : passed? now [] document = some document :=
  rfl

theorem passed?_cons_iff {first : Filter} {rest : List Filter} {left : Document} :
    passed? now (first :: rest) document = some left ↔
      ∃ outcome, first.run now document = .ok outcome ∧ passed? now rest outcome.document = some left := by
  unfold passed?
  rw [runAll_cons]
  cases first.run now document with
  | error failure => simp [Except.toOption]
  | ok outcome =>
    cases ran : runAll now rest outcome.document <;>
      simp [ran, Except.map, Except.toOption]

theorem passed?_entityRole_iff {kinds : List RoleKind} {rest : List Filter} {left : Document} :
    passed? now (entityRole kinds :: rest) document = some left ↔
      passed? now rest (restricted kinds document) = some left := by
  rw [passed?_cons_iff]
  constructor
  · intro passed
    obtain ⟨outcome, ran, others⟩ := passed
    cases ran
    exact others
  · exact fun others => ⟨_, rfl, others⟩

theorem passed?_requiredValidUntil_iff {longest : Option Duration} {rest : List Filter}
    {left : Document} :
    passed? now (requiredValidUntil longest :: rest) document = some left ↔
      InTime longest now document.validUntil ∧ passed? now rest document = some left := by
  rw [passed?_cons_iff]
  constructor
  · intro passed
    obtain ⟨outcome, accepted, others⟩ := passed
    obtain ⟨inTime, rfl⟩ := requiredValidUntil_ok_iff.mp accepted
    exact ⟨inTime, others⟩
  · intro ⟨inTime, others⟩
    exact ⟨_, requiredValidUntil_ok_iff.mpr ⟨inTime, rfl⟩, others⟩

end Filter

end Federation
