import Mathlib.Algebra.Order.BigOperators.Group.Finset
import Federation.Proofs.Sharing.Serial

namespace Federation

instance : Inhabited Turn := ⟨⟨.still .epoch, .zero, .empty, fun _ => .unanswered, true⟩⟩

namespace Stage

/-- How many steps a party takes at most until its call returns, or the timer ends. -/
def left : Stage → Nat
  | queued => 9
  | admitted => 8
  | permitted | stopping => 7
  | begun _ | cancelled => 6
  | fetched _ _ | locked => 5
  | stored _ _ | marked => 4
  | recorded _ _ | unlocked => 3
  | joining => 2
  -- Below what is recorded, as the timer waits again after a cycle.
  | idle => 1
  | answered _ | found _ | ended | finished => 0

def IsRefused (id : String) (stage : Stage) : Prop :=
  stage = queued ∨ stage = admitted ∨ stage = answered (.error (.shutDown id))

end Stage

namespace Shared

variable {s next after : Shared} {party : Party} {action : Action} {stage : Stage} {event : Event}
  {trace : List Event} {parties : Finset Party} {pipeline : Pipeline} {turns : List Turn}

theorem Move.left_lt (move : s.Move party action stage) (told : s.isCancelled = true)
    (quiet : action.isCall = false) : stage.left < (s.stage party).left := by
  cases move <;> simp_all [Action.isCall, Stage.left]

theorem Move.isCall_of_idle {number : Nat} (move : s.Move (.call number) action stage)
    (idle : s.stage (.call number) = .idle) : action.isCall = true := by
  cases move <;> simp_all [Action.isCall]

theorem Step.isCancelled (step : s.Step event next) (told : s.isCancelled = true) :
    next.isCancelled = true := by
  cases step with
  | mk move => cases event.action <;> simp_all [perform]

theorem Runs.isCancelled (runs : s.Runs trace after) (told : s.isCancelled = true) :
    after.isCancelled = true := by
  induction runs with
  | still => exact told
  | snoc _ step ih => exact step.isCancelled ih

theorem Runs.finite (runs : s.Runs trace after) :
    ∃ parties : Finset Party, ∀ party ∉ parties, after.stage party = s.stage party := by
  induction runs with
  | still => exact ⟨∅, fun _ _ => rfl⟩
  | @snoc _ between _ event _ step ih =>
    obtain ⟨parties, same⟩ := ih
    refine ⟨insert event.party parties, fun party absent => ?_⟩
    rw [Finset.mem_insert, not_or] at absent
    cases step with
    | @mk stage move =>
      exact (between.perform_stage_other absent.1 event.action stage).trans (same party absent.2)

def left (s : Shared) (parties : Finset Party) : Nat := ∑ party ∈ parties, (s.stage party).left

theorem Step.left_lt (step : s.Step event next) (told : s.isCancelled = true)
    (quiet : event.action.isCall = false) (member : event.party ∈ parties) :
    next.left parties < s.left parties := by
  cases step with
  | @mk stage move =>
    have less := move.left_lt told quiet
    apply Finset.sum_lt_sum
    · intro party _
      by_cases same : party = event.party
      · rw [same, perform_stage_self]
        exact less.le
      · rw [s.perform_stage_other same]
    · refine ⟨event.party, member, ?_⟩
      rwa [perform_stage_self]

/-- Without new calls, parties that were told to end have only so many steps left. -/
theorem Runs.length_le (runs : s.Runs trace after) (told : s.isCancelled = true)
    (quiet : ∀ event ∈ trace, event.action.isCall = false) (timer : .timer ∈ parties)
    (idle : ∀ number, .call number ∉ parties → s.stage (.call number) = .idle) :
    trace.length + after.left parties ≤ s.left parties ∧
      ∀ number, .call number ∉ parties → after.stage (.call number) = .idle := by
  -- The induction carries that other calls are not made, so that whoever steps is among the parties.
  induction runs with
  | still => exact ⟨by simp, idle⟩
  | @snoc trace between next event runs step ih =>
    obtain ⟨fewer, resting⟩ := ih fun event member => quiet event (List.mem_append_left _ member)
    have here := quiet event (List.mem_append_right _ (List.mem_singleton_self _))
    have member : event.party ∈ parties := by
      by_contra absent
      cases step with
      | mk move =>
        rcases event with ⟨number | _, action⟩
        · have call := move.isCall_of_idle (resting number absent)
          rw [here] at call
          cases call
        · exact absent timer
    have less := step.left_lt (runs.isCancelled told) here member
    refine ⟨?_, ?_⟩
    · rw [List.length_append, List.length_singleton]
      omega
    · intro number absent
      have differs : .call number ≠ event.party := fun same => absent (same ▸ member)
      cases step with
      | mk move => exact (between.perform_stage_other differs _ _).trans (resting number absent)

/-- Whoever holds the lock can go on. -/
theorem exists_move_of_holdsLock (holds : (s.stage party).holdsLock = true) :
    ∃ action stage, s.Move party action stage ∧ action.isCall = false := by
  cases here : s.stage party with
  | admitted =>
    cases party with
    | call number =>
      cases shut : s.resolver.isShutDown with
      | true => exact ⟨_, _, .refuse here shut, rfl⟩
      | false => exact ⟨_, _, .enter here shut nofun, rfl⟩
    | timer =>
      cases shut : s.resolver.isShutDown with
      | true => exact ⟨_, _, .giveUp here (.inl shut), rfl⟩
      | false =>
        cases told : s.isCancelled with
        | true => exact ⟨_, _, .giveUp here (.inr told), rfl⟩
        | false => exact ⟨_, _, .enter here shut fun _ => told, rfl⟩
  | permitted => exact ⟨_, _, .begin here default, rfl⟩
  | begun turn => exact ⟨_, _, .fetch here, rfl⟩
  | fetched turn outcome => exact ⟨_, _, .store here, rfl⟩
  | stored turn ending => exact ⟨_, _, .record here, rfl⟩
  | recorded turn ending =>
    cases party with
    | call number => exact ⟨_, _, .answer here, rfl⟩
    | timer => exact ⟨_, _, .rest here, rfl⟩
  | locked =>
    cases shut : s.resolver.isShutDown with
    | true => exact ⟨_, _, .leave here shut, rfl⟩
    | false => exact ⟨_, _, .mark here shut, rfl⟩
  | marked => exact ⟨_, _, .unlock here, rfl⟩
  | _ =>
    rw [here] at holds
    cases holds

/-- A refresh that waits keeps the parties from coming to rest. -/
theorem Coherent.exists_step (coherent : s.Coherent pipeline turns)
    (waits : s.stage party = .queued ∨ s.stage party = .admitted) :
    ∃ event next, s.Step event next ∧ event.action.isCall = false := by
  have someone : (∃ other, (s.stage other).holdsLock = true) ∨ s.lock = none := by
    cases holder : s.lock with
    | none => exact .inr rfl
    | some other => exact .inl ⟨other, (coherent.lock other).mpr holder⟩
  rcases someone with ⟨other, holds⟩ | free
  · obtain ⟨action, stage, move, quiet⟩ := exists_move_of_holdsLock holds
    exact ⟨⟨other, action⟩, _, .mk move, quiet⟩
  · rcases waits with queued | admitted
    · exact ⟨⟨party, .acquire⟩, _, .mk (.acquire queued free), rfl⟩
    · have held := (coherent.lock party).mp (by rw [admitted]; rfl)
      rw [free] at held
      cases held

theorem Coherent.answered_of_still (coherent : s.Coherent pipeline turns)
    (still : ∀ event next, s.Step event next → event.action.isCall = true) {id : String}
    (refused : (s.stage party).IsRefused id) : s.stage party = .answered (.error (.shutDown id)) := by
  have moves : ¬ (s.stage party = .queued ∨ s.stage party = .admitted) := by
    intro waits
    obtain ⟨event, next, step, quiet⟩ := coherent.exists_step waits
    have call := still event next step
    rw [quiet] at call
    cases call
  rcases refused with queued | admitted | answered
  · exact absurd (.inl queued) moves
  · exact absurd (.inr admitted) moves
  · exact answered

/-- Once the resolver is shut down, no step is of a cycle, and none changes more than the schedule. -/
theorem Coherent.step_isShutDown (coherent : s.Coherent pipeline turns)
    (closed : s.resolver.isShutDown = true) (step : s.Step event next) :
    event.action.isOfCycle = false ∧ next.resolver.isShutDown = true ∧
      next.resolver.state.unscheduled = s.resolver.state.unscheduled := by
  rcases event with ⟨party, action⟩
  cases step with
  | mk move =>
    cases move with
    | begin here | fetch here | store here | record here =>
      -- Whoever is at such a step works on a cycle, which nobody does any more.
      have working := coherent.idle_of_isShutDown closed party
      rw [here] at working
      cases working
    | mark => exact ⟨rfl, rfl, rfl⟩
    | _ => exact ⟨rfl, closed, rfl⟩

theorem Coherent.runs_isShutDown (coherent : s.Coherent pipeline turns)
    (closed : s.resolver.isShutDown = true) (runs : s.Runs trace after) :
    (∀ event ∈ trace, event.action.isOfCycle = false) ∧ after.resolver.isShutDown = true ∧
      after.resolver.state.unscheduled = s.resolver.state.unscheduled := by
  induction runs with
  | still => exact ⟨fun _ member => absurd member List.not_mem_nil, closed, rfl⟩
  | snoc runs step ih =>
    obtain ⟨quiet, shut, same⟩ := ih
    obtain ⟨here, still, kept⟩ := (coherent.runs runs).step_isShutDown shut step
    refine ⟨fun other member => ?_, still, kept.trans same⟩
    rcases List.mem_append.mp member with old | new
    · exact quiet other old
    · exact List.mem_singleton.mp new ▸ here

theorem Step.isRefused (step : s.Step event next) (closed : s.resolver.isShutDown = true) {number : Nat}
    (refused : (s.stage (.call number)).IsRefused s.resolver.id) :
    (next.stage (.call number)).IsRefused s.resolver.id := by
  rcases event with ⟨party, action⟩
  cases step with
  | mk move =>
    by_cases same : party = .call number
    · subst same
      rw [perform_stage_self]
      cases move <;> simp_all [Stage.IsRefused]
    · rwa [s.perform_stage_other (Ne.symm same)]

/-- Refreshes that are called after the resolver was shut down are not let in. -/
theorem Coherent.runs_isRefused (coherent : s.Coherent pipeline turns)
    (closed : s.resolver.isShutDown = true) (runs : s.Runs trace after) {number : Nat}
    (called : ⟨.call number, .refresh⟩ ∈ trace) :
    (after.stage (.call number)).IsRefused pipeline.settings.id := by
  induction runs with
  | still => cases called
  | @snoc _ between _ event runs step ih =>
    have same := (coherent.runs runs).same
    have shut := (coherent.runs_isShutDown closed runs).2.1
    rcases List.mem_append.mp called with old | new
    · have refused := ih old
      rw [← same] at refused ⊢
      exact step.isRefused shut refused
    · rw [← List.mem_singleton.mp new] at step
      cases step with
      | mk move =>
        rw [perform_stage_self]
        cases move
        exact .inl rfl

/-- However the parties go on, no cycle runs, nothing changes, and each refresh that is called is
    refused: without more calls the parties come to rest, and have refused it then. -/
structure Final (s : Shared) : Prop where
  quiet {more : List Event} {later : Shared} (runs : s.Runs more later) :
    (∀ party, (later.stage party).inCycle = false) ∧ ∀ event ∈ more, event.action.isOfCycle = false
  unchanged {more : List Event} {later : Shared} (runs : s.Runs more later) :
    later.resolver.state.served = s.resolver.state.served ∧
      later.resolver.state.lastFailure = s.resolver.state.lastFailure
  refuses {more : List Event} {later : Shared} (runs : s.Runs more later) {number : Nat}
    (called : ⟨.call number, .refresh⟩ ∈ more) :
    (later.stage (.call number)).IsRefused s.resolver.id
  returns {more : List Event} {later : Shared} (runs : s.Runs more later) :
    ∃ bound, ∀ rest last, later.Runs rest last → (∀ event ∈ rest, event.action.isCall = false) →
      rest.length ≤ bound ∧
        ((∀ event next, last.Step event next → event.action.isCall = true) →
          ∀ number, ⟨.call number, .refresh⟩ ∈ more →
            last.stage (.call number) = .answered (.error (.shutDown s.resolver.id)))

theorem final_of_ended {start : Shared} (coherent : start.Coherent pipeline turns)
    (fresh : ∀ number, start.stage (.call number) = .idle) (runs : start.Runs trace s) {number : Nat}
    (ended : s.stage (.call number) = .ended) : s.Final := by
  have now := coherent.runs runs
  have closed := now.marked (.call number) (by rw [ended]; rfl)
  have told := now.told (.call number) (by rw [ended]; rfl)
  constructor
  · intro more later onward
    obtain ⟨quiet, shut, _⟩ := now.runs_isShutDown closed onward
    refine ⟨fun party => ?_, quiet⟩
    have idle := (now.runs onward).idle_of_isShutDown shut party
    revert idle
    cases later.stage party <;> simp [Stage.isWorking, Stage.inCycle]
  · intro more later onward
    exact State.served_of_unscheduled (now.runs_isShutDown closed onward).2.2
  · intro more later onward other called
    have refused := now.runs_isRefused closed onward called
    rwa [← now.same] at refused
  · intro more later onward
    obtain ⟨parties, same⟩ := (runs.append onward).finite
    have idle : ∀ other, .call other ∉ insert .timer parties → later.stage (.call other) = .idle := by
      intro other absent
      rw [Finset.mem_insert, not_or] at absent
      exact (same _ absent.2).trans (fresh other)
    refine ⟨later.left (insert .timer parties), fun rest last further quiet => ⟨?_, ?_⟩⟩
    · have fewer := (further.length_le (onward.isCancelled told) quiet (Finset.mem_insert_self _ _) idle).1
      omega
    · intro still other called
      have refused := now.runs_isRefused closed (onward.append further) (List.mem_append_left rest called)
      rw [← now.same] at refused
      exact (now.runs (onward.append further)).answered_of_still still refused

/-- Parties that share a resolver, which has started and whose steps come in any order: one cycle runs
    at a time, by the party that holds the lock; a refresh that is not refused has run one cycle of its
    own, and is told what it came to; what is seen is what the complete cycles leave in their order,
    unless one is in progress; and when a call that shuts down has returned, that is final. -/
theorem cycles_serialized {first : Turn} {resolver : Resolver}
    (started : (Resolver.start pipeline first.readings first.jitter first.surroundings).resolver =
      .ok resolver) (runs : (ofResolver resolver).Runs trace s) :
    (∀ party other, (s.stage party).inCycle = true → (s.stage other).inCycle = true → party = other) ∧
    (∀ earlier event later, trace = earlier ++ event :: later →
      (event.action = .acquire → Event.holder earlier = none) ∧
        (event.action.isOfCycle = true → Event.holder earlier = some event.party)) ∧
    (∀ number answer, s.stage (.call number) = .answered answer →
      answer = .error (.shutDown pipeline.settings.id) ∨
        ∃ turn outcome ending earlier later,
          Event.own (.call number) trace =
            [.refresh, .acquire, .enter, .begin turn, .fetch, .store turn outcome, .record turn ending,
              .release] ∧
          trace = earlier ++ ⟨.call number, .record turn ending⟩ :: later ∧
          answer = (Resolver.refresh ⟨pipeline, pipeline.after (first :: Event.completed earlier), false⟩
            turn.readings turn.jitter turn.surroundings).outcome) ∧
    ((∀ party, (s.stage party).inCycle = false) →
      s.resolver.state.served = (pipeline.after (first :: Event.completed trace)).served ∧
        s.resolver.state.lastFailure =
          (pipeline.after (first :: Event.completed trace)).lastFailure) ∧
    ∀ number, s.stage (.call number) = .ended → s.Final := by
  have start := Coherent.start started
  have fresh : ∀ number, (ofResolver resolver).stage (.call number) = .idle := fun _ => rfl
  have coherent := start.runs runs
  refine ⟨fun party other => coherent.inCycle_unique, ?_, fun number answer => start.answered fresh runs,
    ?_, fun number => final_of_ended start fresh runs⟩
  · intro earlier event later split
    rw [split] at runs
    obtain ⟨before, next, passed, step, _⟩ := runs.at_event
    rw [← passed.lock_eq]
    rcases event with ⟨party, action⟩
    cases step with
    | mk move =>
      refine ⟨?_, fun cycle => ?_⟩
      · rintro rfl
        exact move.free_of_acquire
      · exact ((start.runs passed).lock party).mp (move.holdsLock_of_isOfCycle cycle)
  · intro quiet
    exact State.served_of_unscheduled (coherent.settled quiet)

/-- One call refreshes and another one shuts down. -/
theorem cycles_serialized_once :
    let pipeline := Pipeline.plain (.file "md") fun _ => .ok (.group .empty)
    let surroundings : Surroundings :=
      ⟨⟨[(["md"], .file ⟨[1], 5, true⟩)]⟩, fun _ => .unanswered, true⟩
    let turn : Turn := ⟨.still .epoch, .zero, surroundings⟩
    let resolver : Resolver := ⟨pipeline, pipeline.next .start turn, false⟩
    (Resolver.start pipeline turn.readings turn.jitter turn.surroundings).resolver = .ok resolver ∧
      ∃ trace s, (ofResolver resolver).Runs trace s ∧
        s.stage (.call 0) = .answered (.ok ()) ∧ s.stage (.call 1) = .ended ∧
        (∃ own, Event.own (.call 0) trace = .refresh :: own) ∧
        s.resolver.state.served = (pipeline.after (turn :: Event.completed trace)).served ∧ s.Final := by
  intro pipeline surroundings turn resolver
  have obtained : pipeline.fetchIn .start turn = .ok (.fetched ⟨[1], .file, some (.file 5)⟩) := rfl
  have accepted : pipeline.accept .epoch [1] = .ok (.group .empty) := Pipeline.accept_plain rfl .epoch
  have started := Resolver.start_of_accept obtained accepted
  have running : resolver.isShutDown = false := rfl
  obtain ⟨first, between, refreshed, free, _, same, stages⟩ :=
    @Runs.refresh_alone (ofResolver resolver) 0 rfl rfl running turn
  have idle : ∀ party, party ≠ .call 0 → between.stage party = .idle := by
    intro party differs
    rw [stages, Function.update_of_ne differs]
    cases party <;> rfl
  have still : between.resolver.isShutDown = false := by
    rw [same]
    rfl
  obtain ⟨second, s, shut, _, _, _, last⟩ :=
    Runs.shutDown_alone (idle (.call 1) (by decide)) (idle .timer (by decide)) free still
  have runs := refreshed.append shut
  have told : s.stage (.call 0) = .answered (.ok ()) := by
    rw [last, Function.update_of_ne (by decide), Function.update_of_ne (by decide), stages,
      Function.update_self]
    rfl
  have ended : s.stage (.call 1) = .ended := by rw [last, Function.update_self]
  obtain ⟨_, _, answers, settled, final⟩ := cycles_serialized started runs
  have quiet := ((final 1 ended).quiet .still).1
  refine ⟨started, _, s, runs, told, ended, ?_, (settled quiet).1, final 1 ended⟩
  rcases answers 0 _ told with refused | ⟨_, _, _, _, _, own, _⟩
  · cases refused
  · exact ⟨_, own⟩

end Shared

end Federation
