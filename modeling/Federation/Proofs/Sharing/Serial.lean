import Federation.Proofs.Sharing.Steps

namespace Federation

namespace Stage

def isWorking : Stage → Bool
  | permitted | begun _ | fetched _ _ | stored _ _ => true
  | _ => false

def hasCancelled : Stage → Bool
  | cancelled | locked | marked | unlocked | joining | ended => true
  | _ => false

def hasMarked : Stage → Bool
  | marked | unlocked | joining | ended => true
  | _ => false

/-- What the state is while the holder of the lock is at a stage, by the state its cycle starts from. -/
def Reflects (pipeline : Pipeline) (base state : State) : Stage → Prop
  | begun turn => state = base.attempt turn
  | fetched turn outcome => state = base.attempt turn ∧ outcome = pipeline.fetchIn base turn
  | stored turn ending =>
    state = pipeline.store turn (pipeline.fetchIn base turn) (base.attempt turn) ∧
      ending = pipeline.ending turn.readings (pipeline.fetchIn base turn)
  | _ => state = base

theorem reflects_of_not_inCycle {pipeline : Pipeline} {base state : State} {stage : Stage}
    (outside : stage.inCycle = false) : stage.Reflects pipeline base state ↔ state = base := by
  cases stage <;> first | rfl | cases outside

theorem holdsLock_of_inCycle {stage : Stage} (busy : stage.inCycle = true) : stage.holdsLock = true := by
  cases stage <;> first | rfl | cases busy

/-- What a call has done when it is at a stage. -/
def CameBy (id : String) (own : List Action) : Stage → Prop
  | idle => own = []
  | queued => own = [.refresh]
  | admitted => own = [.refresh, .acquire]
  | permitted => own = [.refresh, .acquire, .enter]
  | begun turn => own = [.refresh, .acquire, .enter, .begin turn]
  | fetched turn _ => own = [.refresh, .acquire, .enter, .begin turn, .fetch]
  | stored turn _ => ∃ outcome,
    own = [.refresh, .acquire, .enter, .begin turn, .fetch, .store turn outcome]
  | recorded turn ending => ∃ outcome,
    own = [.refresh, .acquire, .enter, .begin turn, .fetch, .store turn outcome, .record turn ending]
  | answered answer =>
    answer = .error (.shutDown id) ∨ ∃ turn outcome ending, answer = ending.answer id ∧
      own = [.refresh, .acquire, .enter, .begin turn, .fetch, .store turn outcome, .record turn ending,
        .release]
  | _ => .refresh ∉ own

end Stage

namespace Shared

def current (s : Shared) : Stage :=
  match s.lock with
  | none => .idle
  | some party => s.stage party

def LockAgrees (s : Shared) : Prop := ∀ party, (s.stage party).holdsLock = true ↔ s.lock = some party

/-- What every state agrees with that the parties reach, by the cycles that are complete. -/
structure Coherent (pipeline : Pipeline) (turns : List Turn) (s : Shared) : Prop where
  same : s.resolver.pipeline = pipeline
  lock : s.LockAgrees
  running : s.resolver.isShutDown = false →
    s.current.Reflects pipeline (pipeline.after turns) s.resolver.state
  closed : s.resolver.isShutDown = true →
    s.resolver.state.unscheduled = (pipeline.after turns).unscheduled ∧ s.current.isWorking = false
  told : ∀ party, (s.stage party).hasCancelled = true → s.isCancelled = true
  marked : ∀ party, (s.stage party).hasMarked = true → s.resolver.isShutDown = true

variable {s next after : Shared} {party : Party} {action : Action} {stage : Stage} {event : Event}
  {trace : List Event} {pipeline : Pipeline} {turns : List Turn}

theorem Move.lockAgrees (move : s.Move party action stage) (lock : s.LockAgrees) :
    (s.perform party action stage).LockAgrees := by
  intro other
  have here := lock party
  by_cases same : other = party
  · subst same
    rw [perform_stage_self]
    cases move <;> simp_all [perform, Action.holder, Stage.holdsLock]
  · have there := lock other
    rw [perform_stage_other s same, there]
    have differs : party ≠ other := Ne.symm same
    cases move <;> simp_all [perform, Action.holder, Stage.holdsLock]

theorem current_of_holdsLock (lock : s.LockAgrees) (holds : (s.stage party).holdsLock = true) :
    s.current = s.stage party := by
  unfold current
  rw [(lock party).mp holds]

theorem current_of_free (free : s.lock = none) : s.current = .idle := by
  unfold current
  rw [free]

/-- After a step, the holder of the lock is the party that made it, or nobody if that gave it back, or
    whoever it was before. -/
theorem Move.current_eq (move : s.Move party action stage) (lock : s.LockAgrees) :
    (s.perform party action stage).current =
      if stage.holdsLock then stage
      else if (s.stage party).holdsLock then .idle
      else s.current := by
  have agrees := move.lockAgrees lock
  by_cases holds : stage.holdsLock = true
  · rw [if_pos holds]
    have now := @current_of_holdsLock _ party agrees (by rwa [perform_stage_self])
    rw [now, perform_stage_self]
  · rw [if_neg holds]
    by_cases held : (s.stage party).holdsLock = true
    · rw [if_pos held]
      cases move <;> simp_all [current, perform, Action.holder, Stage.holdsLock]
    · rw [if_neg held]
      have unheld : s.lock ≠ some party := fun held' => held ((lock party).mpr held')
      have kept : action.holder party s.lock = s.lock := by
        cases move <;> simp_all [Action.holder, Stage.holdsLock]
      unfold current
      rw [show (s.perform party action stage).lock = s.lock from kept]
      cases holder : s.lock with
      | none => rfl
      | some other =>
        have differs : other ≠ party := fun same => unheld (by rw [holder, same])
        exact s.perform_stage_other differs action stage

theorem Coherent.reflects_at (coherent : s.Coherent pipeline turns)
    (running : s.resolver.isShutDown = false) (here : s.stage party = stage)
    (holds : stage.holdsLock = true) : stage.Reflects pipeline (pipeline.after turns) s.resolver.state := by
  have reflects := coherent.running running
  rwa [current_of_holdsLock coherent.lock (by rwa [here]), here] at reflects

/-- The stages of a cycle, each on what the one before it left. -/
theorem Move.reflects (move : s.Move party action stage) (coherent : s.Coherent pipeline turns)
    (running : (s.perform party action stage).resolver.isShutDown = false) :
    (s.perform party action stage).current.Reflects pipeline
      (pipeline.after (turns ++ action.completes?.toList))
      (s.perform party action stage).resolver.state := by
  have same := coherent.same
  rw [move.current_eq coherent.lock]
  -- Steps that need no lock leave its holder where it was.
  cases move with
  | refresh idle | shutDown idle | search idle | fire idle | stop idle | cancel idle | join idle =>
    have before := coherent.running running
    simpa [idle, Stage.holdsLock, perform, Action.change, Action.completes?] using before
  | acquire waits free | lock waits free =>
    have before := coherent.running running
    rw [current_of_free free] at before
    simpa [Stage.holdsLock, perform, Action.change, Action.completes?, Stage.Reflects] using before
  | enter here | giveUp here | answer here | rest here =>
    have before := coherent.reflects_at running here rfl
    simpa [here, Stage.holdsLock, perform, Action.change, Action.completes?, Stage.Reflects] using before
  | begin permitted turn =>
    have before : s.resolver.state = pipeline.after turns := coherent.reflects_at running permitted rfl
    simp only [Stage.holdsLock, if_true, Stage.Reflects, perform, Action.change, Action.completes?,
      Option.toList_none, List.append_nil, before]
  | @fetch _ turn begun =>
    have before : s.resolver.state = (pipeline.after turns).attempt turn :=
      coherent.reflects_at running begun rfl
    simp only [Stage.holdsLock, if_true, Stage.Reflects, perform, Action.change, Action.completes?,
      Option.toList_none, List.append_nil, same, before, true_and]
    exact pipeline.fetchIn_of_validators rfl turn
  | store fetched =>
    obtain ⟨before, rfl⟩ := coherent.reflects_at running fetched rfl
    simp only [Stage.holdsLock, if_true, Stage.Reflects, perform, Action.change, Action.completes?,
      Option.toList_none, List.append_nil, same, before, and_self]
  | record stored =>
    obtain ⟨before, rfl⟩ := coherent.reflects_at running stored rfl
    simp only [Stage.holdsLock, if_true, Stage.Reflects, perform, Action.change, Action.completes?,
      Option.toList_some, pipeline.after_snoc, pipeline.next_eq_steps, same, before]
  | refuse _ closed | leave _ closed =>
    have ended : s.resolver.isShutDown = false := running
    rw [closed] at ended
    cases ended
  | mark => cases running
  | unlock here | clear here =>
    have closed := coherent.marked party (by rw [here]; rfl)
    have ended : s.resolver.isShutDown = false := running
    rw [closed] at ended
    cases ended

/-- Nobody works on a cycle once the resolver is shut down. -/
theorem Coherent.idle_of_isShutDown (coherent : s.Coherent pipeline turns)
    (closed : s.resolver.isShutDown = true) (party : Party) : (s.stage party).isWorking = false := by
  have none := (coherent.closed closed).2
  by_cases holds : (s.stage party).holdsLock = true
  · rwa [current_of_holdsLock coherent.lock holds] at none
  · revert holds
    cases s.stage party <;> simp [Stage.isWorking, Stage.holdsLock]

theorem Move.unscheduled (move : s.Move party action stage) (coherent : s.Coherent pipeline turns)
    (closed : (s.perform party action stage).resolver.isShutDown = true) :
    (s.perform party action stage).resolver.state.unscheduled =
        (pipeline.after (turns ++ action.completes?.toList)).unscheduled ∧
      (s.perform party action stage).current.isWorking = false := by
  rw [move.current_eq coherent.lock]
  cases move with
  | refresh here | shutDown here | search here | fire here | stop here | cancel here | join here
  | clear here =>
    have before := coherent.closed closed
    simpa [here, Stage.holdsLock, perform, Action.change, Action.completes?, State.unscheduled] using before
  | acquire here | lock here | refuse here | giveUp here | answer here | rest here | leave here
  | unlock here =>
    have before := (coherent.closed closed).1
    simpa [here, Stage.holdsLock, Stage.isWorking, perform, Action.change, Action.completes?] using before
  | mark locked running =>
    have before : s.resolver.state = pipeline.after turns := coherent.reflects_at running locked rfl
    simp [Stage.holdsLock, Stage.isWorking, perform, Action.change, Action.completes?, before]
  | enter _ running =>
    have shut : s.resolver.isShutDown = true := closed
    rw [running] at shut
    cases shut
  | begin here | fetch here | store here | record here =>
    have working := coherent.idle_of_isShutDown closed party
    rw [here] at working
    cases working

/-- What is set for good, and set whenever a party comes to certain stages, is set once one is there. -/
theorem perform_keeps {flagged : Stage → Bool} {isSet : Shared → Bool}
    (kept : isSet s = true → isSet (s.perform party action stage) = true)
    (entered : flagged stage = true →
      flagged (s.stage party) = true ∨ isSet (s.perform party action stage) = true)
    (before : ∀ party, flagged (s.stage party) = true → isSet s = true) (other : Party)
    (past : flagged ((s.perform party action stage).stage other) = true) :
    isSet (s.perform party action stage) = true := by
  by_cases same : other = party
  · rw [same, perform_stage_self] at past
    rcases entered past with already | now
    · exact kept (before party already)
    · exact now
  · rw [s.perform_stage_other same] at past
    exact kept (before other past)

theorem Move.told (move : s.Move party action stage)
    (told : ∀ party, (s.stage party).hasCancelled = true → s.isCancelled = true) (other : Party) :
    ((s.perform party action stage).stage other).hasCancelled = true →
      (s.perform party action stage).isCancelled = true := by
  refine @perform_keeps s party action stage Stage.hasCancelled (·.isCancelled) ?_ ?_ told other
  · intro already
    cases action <;> simp [perform, already]
  · cases move <;> simp_all [perform, Stage.hasCancelled]

theorem Move.marked (move : s.Move party action stage)
    (marked : ∀ party, (s.stage party).hasMarked = true → s.resolver.isShutDown = true) (other : Party) :
    ((s.perform party action stage).stage other).hasMarked = true →
      (s.perform party action stage).resolver.isShutDown = true := by
  refine @perform_keeps s party action stage Stage.hasMarked (·.resolver.isShutDown) ?_ ?_ marked other
  · intro already
    cases action <;> simp [perform, Action.change, already]
  · cases move <;> simp_all [perform, Action.change, Stage.hasMarked]

theorem Coherent.step (coherent : s.Coherent pipeline turns) (step : s.Step event next) :
    next.Coherent pipeline (turns ++ event.action.completes?.toList) := by
  cases step with
  | mk move =>
    constructor
    · exact (event.action.change_pipeline s.resolver).trans coherent.same
    · exact move.lockAgrees coherent.lock
    · exact move.reflects coherent
    · exact move.unscheduled coherent
    · exact move.told coherent.told
    · exact move.marked coherent.marked

theorem Coherent.runs (coherent : s.Coherent pipeline turns) (runs : s.Runs trace after) :
    after.Coherent pipeline (turns ++ Event.completed trace) := by
  induction runs with
  | still => simpa [Event.completed] using coherent
  | snoc _ step ih =>
    rw [Event.completed_snoc, ← List.append_assoc]
    exact ih.step step

theorem Coherent.start {first : Turn} {resolver : Resolver}
    (started : (Resolver.start pipeline first.readings first.jitter first.surroundings).resolver =
      .ok resolver) : (ofResolver resolver).Coherent pipeline [first] := by
  have idle : ∀ party, (ofResolver resolver).stage party = .idle ∨
      (ofResolver resolver).stage party = .finished := by
    intro party
    cases party with
    | call number => exact .inl rfl
    | timer =>
      unfold ofResolver
      dsimp only
      split
      · exact .inl rfl
      · exact .inr rfl
  rw [Resolver.start_ok started] at idle ⊢
  constructor
  · rfl
  · intro party
    rcases idle party with none | none <;> rw [none] <;> simp [Stage.holdsLock, ofResolver]
  · exact fun _ => rfl
  · nofun
  · intro party past
    rcases idle party with none | none <;> rw [none] at past <;> cases past
  · intro party past
    rcases idle party with none | none <;> rw [none] at past <;> cases past

/-- What is seen of a resolver, apart from its schedule, is what its cycles left; unless one is in
    progress. -/
theorem Coherent.settled (coherent : s.Coherent pipeline turns)
    (quiet : ∀ party, (s.stage party).inCycle = false) :
    s.resolver.state.unscheduled = (pipeline.after turns).unscheduled := by
  cases shut : s.resolver.isShutDown with
  | true => exact (coherent.closed shut).1
  | false =>
    have outside : s.current.inCycle = false := by
      unfold current
      cases s.lock with
      | none => rfl
      | some party => exact quiet party
    have same := (Stage.reflects_of_not_inCycle outside).mp (coherent.running shut)
    rw [same]

theorem Coherent.inCycle_unique (coherent : s.Coherent pipeline turns) {other : Party}
    (first : (s.stage party).inCycle = true) (second : (s.stage other).inCycle = true) :
    party = other := by
  have left := (coherent.lock party).mp (Stage.holdsLock_of_inCycle first)
  have right := (coherent.lock other).mp (Stage.holdsLock_of_inCycle second)
  exact Option.some.inj (left.symm.trans right)

theorem Runs.lock_eq {resolver : Resolver} (runs : (ofResolver resolver).Runs trace s) :
    s.lock = Event.holder trace := by
  induction runs with
  | still => rfl
  | snoc _ step ih =>
    rw [Event.holder_snoc, ← ih]
    cases step
    rfl

theorem Move.holdsLock_of_isOfCycle (move : s.Move party action stage)
    (cycle : action.isOfCycle = true) : (s.stage party).holdsLock = true := by
  cases move with
  | begin here | fetch here | store here | record here => rw [here]; rfl
  | _ => cases cycle

theorem Move.free_of_acquire (move : s.Move party .acquire stage) : s.lock = none := by
  cases move with
  | acquire _ free => exact free
  | lock _ free => exact free

theorem Move.cameBy {number : Nat} (move : s.Move (.call number) action stage) {own : List Action}
    (past : (s.stage (.call number)).CameBy s.resolver.id own) :
    stage.CameBy s.resolver.id (own ++ [action]) := by
  cases move with
  | record stored =>
    rw [stored] at past
    obtain ⟨outcome, rfl⟩ := past
    exact ⟨outcome, rfl⟩
  | answer recorded =>
    rw [recorded] at past
    obtain ⟨outcome, rfl⟩ := past
    exact .inr ⟨_, outcome, _, rfl, rfl⟩
  | _ => simp_all [Stage.CameBy]

theorem Step.cameBy (step : s.Step event next) {number : Nat}
    (past : (s.stage (.call number)).CameBy s.resolver.id (Event.own (.call number) trace)) :
    (next.stage (.call number)).CameBy s.resolver.id
      (Event.own (.call number) (trace ++ [event])) := by
  rcases event with ⟨party, action⟩
  cases step with
  | @mk stage move =>
    by_cases same : party = .call number
    · subst same
      rw [perform_stage_self, Event.own_snoc_self]
      exact move.cameBy past
    · rw [s.perform_stage_other (Ne.symm same), Event.own_snoc_other same]
      exact past

theorem Coherent.runs_cameBy (coherent : s.Coherent pipeline turns)
    (fresh : ∀ number, s.stage (.call number) = .idle) (runs : s.Runs trace after) (number : Nat) :
    (after.stage (.call number)).CameBy pipeline.settings.id (Event.own (.call number) trace) := by
  induction runs with
  | still =>
    rw [fresh]
    rfl
  | snoc runs step ih =>
    have same := (coherent.runs runs).same
    rw [← same] at ih ⊢
    exact step.cameBy ih

/-- A cycle that is put on record ended as it would have after the cycles before it, had it run alone. -/
theorem Coherent.ending_of_record (coherent : s.Coherent pipeline turns) {turn : Turn} {ending : Ending}
    (step : s.Step ⟨party, .record turn ending⟩ next) :
    ending = pipeline.ending turn.readings (pipeline.fetchIn (pipeline.after turns) turn) := by
  cases step with
  | mk move =>
    cases move with
    | record stored =>
      have running : s.resolver.isShutDown = false := by
        cases shut : s.resolver.isShutDown with
        | false => rfl
        | true =>
          have idle := coherent.idle_of_isShutDown shut party
          rw [stored] at idle
          cases idle
      exact (coherent.reflects_at running stored rfl).2

theorem Coherent.answered (coherent : s.Coherent pipeline turns)
    (fresh : ∀ number, s.stage (.call number) = .idle) (runs : s.Runs trace after) {number : Nat}
    {answer : Except MetadataError Unit} (answered : after.stage (.call number) = .answered answer) :
    answer = .error (.shutDown pipeline.settings.id) ∨
      ∃ turn outcome ending earlier later,
        Event.own (.call number) trace =
          [.refresh, .acquire, .enter, .begin turn, .fetch, .store turn outcome, .record turn ending,
            .release] ∧
        trace = earlier ++ ⟨.call number, .record turn ending⟩ :: later ∧
        answer = (Resolver.refresh ⟨pipeline, pipeline.after (turns ++ Event.completed earlier), false⟩
          turn.readings turn.jitter turn.surroundings).outcome := by
  have past := coherent.runs_cameBy fresh runs number
  rw [answered] at past
  rcases past with refused | ⟨turn, outcome, ending, same, own⟩
  · exact .inl refused
  · have recorded : Action.record turn ending ∈ Event.own (.call number) trace := by
      rw [own]
      simp
    obtain ⟨event, member, named⟩ := List.mem_map.mp recorded
    obtain ⟨present, mine⟩ := List.mem_filter.mp member
    have made : event = ⟨.call number, .record turn ending⟩ := by
      rcases event with ⟨party, action⟩
      simp_all
    rw [made] at present
    obtain ⟨earlier, later, split⟩ := List.append_of_mem present
    refine .inr ⟨turn, outcome, ending, earlier, later, own, split, ?_⟩
    rw [split] at runs
    obtain ⟨before, next, first, step, _⟩ := runs.at_event
    have ended := (coherent.runs first).ending_of_record step
    rw [Resolver.refresh_outcome rfl, ← ended]
    exact same

end Shared

end Federation
