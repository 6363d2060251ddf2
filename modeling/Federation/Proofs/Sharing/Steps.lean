import Mathlib.Logic.Function.Basic
import Federation.Proofs.Cycle.History

/-!
A resolver that several parties share: any number of calls, which refresh, shut down or search, and the
timer. A party takes one step at a time, and steps of different parties come in any order. A cycle is
run under a lock, in four steps that others may come between.
-/

namespace Federation

namespace State

def attempt (state : State) (turn : Turn) : State :=
  { state with lastAttempt := some turn.readings.started }

def countRead (state : State) : Except MetadataError FetchOutcome → State
  | .ok (.fetched _) => { state with reads := state.reads + 1 }
  | _ => state

def unscheduled (state : State) : State := { state with nextRefresh := none }

theorem served_of_unscheduled {left right : State} (same : left.unscheduled = right.unscheduled) :
    left.served = right.served ∧ left.lastFailure = right.lastFailure := by
  have served := congrArg State.served same
  have lastFailure := congrArg State.lastFailure same
  exact ⟨served, lastFailure⟩

end State

namespace Ending

def store (ending : Ending) (now : Instant) (state : State) : State :=
  match ending with
  | failed _ => state
  | confirmed =>
    match state.index.withoutExpired? now with
    | some index => { state with index, edition := state.edition + 1 }
    | none => state
  | published fetched publication =>
    { state with
      index := publication.index
      edition := state.edition + 1
      validators := fetched.validators
      expiration := publication.expiration }

def answer (id : String) : Ending → Except MetadataError Unit
  | failed error => .error (.refresh id error)
  | _ => .ok ()

end Ending

namespace Pipeline

def store (pipeline : Pipeline) (turn : Turn) (outcome : Except MetadataError FetchOutcome)
    (state : State) : State :=
  (pipeline.ending turn.readings outcome).store turn.readings.published (state.countRead outcome)

def record (pipeline : Pipeline) (turn : Turn) (ending : Ending) (state : State) : State :=
  match ending with
  | .failed error => pipeline.fail turn.readings error state
  | .confirmed => pipeline.succeed turn.readings turn.jitter { state with isDegraded := false }
  | .published fetched _ =>
    pipeline.succeed turn.readings turn.jitter
      { state with isDegraded := fetched.origin == .backup }

theorem next_eq_steps (pipeline : Pipeline) (state : State) (turn : Turn) :
    pipeline.next state turn =
      pipeline.record turn (pipeline.ending turn.readings (pipeline.fetchIn state turn))
        (pipeline.store turn (pipeline.fetchIn state turn) (state.attempt turn)) := by
  change (pipeline.complete turn.readings turn.jitter (pipeline.fetchIn state turn) state).2 = _
  rcases pipeline.fetchIn state turn with failure | fetched | _
  · rfl
  · unfold complete record store ending
    dsimp only
    cases pipeline.publication turn.readings fetched.bytes <;> rfl
  · unfold complete confirm record store ending Ending.store State.countRead State.attempt
    dsimp only
    cases state.index.withoutExpired? turn.readings.published <;> rfl

end Pipeline

theorem Resolver.refresh_outcome {resolver : Resolver} (running : resolver.isShutDown = false)
    (turn : Turn) :
    (resolver.refresh turn.readings turn.jitter turn.surroundings).outcome =
      (resolver.pipeline.ending turn.readings (resolver.pipeline.fetchIn resolver.state turn)).answer
        resolver.id := by
  unfold refresh
  rw [running, if_neg Bool.false_ne_true]
  have completed : (resolver.pipeline.runCycle turn.readings turn.jitter turn.surroundings
      resolver.state).outcome = (resolver.pipeline.complete turn.readings turn.jitter
        (resolver.pipeline.fetchIn resolver.state turn) resolver.state).1 := rfl
  dsimp only
  rw [completed]
  rcases resolver.pipeline.complete_cases turn.readings turn.jitter
    (resolver.pipeline.fetchIn resolver.state turn) resolver.state with
    ⟨_, _, ended, done⟩ | ⟨ended, done⟩ | ⟨_, _, ended, done⟩ <;> rw [ended, done] <;> rfl

inductive Party where
  | call (number : Nat)
  | timer
deriving DecidableEq

inductive Stage where
  | idle
  | queued
  | admitted
  | permitted
  | begun (turn : Turn)
  | fetched (turn : Turn) (outcome : Except MetadataError FetchOutcome)
  | stored (turn : Turn) (ending : Ending)
  | recorded (turn : Turn) (ending : Ending)
  | answered (answer : Except MetadataError Unit)
  | found (answer : Except MetadataError Query)
  | stopping
  | cancelled
  | locked
  | marked
  | unlocked
  | joining
  | ended
  | finished

inductive Action where
  | refresh
  | shutDown
  | search (criteria : CriteriaSet) (now : Instant)
  | fire
  | stop
  | acquire
  | release
  | enter
  | refuse
  | begin (turn : Turn)
  | fetch
  | store (turn : Turn) (outcome : Except MetadataError FetchOutcome)
  | record (turn : Turn) (ending : Ending)
  | cancel
  | mark
  | clear
  | join

namespace Stage

def holdsLock : Stage → Bool
  | admitted | permitted | begun _ | fetched _ _ | stored _ _ | recorded _ _ | locked | marked => true
  | _ => false

def inCycle : Stage → Bool
  | begun _ | fetched _ _ | stored _ _ => true
  | _ => false

end Stage

namespace Action

def isCall : Action → Bool
  | refresh | shutDown | search _ _ => true
  | _ => false

def isOfCycle : Action → Bool
  | begin _ | fetch | store _ _ | record _ _ => true
  | _ => false

def completes? : Action → Option Turn
  | record turn _ => some turn
  | _ => none

def change (action : Action) (resolver : Resolver) : Resolver :=
  match action with
  | begin turn => { resolver with state := resolver.state.attempt turn }
  | store turn outcome => { resolver with state := resolver.pipeline.store turn outcome resolver.state }
  | record turn ending => { resolver with state := resolver.pipeline.record turn ending resolver.state }
  | mark => { resolver with isShutDown := true }
  | clear => { resolver with state := resolver.state.unscheduled }
  | _ => resolver

theorem change_pipeline (action : Action) (resolver : Resolver) :
    (action.change resolver).pipeline = resolver.pipeline := by
  cases action <;> rfl

def holder (action : Action) (party : Party) (lock : Option Party) : Option Party :=
  match action with
  | acquire => some party
  | release | refuse => none
  | _ => lock

end Action

structure Shared where
  resolver : Resolver
  isCancelled : Bool
  lock : Option Party
  stage : Party → Stage

namespace Shared

def ofResolver (resolver : Resolver) : Shared where
  resolver := resolver
  isCancelled := false
  lock := none
  stage
    | .call _ => .idle
    | .timer => if resolver.pipeline.settings.background then .idle else .finished

def perform (s : Shared) (party : Party) (action : Action) (stage : Stage) : Shared where
  resolver := action.change s.resolver
  isCancelled := match action with
    | .cancel => true
    | _ => s.isCancelled
  lock := action.holder party s.lock
  stage := Function.update s.stage party stage

/-- What a party can do next, and the stage it comes to. A refresh looks only whether the resolver is
    shut down; the timer looks also whether it was told to end, before it fires and once it has the lock.
    It fires at any time, as calls set it anew. -/
inductive Move (s : Shared) : Party → Action → Stage → Prop where
  | refresh {number : Nat} (idle : s.stage (.call number) = .idle) : Move s (.call number) .refresh .queued
  | shutDown {number : Nat} (idle : s.stage (.call number) = .idle) :
    Move s (.call number) .shutDown .stopping
  | search {number : Nat} (idle : s.stage (.call number) = .idle) (criteria : CriteriaSet)
    (now : Instant) :
    Move s (.call number) (.search criteria now) (.found (s.resolver.resolve criteria now))
  | fire (idle : s.stage .timer = .idle) (running : s.isCancelled = false) : Move s .timer .fire .queued
  | stop (idle : s.stage .timer = .idle) (told : s.isCancelled = true) : Move s .timer .stop .finished
  | acquire {party : Party} (queued : s.stage party = .queued) (free : s.lock = none) :
    Move s party .acquire .admitted
  | enter {party : Party} (admitted : s.stage party = .admitted)
    (running : s.resolver.isShutDown = false) (untold : party = .timer → s.isCancelled = false) :
    Move s party .enter .permitted
  | refuse {number : Nat} (admitted : s.stage (.call number) = .admitted)
    (closed : s.resolver.isShutDown = true) :
    Move s (.call number) .refuse (.answered (.error (.shutDown s.resolver.id)))
  | giveUp (admitted : s.stage .timer = .admitted)
    (closed : s.resolver.isShutDown = true ∨ s.isCancelled = true) : Move s .timer .refuse .finished
  | begin {party : Party} (permitted : s.stage party = .permitted) (turn : Turn) :
    Move s party (.begin turn) (.begun turn)
  | fetch {party : Party} {turn : Turn} (begun : s.stage party = .begun turn) :
    Move s party .fetch (.fetched turn (s.resolver.pipeline.fetchIn s.resolver.state turn))
  | store {party : Party} {turn : Turn} {outcome : Except MetadataError FetchOutcome}
    (fetched : s.stage party = .fetched turn outcome) :
    Move s party (.store turn outcome)
      (.stored turn (s.resolver.pipeline.ending turn.readings outcome))
  | record {party : Party} {turn : Turn} {ending : Ending} (stored : s.stage party = .stored turn ending) :
    Move s party (.record turn ending) (.recorded turn ending)
  | answer {number : Nat} {turn : Turn} {ending : Ending}
    (recorded : s.stage (.call number) = .recorded turn ending) :
    Move s (.call number) .release (.answered (ending.answer s.resolver.id))
  | rest {turn : Turn} {ending : Ending} (recorded : s.stage .timer = .recorded turn ending) :
    Move s .timer .release .idle
  | cancel {party : Party} (stopping : s.stage party = .stopping) : Move s party .cancel .cancelled
  | lock {party : Party} (waits : s.stage party = .cancelled) (free : s.lock = none) :
    Move s party .acquire .locked
  | mark {party : Party} (locked : s.stage party = .locked) (running : s.resolver.isShutDown = false) :
    Move s party .mark .marked
  | leave {party : Party} (locked : s.stage party = .locked) (closed : s.resolver.isShutDown = true) :
    Move s party .refuse .ended
  | unlock {party : Party} (marked : s.stage party = .marked) : Move s party .release .unlocked
  | clear {party : Party} (unlocked : s.stage party = .unlocked) : Move s party .clear .joining
  | join {party : Party} (joining : s.stage party = .joining) (finished : s.stage .timer = .finished) :
    Move s party .join .ended

end Shared

structure Event where
  party : Party
  action : Action

namespace Shared

theorem perform_stage_self (s : Shared) (party : Party) (action : Action) (stage : Stage) :
    (s.perform party action stage).stage party = stage :=
  Function.update_self _ _ _

theorem perform_stage_other (s : Shared) {party other : Party} (differs : other ≠ party)
    (action : Action) (stage : Stage) :
    (s.perform party action stage).stage other = s.stage other :=
  Function.update_of_ne differs _ _

inductive Step (s : Shared) (event : Event) : Shared → Prop where
  | mk {stage : Stage} (move : s.Move event.party event.action stage) :
    Step s event (s.perform event.party event.action stage)

inductive Runs (s : Shared) : List Event → Shared → Prop where
  | still : Runs s [] s
  | snoc {trace : List Event} {between after : Shared} {event : Event} (runs : Runs s trace between)
    (step : between.Step event after) : Runs s (trace ++ [event]) after

namespace Runs

theorem append {s between after : Shared} {trace more : List Event} (first : s.Runs trace between)
    (second : between.Runs more after) : s.Runs (trace ++ more) after := by
  induction second with
  | still => rwa [List.append_nil]
  | snoc _ step ih =>
    rw [← List.append_assoc]
    exact ih.snoc step

theorem last {s after : Shared} {trace : List Event} {event : Event}
    (runs : s.Runs (trace ++ [event]) after) :
    ∃ before, s.Runs trace before ∧ before.Step event after := by
  generalize whole : trace ++ [event] = all at runs
  cases runs with
  | still => simp at whole
  | @snoc earlier before _ other first step =>
    obtain ⟨same, one⟩ := List.append_inj' whole rfl
    cases one
    subst same
    exact ⟨before, first, step⟩

theorem split {s after : Shared} {trace more : List Event} (runs : s.Runs (trace ++ more) after) :
    ∃ between, s.Runs trace between ∧ between.Runs more after := by
  induction more using List.reverseRecOn generalizing after with
  | nil =>
    rw [List.append_nil] at runs
    exact ⟨after, runs, .still⟩
  | append_singleton more event ih =>
    rw [← List.append_assoc] at runs
    obtain ⟨before, first, step⟩ := runs.last
    obtain ⟨between, left, right⟩ := ih first
    exact ⟨between, left, right.snoc step⟩

theorem at_event {s after : Shared} {earlier later : List Event} {event : Event}
    (runs : s.Runs (earlier ++ event :: later) after) :
    ∃ before next, s.Runs earlier before ∧ before.Step event next ∧ next.Runs later after := by
  rw [List.append_cons] at runs
  obtain ⟨next, first, rest⟩ := runs.split
  obtain ⟨before, earlier, step⟩ := first.last
  exact ⟨before, next, earlier, step, rest⟩

theorem go {s between : Shared} {trace : List Event} (runs : s.Runs trace between) {party : Party}
    {action : Action} {stage : Stage} (move : between.Move party action stage) :
    s.Runs (trace ++ [⟨party, action⟩]) (between.perform party action stage) :=
  runs.snoc (.mk move)

/-- A call to refresh that nothing comes between does what a refresh does. -/
theorem refresh_alone {s : Shared} {number : Nat} (idle : s.stage (.call number) = .idle)
    (free : s.lock = none) (running : s.resolver.isShutDown = false) (turn : Turn) :
    ∃ trace after, s.Runs trace after ∧ after.lock = none ∧ after.isCancelled = s.isCancelled ∧
      let refreshed := s.resolver.refresh turn.readings turn.jitter turn.surroundings
      after.resolver = refreshed.resolver ∧
        after.stage = Function.update s.stage (.call number) (.answered refreshed.outcome) := by
  have called := still.go (.refresh idle)
  have admitted := called.go (.acquire (perform_stage_self _ _ _ _) free)
  have entered := admitted.go (.enter (perform_stage_self _ _ _ _) running nofun)
  have begun := entered.go (.begin (perform_stage_self _ _ _ _) turn)
  have fetched := begun.go (.fetch (perform_stage_self _ _ _ _))
  have stored := fetched.go (.store (perform_stage_self _ _ _ _))
  have recorded := stored.go (.record (perform_stage_self _ _ _ _))
  have answered := recorded.go (.answer (perform_stage_self _ _ _ _))
  refine ⟨_, _, answered, rfl, rfl, ?_, ?_⟩
  · rw [Resolver.refresh_running running turn, Pipeline.next_eq_steps]
    rfl
  · rw [Resolver.refresh_outcome running turn]
    simp only [perform, Function.update_idem]
    rfl

/-- A call to shut down that only the timer's end comes between does what shutting down does. -/
theorem shutDown_alone {s : Shared} {number : Nat} (idle : s.stage (.call number) = .idle)
    (timer : s.stage .timer = .idle) (free : s.lock = none) (running : s.resolver.isShutDown = false) :
    ∃ trace after, s.Runs trace after ∧ after.lock = none ∧ after.isCancelled = true ∧
      after.resolver = s.resolver.shutDown ∧
        after.stage = Function.update (Function.update s.stage .timer .finished) (.call number) .ended := by
  have called := still.go (.shutDown idle)
  have told := called.go (.cancel (perform_stage_self _ _ _ _))
  have locked := told.go (.lock (perform_stage_self _ _ _ _) free)
  have marked := locked.go (.mark (perform_stage_self _ _ _ _) running)
  have unlocked := marked.go (.unlock (perform_stage_self _ _ _ _))
  have cleared := unlocked.go (.clear (perform_stage_self _ _ _ _))
  have stopped := cleared.go (.stop timer rfl)
  have differs : Party.call number ≠ .timer := nofun
  have joined := stopped.go
    (.join ((perform_stage_other _ differs _ _).trans (perform_stage_self _ _ _ _))
      (perform_stage_self _ _ _ _))
  refine ⟨_, _, joined, rfl, rfl, ?_, ?_⟩
  · unfold Resolver.shutDown
    rw [running, if_neg Bool.false_ne_true]
    rfl
  · simp only [perform, Function.update_idem]
    rw [Function.update_comm differs.symm, Function.update_idem]
    exact Function.update_comm differs _ _ _

end Runs

end Shared

namespace Event

def own (party : Party) (trace : List Event) : List Action :=
  (trace.filter (·.party = party)).map (·.action)

def completed (trace : List Event) : List Turn := trace.filterMap (·.action.completes?)

def holder (trace : List Event) : Option Party :=
  trace.foldl (fun lock event => event.action.holder event.party lock) none

theorem own_snoc_self (trace : List Event) (party : Party) (action : Action) :
    own party (trace ++ [⟨party, action⟩]) = own party trace ++ [action] := by
  simp [own]

theorem own_snoc_other {trace : List Event} {event : Event} {party : Party} (other : event.party ≠ party) :
    own party (trace ++ [event]) = own party trace := by
  simp [own, other]

theorem completed_snoc (trace : List Event) (event : Event) :
    completed (trace ++ [event]) = completed trace ++ event.action.completes?.toList := by
  unfold completed
  rw [List.filterMap_append]
  cases completes : event.action.completes? <;> simp [completes]

theorem holder_snoc (trace : List Event) (event : Event) :
    holder (trace ++ [event]) = event.action.holder event.party (holder trace) := by
  unfold holder
  rw [List.foldl_append]
  rfl

end Event

end Federation
