import Federation.Proofs.Cycle.History
import Federation.Proofs.Time.Elapsed

namespace Federation

namespace Pipeline

variable (pipeline : Pipeline) (readings : Readings) (jitter : Duration) (surroundings : Surroundings)
  (state : State)

theorem confirm_nextRefresh :
    (pipeline.confirm readings jitter state).nextRefresh =
      pipeline.dueAfter readings.scheduled
        (pipeline.delayAfter readings jitter state.expiration) := by
  unfold confirm
  cases state.index.withoutExpired? readings.published <;> rfl

theorem complete_nextRefresh (outcome : Except MetadataError FetchOutcome) (files : Storage) :
    let completed := pipeline.complete readings jitter outcome state
    completed.2.nextRefresh =
      pipeline.dueAfter readings.scheduled (Cycle.delay pipeline ⟨completed.1, completed.2, files⟩) := by
  dsimp only
  rcases pipeline.complete_cases readings jitter outcome state with
    ⟨error, reads, _, done⟩ | ⟨_, done⟩ | ⟨fetched, publication, _, done⟩
  · rw [done]
    rfl
  · rw [done]
    exact pipeline.confirm_nextRefresh readings jitter state
  · rw [done]
    rfl

theorem runCycle_nextRefresh :
    let cycle := pipeline.runCycle readings jitter surroundings state
    cycle.state.nextRefresh = pipeline.dueAfter readings.scheduled (cycle.delay pipeline) :=
  pipeline.complete_nextRefresh readings jitter state _ _

def Cycle.leastDelay (pipeline : Pipeline) (cycle : Cycle) : Duration :=
  match cycle.outcome with
  | .ok _ => pipeline.settings.minDelay
  | .error _ => pipeline.settings.failureDelay

theorem Cycle.leastDelay_pos (cycle : Cycle) : Duration.zero < cycle.leastDelay pipeline := by
  unfold leastDelay
  split
  · exact pipeline.settings.minDelay_pos
  · exact pipeline.settings.failureDelay_pos

theorem leastDelay_le_delay :
    let cycle := pipeline.runCycle readings jitter surroundings state
    cycle.leastDelay pipeline ≤ cycle.delay pipeline := by
  intro cycle
  unfold Cycle.leastDelay Cycle.delay
  cases done : cycle.outcome with
  | ok delay =>
    obtain ⟨expiration, rfl⟩ := runCycle_ok done
    exact pipeline.minDelay_le_delayAfter readings jitter expiration
  | error failure => exact Nat.le_refl _

end Pipeline

namespace Resolver

variable {resolver : Resolver} {scheduled now : Instant} {delay elapsed : Duration}

theorem pendingDelay_of_none (unset : resolver.state.nextRefresh = none) (now : Instant) :
    resolver.pendingDelay now = .zero := by
  unfold pendingDelay
  rw [unset]
  rfl

theorem pendingDelay_of_after (plain : scheduled.IsPlain) {due : Instant}
    (set : resolver.state.nextRefresh = some due) (reached : scheduled.after? delay = some due)
    (later : scheduled.after? elapsed = some now) : resolver.pendingDelay now = delay - elapsed := by
  obtain ⟨duePlain, dueAt⟩ := (Instant.after?_eq_some_iff plain).mp reached
  obtain ⟨nowPlain, nowAt⟩ := (Instant.after?_eq_some_iff plain).mp later
  apply Duration.ext
  unfold pendingDelay
  rw [set, Option.bind_some, Instant.since?_getD duePlain nowPlain, Duration.sub_nanoseconds]
  omega

end Resolver

namespace TimedResolver

structure Wait where
  time : Duration
  readings : Readings
  surroundings : Surroundings

def Wait.total : List Wait → Nat
  | [] => 0
  | first :: rest => first.time.nanoseconds + total rest

def wait (timed : TimedResolver) (waits : List Wait) : TimedResolver :=
  waits.foldl (fun timed wait => (timed.pass wait.time wait.readings wait.surroundings).1) timed

theorem runDue_early {deadline finish : Nat} (early : finish < deadline) (resolver : Resolver)
    (readings : Readings) (surroundings : Surroundings) :
    runDue resolver deadline finish readings surroundings =
      (resolver, deadline, surroundings.files) := by
  unfold runDue
  rw [dif_neg (Nat.not_le_of_lt early)]

theorem runDue_due {deadline finish : Nat} (due : deadline ≤ finish) (resolver : Resolver)
    (readings : Readings) (surroundings : Surroundings) :
    let cycle := resolver.pipeline.runCycle readings .zero surroundings resolver.state
    runDue resolver deadline finish readings surroundings =
      runDue { resolver with state := cycle.state }
        (deadline + (cycle.delay resolver.pipeline).nanoseconds) finish readings
        { surroundings with files := cycle.files } := by
  intro cycle
  rw [runDue, dif_pos due]

variable {timed : TimedResolver} {start : Nat}

theorem pass_early (set : timed.deadline = some start) {time : Duration}
    (early : timed.elapsed + time.nanoseconds < start) (readings : Readings)
    (surroundings : Surroundings) :
    (timed.pass time readings surroundings).1 =
      { timed with elapsed := timed.elapsed + time.nanoseconds } := by
  obtain ⟨resolver, elapsed, deadline⟩ := timed
  cases set
  unfold pass
  dsimp only
  rw [runDue_early early]

/-- No cycle runs before the timer's time, however the time until then is divided. -/
theorem wait_early (set : timed.deadline = some start) {waits : List Wait}
    (early : timed.elapsed + Wait.total waits < start) :
    timed.wait waits = { timed with elapsed := timed.elapsed + Wait.total waits } := by
  induction waits generalizing timed with
  | nil => rfl
  | cons first rest ih =>
    unfold Wait.total at early ⊢
    have passed := pass_early set (by omega : timed.elapsed + first.time.nanoseconds < start)
      first.readings first.surroundings
    have later : { timed with elapsed := timed.elapsed + first.time.nanoseconds }.wait rest =
        { timed with elapsed := timed.elapsed + first.time.nanoseconds + Wait.total rest } :=
      ih set (by change timed.elapsed + first.time.nanoseconds + Wait.total rest < start; omega)
    rw [Nat.add_assoc] at later
    exact (congrArg (TimedResolver.wait · rest) passed).trans later

theorem lt_runDue (resolver : Resolver) (deadline finish : Nat) (readings : Readings)
    (surroundings : Surroundings) :
    finish < (runDue resolver deadline finish readings surroundings).2.1 := by
  induction resolver, deadline, surroundings using runDue.induct finish readings with
  | case1 resolver deadline surroundings due cycle delay progress =>
    rename_i ih
    rw [runDue_due due]
    exact ih
  | case2 resolver deadline surroundings done =>
    have early := Nat.lt_of_not_le done
    rw [runDue_early early]
    exact early

/-- Every cycle of a resolver that is not shut down leaves the next refresh on the schedule just if the
    instant its delay later is in range, and just then the time left to it is what is left of this delay,
    and the timer, which a refresh on demand sets anew, runs no cycle before the least delay is over. If the
    instant is out of range, no time is left at all, and the timer fires at once. -/
theorem reschedules_iff {pipeline : Pipeline} (background : pipeline.settings.background = true)
    (state : State) {turn : Turn} (plain : turn.readings.scheduled.IsPlain) (clock deadline : Nat) :
    let cycle := pipeline.runCycle turn.readings turn.jitter turn.surroundings state
    let resolver : Resolver := ⟨pipeline, cycle.state, false⟩
    let timed : TimedResolver := ⟨⟨pipeline, state, false⟩, clock, some deadline⟩
    let refreshed (now : Instant) := (timed.refresh turn.readings turn.jitter turn.surroundings now).2
    let InRange :=
      turn.readings.scheduled.sinceEpoch + (cycle.delay pipeline).nanoseconds ≤ Instant.lastNanosecond
    (resolver.state.nextRefresh.isSome = true ↔ InRange) ∧
    ((∀ elapsed now, turn.readings.scheduled.after? elapsed = some now →
      resolver.pendingDelay now = cycle.delay pipeline - elapsed) ↔ InRange) ∧
    ((∀ elapsed now, turn.readings.scheduled.after? elapsed = some now → ∀ waits,
      elapsed.nanoseconds + Wait.total waits < (cycle.leastDelay pipeline).nanoseconds →
      (refreshed now).wait waits = { refreshed now with elapsed := clock + Wait.total waits }) ↔
        InRange) ∧
    (¬ InRange → ∀ now, resolver.pendingDelay now = .zero ∧ (refreshed now).deadline = some clock) := by
  intro cycle resolver timed refreshed InRange
  have next : resolver.state.nextRefresh = turn.readings.scheduled.after? (cycle.delay pipeline) := by
    have set := pipeline.runCycle_nextRefresh turn.readings turn.jitter turn.surroundings state
    exact set.trans (if_pos background)
  have isSet : resolver.state.nextRefresh.isSome = true ↔ InRange := by
    rw [next]
    exact Instant.after?_isSome_iff plain
  have left (within : InRange) : ∀ elapsed now, turn.readings.scheduled.after? elapsed = some now →
      resolver.pendingDelay now = cycle.delay pipeline - elapsed := by
    intro elapsed now later
    obtain ⟨due, set⟩ := Option.isSome_iff_exists.mp (isSet.mpr within)
    exact Resolver.pendingDelay_of_after plain set (next.symm.trans set) later
  have none (outside : ¬ InRange) : ∀ now, resolver.pendingDelay now = .zero := by
    apply Resolver.pendingDelay_of_none
    rw [← Option.not_isSome_iff_eq_none, isSet]
    exact outside
  have set : ∀ now, refreshed now =
      ⟨resolver, clock, some (clock + (resolver.pendingDelay now).nanoseconds)⟩ := fun _ => rfl
  have least : (cycle.leastDelay pipeline).nanoseconds ≤ (cycle.delay pipeline).nanoseconds :=
    pipeline.leastDelay_le_delay turn.readings turn.jitter turn.surroundings state
  have positive : 0 < (cycle.delay pipeline).nanoseconds :=
    pipeline.runCycle_delay_pos turn.readings turn.jitter turn.surroundings state
  have atOnce := Instant.after?_zero plain
  refine ⟨isSet, ⟨?_, left⟩, ⟨?_, ?_⟩, fun outside now => ⟨none outside now, ?_⟩⟩
  · intro all
    by_contra outside
    have whole := congrArg Duration.nanoseconds ((none outside _).symm.trans (all .zero _ atOnce))
    rw [Duration.sub_nanoseconds, Duration.zero_nanoseconds] at whole
    omega
  · intro quiet
    by_contra outside
    -- Even no time at all is too long then: the timer fires, and is set to a later time.
    let still : Wait := ⟨.zero, turn.readings, turn.surroundings⟩
    have same := quiet .zero _ atOnce [still] (cycle.leastDelay_pos pipeline)
    have fired := lt_runDue resolver clock clock turn.readings turn.surroundings
    rw [set, none outside] at same
    have deadlines := Option.some.inj (congrArg TimedResolver.deadline same)
    change (runDue resolver clock clock turn.readings turn.surroundings).2.1 = clock at deadlines
    omega
  · intro within elapsed now later waits early
    rw [set]
    apply wait_early rfl
    rw [left within elapsed now later]
    simp only [Duration.sub_nanoseconds]
    omega
  · rw [set, none outside]
    rfl

theorem reschedules_iff_published :
    let pipeline := Pipeline.plain (.file "md") fun _ => .ok (.group .empty)
    let surroundings : Surroundings :=
      ⟨⟨[(["md"], .file ⟨[1], 5, true⟩)]⟩, fun _ => .unanswered, true⟩
    let turn : Turn := ⟨.still .epoch, .zero, surroundings⟩
    let later : Instant := ⟨60, 0, by decide, by decide, by decide⟩
    pipeline.settings.background = true ∧ turn.readings.scheduled.IsPlain ∧
      Resolver.pendingDelay ⟨pipeline, pipeline.next .start turn, false⟩ later =
        Settings.defaultMaxDelay - .ofSeconds 60 := by
  intro pipeline surroundings turn later
  have plain : turn.readings.scheduled.IsPlain := by decide
  have delay : (pipeline.runCycle turn.readings turn.jitter turn.surroundings .start).delay pipeline =
      Settings.defaultMaxDelay := rfl
  obtain ⟨_, left, _⟩ := @reschedules_iff pipeline rfl .start turn plain 0 0
  refine ⟨rfl, plain, ?_⟩
  rw [← delay]
  exact left.mpr (by rw [delay]; decide) (.ofSeconds 60) later (by decide)

/-- The least delay is the longest duration there is. A refresh on demand fails, and the next cycle runs at
    once. -/
theorem longest_delay_fires_at_once :
    let longest := Duration.ofSeconds 0xFFFFFFFFFFFFFFFF
    let defaults := Pipeline.plain (.file "md") fun _ => .error (.parse "Metadata document is empty")
    let settings : Settings :=
      { defaults.settings with
        failsFast := false, minDelay := longest, maxDelay := longest, failureDelay := longest
        minDelay_pos := by decide, minDelay_le := by decide
        failureDelay_pos := by decide, failureDelay_le := by decide }
    let pipeline := { defaults with settings }
    let turn : Turn := ⟨.still .epoch, .zero,
      ⟨⟨[(["md"], .file ⟨[1], 5, true⟩)]⟩, fun _ => .unanswered, true⟩⟩
    let started := Resolver.start pipeline turn.readings turn.jitter turn.surroundings
    let resolver : Resolver := ⟨pipeline, pipeline.next .start turn, false⟩
    let refreshed := ((ofResolver resolver started.delay).refresh turn.readings turn.jitter
      turn.surroundings .epoch).2
    started.resolver = .ok resolver ∧ started.delay = longest ∧
      refreshed.resolver.state.nextRefresh = none ∧
      refreshed.resolver.pendingDelay .epoch = .zero ∧ refreshed.resolver.state.reads = 2 ∧
      (refreshed.wait [⟨.zero, turn.readings, turn.surroundings⟩]).resolver.state.reads = 3 := by
  intro longest defaults settings pipeline turn started resolver refreshed
  refine ⟨rfl, rfl, rfl, rfl, rfl, ?_⟩
  have fires : (refreshed.wait [⟨.zero, turn.readings, turn.surroundings⟩]).resolver =
      (runDue refreshed.resolver 0 0 turn.readings turn.surroundings).1 := rfl
  have later := refreshed.resolver.pipeline.runCycle_delay_pos turn.readings .zero turn.surroundings
    refreshed.resolver.state
  rw [Duration.lt_def, Duration.zero_nanoseconds] at later
  rw [fires, runDue_due (Nat.le_refl 0), Nat.zero_add, runDue_early later]
  rfl

end TimedResolver

end Federation
