import Federation.Resolver.Basic

namespace Federation

structure TimedResolver where
  resolver : Resolver
  elapsed : Nat
  deadline : Option Nat

namespace TimedResolver

def ofResolver (resolver : Resolver) (firstDelay : Duration) : TimedResolver where
  resolver := resolver
  elapsed := 0
  deadline :=
    if resolver.pipeline.settings.background then some firstDelay.nanoseconds else none

def refresh (timed : TimedResolver) (readings : Readings) (jitter : Duration)
    (surroundings : Surroundings) (now : Instant) : Resolver.Refreshed × TimedResolver :=
  let refreshed := timed.resolver.refresh readings jitter surroundings
  let resolver := refreshed.resolver
  let deadline :=
    if resolver.isShutDown then timed.deadline
    else timed.deadline.map fun _ => timed.elapsed + (resolver.pendingDelay now).nanoseconds
  (refreshed, { timed with resolver, deadline })

def shutDown (timed : TimedResolver) : TimedResolver :=
  { timed with resolver := timed.resolver.shutDown, deadline := none }

def runDue (resolver : Resolver) (deadline finish : Nat) (readings : Readings)
    (surroundings : Surroundings) : Resolver × Nat × Storage :=
  if _due : deadline ≤ finish then
    let cycle := resolver.pipeline.runCycle readings .zero surroundings resolver.state
    let delay := cycle.delay resolver.pipeline
    have _progress : 0 < delay.nanoseconds :=
      resolver.pipeline.runCycle_delay_pos readings .zero surroundings resolver.state
    runDue { resolver with state := cycle.state } (deadline + delay.nanoseconds) finish readings
      { surroundings with files := cycle.files }
  else (resolver, deadline, surroundings.files)
termination_by finish + 1 - deadline
decreasing_by
  simp only [delay, cycle] at _progress
  omega

def pass (timed : TimedResolver) (time : Duration) (readings : Readings)
    (surroundings : Surroundings) : TimedResolver × Storage :=
  let finish := timed.elapsed + time.nanoseconds
  match timed.deadline with
  | none => ({ timed with elapsed := finish }, surroundings.files)
  | some deadline =>
    let (resolver, deadline, files) :=
      runDue timed.resolver deadline finish readings surroundings
    (⟨resolver, finish, some deadline⟩, files)

end TimedResolver

end Federation
