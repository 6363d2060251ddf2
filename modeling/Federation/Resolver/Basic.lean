import Federation.Cycle

namespace Federation

structure Resolver where
  pipeline : Pipeline
  state : State
  isShutDown : Bool

namespace Resolver

def id (resolver : Resolver) : String := resolver.pipeline.settings.id

structure Started where
  resolver : Except MetadataError Resolver
  delay : Duration
  files : Storage

def start (pipeline : Pipeline) (readings : Readings) (jitter : Duration)
    (surroundings : Surroundings) : Started :=
  let cycle := pipeline.runCycle readings jitter surroundings .start
  let resolver : Resolver := ⟨pipeline, cycle.state, false⟩
  let outcome := match cycle.outcome with
    | .ok _ => .ok resolver
    | .error error =>
      if pipeline.settings.failsFast then .error (.initialization resolver.id error) else .ok resolver
  ⟨outcome, cycle.delay pipeline, cycle.files⟩

structure Refreshed where
  outcome : Except MetadataError Unit
  resolver : Resolver
  files : Storage

def refresh (resolver : Resolver) (readings : Readings) (jitter : Duration)
    (surroundings : Surroundings) : Refreshed :=
  if resolver.isShutDown then
    ⟨.error (.shutDown resolver.id), resolver, surroundings.files⟩
  else
    let cycle := resolver.pipeline.runCycle readings jitter surroundings resolver.state
    let outcome := match cycle.outcome with
      | .ok _ => .ok ()
      | .error error => .error (.refresh resolver.id error)
    ⟨outcome, { resolver with state := cycle.state }, cycle.files⟩

def shutDown (resolver : Resolver) : Resolver :=
  if resolver.isShutDown then resolver
  else { resolver with isShutDown := true, state := { resolver.state with nextRefresh := none } }

def pendingDelay (resolver : Resolver) (now : Instant) : Duration :=
  (resolver.state.nextRefresh.bind (·.since? now)).getD .zero

def resolve (resolver : Resolver) (criteria : CriteriaSet) (now : Instant) :
    Except MetadataError Query := do
  criteria.ensureNotEmpty
  return resolver.state.index.query criteria now

/-- The one entity that meets the criteria, if there is one. If they name no identifier, there must
    not be several. -/
def resolveSingle (resolver : Resolver) (criteria : CriteriaSet) (now : Instant) :
    Except MetadataError (Option Entity) := do
  let (first, rest) := (← resolver.resolve criteria now).next
  let others := rest.toList.length
  if first.isSome && !criteria.hasEntityId && 0 < others then
    .error (.ambiguousMatch (others + 1))
  else return first

end Resolver

end Federation
