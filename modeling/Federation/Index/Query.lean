import Federation.Criteria
import Federation.Index.Basic

namespace Federation

structure Query where
  index : Index
  criteria : CriteriaSet
  now : Instant
  candidates : List Entity

namespace Index

/-- The entities that can meet a set of criteria. The empty set is met by none. -/
def candidates (index : Index) (criteria : CriteriaSet) : List Entity :=
  if criteria.isEmpty then []
  else
    match criteria.entityIds with
    | id :: _ => index.byId[id]?.toList
    | [] =>
      match criteria.roles with
      | kind :: _ => (index.byRole.getD kind #[]).toList
      | [] => index.entities

def query (index : Index) (criteria : CriteriaSet) (now : Instant) : Query :=
  ⟨index, criteria, now, index.candidates criteria⟩

end Index

namespace Query

def accepts (query : Query) (entity : Entity) : Bool :=
  query.index.isCurrent entity.entityId query.now && entity.meets query.criteria

def firstAccepted (query : Query) : List Entity → Option Entity × List Entity
  | [] => (none, [])
  | entity :: rest => if query.accepts entity then (some entity, rest) else query.firstAccepted rest

def next (query : Query) : Option Entity × Query :=
  let (found, rest) := query.firstAccepted query.candidates
  (found, { query with candidates := rest })

def toList (query : Query) : List Entity := query.candidates.filter query.accepts

theorem firstAccepted_toList (query : Query) (candidates : List Entity) :
    candidates.filter query.accepts =
      (query.firstAccepted candidates).1.toList ++
        (query.firstAccepted candidates).2.filter query.accepts := by
  induction candidates with
  | nil => simp [firstAccepted]
  | cons entity rest ih =>
    by_cases accepted : query.accepts entity = true
    · simp [firstAccepted, accepted]
    · simp [firstAccepted, accepted, ih]

theorem toList_next (query : Query) : query.toList = query.next.1.toList ++ query.next.2.toList :=
  firstAccepted_toList query query.candidates

end Query

end Federation
