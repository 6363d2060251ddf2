import Federation.Document.Flatten

namespace Federation

abbrev Keep (σ : Type) := Entity → σ → Option Entity × σ

section

variable {σ : Type}

def retainEntities (keep : Keep σ) : List Entity → σ → List Entity × σ
  | [], state => ([], state)
  | entity :: rest, state =>
    let (kept, state) := keep entity state
    let (others, state) := retainEntities keep rest state
    (kept.toList ++ others, state)

mutual

def Group.retain (keep : Keep σ) : Group → σ → Group × σ
  | ⟨name, validUntil, cacheDuration, entities, groups⟩, state =>
    let (entities, state) := retainEntities keep entities state
    let (groups, state) := Group.retainAll keep groups state
    (⟨name, validUntil, cacheDuration, entities, groups⟩, state)

def Group.retainAll (keep : Keep σ) : List Group → σ → List Group × σ
  | [], state => ([], state)
  | group :: groups, state =>
    let (group, state) := group.retain keep state
    let (groups, state) := Group.retainAll keep groups state
    (group :: groups, state)

end

/-- A document of one entity that is not kept becomes an empty group. -/
def Document.retain (keep : Keep σ) : Document → σ → Document × σ
  | .entity e, state =>
    match keep e state with
    | (some kept, state) => (.entity kept, state)
    | (none, state) => (.group .empty, state)
  | .group g, state =>
    let (g, state) := g.retain keep state
    (.group g, state)

end

end Federation
