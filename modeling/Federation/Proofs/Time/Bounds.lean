import Federation.Time.Instant

namespace Federation.Instant

def NoLater (left right : Option Instant) : Prop :=
  ∀ bound, right = some bound → ∃ first, left = some first ∧ first ≤ bound

/-- The bound is the first of some instants; it is absent if there are none. -/
def FirstOf (instants : Instant → Prop) : Option Instant → Prop
  | none => ∀ t, ¬ instants t
  | some first => instants first ∧ ∀ t, instants t → first ≤ t

variable {P Q : Instant → Prop} {left right : Option Instant}

theorem firstOf_self (bound : Option Instant) : FirstOf (bound = some ·) bound := by
  cases bound with
  | none => exact fun _ => nofun
  | some first =>
    refine ⟨rfl, ?_⟩
    rintro t ⟨⟩
    exact Int.le_refl _

theorem FirstOf.of_iff (first : FirstOf P left) (same : ∀ t, P t ↔ Q t) : FirstOf Q left := by
  have equal : P = Q := funext fun t => propext (same t)
  exact equal ▸ first

theorem FirstOf.unique (first : FirstOf P left) (other : FirstOf P right) : left = right := by
  cases left with
  | none =>
    cases right with
    | none => rfl
    | some t => exact (first t other.1).elim
  | some s =>
    cases right with
    | none => exact (other s first.1).elim
    | some t => exact congrArg some (eq_of_rank_eq (Int.le_antisymm (first.2 t other.1) (other.2 s first.1)))

/-- Whatever bounds the second instants from below bounds them no later than their first. -/
theorem FirstOf.noLater (first : FirstOf P left) (other : FirstOf Q right)
    (sooner : ∀ t, Q t → ∃ s, P s ∧ s ≤ t) : NoLater left right := by
  rintro bound rfl
  obtain ⟨s, holds, le⟩ := sooner bound other.1
  cases left with
  | none => exact (first s holds).elim
  | some t => exact ⟨t, rfl, Int.le_trans (first.2 s holds) le⟩

theorem FirstOf.earliest (first : FirstOf P left) (other : FirstOf Q right) :
    FirstOf (fun t => P t ∨ Q t) (earliest left right) := by
  cases left with
  | none => exact other.of_iff fun t => (or_iff_right (first t)).symm
  | some s =>
    cases right with
    | none => exact first.of_iff fun t => (or_iff_left (other t)).symm
    | some r =>
      obtain ⟨holds, least⟩ := first
      obtain ⟨holds', least'⟩ := other
      change FirstOf _ (some (if s ≤ r then s else r))
      split
      · rename_i le
        refine ⟨.inl holds, fun t => ?_⟩
        rintro (here | there)
        · exact least t here
        · exact Int.le_trans le (least' t there)
      · rename_i gt
        refine ⟨.inr holds', fun t => ?_⟩
        rintro (here | there)
        · exact Int.le_trans ((le_total s r).resolve_left gt) (least t here)
        · exact least' t there

/-- The bound of a list, folded from its left. -/
theorem FirstOf.foldl {α : Type} {bound : α → Option Instant} {instants : α → Instant → Prop}
    {list : List α} (first : FirstOf P left) (each : ∀ a ∈ list, FirstOf (instants a) (bound a)) :
    FirstOf (fun t => P t ∨ ∃ a ∈ list, instants a t)
      (list.foldl (fun found a => Instant.earliest found (bound a)) left) := by
  induction list generalizing P left with
  | nil => exact first.of_iff fun t => by simp
  | cons a rest ih =>
    have head := first.earliest (each a List.mem_cons_self)
    have tail := ih head fun b member => each b (List.mem_cons_of_mem a member)
    exact tail.of_iff fun t => by simp [or_assoc]

end Federation.Instant
