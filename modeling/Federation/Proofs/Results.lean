import Mathlib.Data.List.Forall2

namespace Federation

variable {ε α β : Type}

theorem bind_eq_ok_iff {first : Except ε α} {next : α → Except ε β} {result : β} :
    first >>= next = .ok result ↔ ∃ value, first = .ok value ∧ next value = .ok result := by
  cases first with
  | error failure => exact ⟨nofun, nofun⟩
  | ok value => exact ⟨fun done => ⟨value, rfl, done⟩, fun ⟨_, same, done⟩ => by cases same; exact done⟩

theorem pure_eq_ok_iff {value result : α} : (pure value : Except ε α) = .ok result ↔ value = result :=
  ⟨Except.ok.inj, congrArg Except.ok⟩

theorem pure_ne_error {value : α} {failure : ε} : (pure value : Except ε α) ≠ .error failure := nofun

theorem map_eq_ok_iff {first : Except ε α} {f : α → β} {result : β} :
    first.map f = .ok result ↔ ∃ value, first = .ok value ∧ f value = result := by
  cases first <;> simp [Except.map]

theorem mapError_eq_ok_iff {first : Except ε α} {f : ε → β} {result : α} :
    first.mapError f = .ok result ↔ first = .ok result := by
  cases first <;> simp [Except.mapError]

theorem mapM_eq_ok_iff {step : α → Except ε β} {meaning : α → β → Prop} {elements : List α}
    {results : List β}
    (means : ∀ element ∈ elements, ∀ result, step element = .ok result ↔ meaning element result) :
    elements.mapM step = .ok results ↔ List.Forall₂ meaning elements results := by
  induction elements generalizing results with
  | nil =>
    rw [List.mapM_nil, pure_eq_ok_iff, List.forall₂_nil_left_iff]
    exact eq_comm
  | cons first rest ih =>
    obtain ⟨meansFirst, meansRest⟩ := List.forall_mem_cons.mp means
    simp only [List.mapM_cons, bind_eq_ok_iff, pure_eq_ok_iff, meansFirst, ih meansRest,
      List.forall₂_cons_left_iff]
    constructor
    · rintro ⟨result, head, others, tail, rfl⟩
      exact ⟨result, others, head, tail, rfl⟩
    · rintro ⟨result, others, head, tail, rfl⟩
      exact ⟨result, head, others, tail, rfl⟩

theorem exists_forall₂_iff {meaning : α → β → Prop} {elements : List α} :
    (∃ results, List.Forall₂ meaning elements results) ↔
      ∀ element ∈ elements, ∃ result, meaning element result := by
  induction elements with
  | nil => exact ⟨fun _ => nofun, fun _ => ⟨[], .nil⟩⟩
  | cons first rest ih =>
    rw [List.forall_mem_cons, ← ih]
    constructor
    · rintro ⟨_, _ | ⟨head, tail⟩⟩
      exact ⟨⟨_, head⟩, _, tail⟩
    · rintro ⟨⟨result, head⟩, results, tail⟩
      exact ⟨_, .cons head tail⟩

theorem bind_eq_error_iff {first : Except ε α} {next : α → Except ε β} {failure : ε} :
    first >>= next = .error failure ↔
      first = .error failure ∨ ∃ value, first = .ok value ∧ next value = .error failure := by
  cases first with
  | error other =>
    constructor
    · intro failed
      cases failed
      exact .inl rfl
    · rintro (⟨⟨⟩⟩ | ⟨_, ⟨⟩, _⟩)
      rfl
  | ok value =>
    constructor
    · exact fun failed => .inr ⟨value, rfl, failed⟩
    · rintro (⟨⟨⟩⟩ | ⟨_, ⟨⟩, failed⟩)
      exact failed

theorem exists_mapM_iff {step : α → Except ε β} {elements : List α} :
    (∃ results, elements.mapM step = .ok results) ↔
      ∀ element ∈ elements, ∃ result, step element = .ok result := by
  simp only [← exists_forall₂_iff, mapM_eq_ok_iff fun _ _ _ => Iff.rfl]

/-- The first element that is not fine is blamed for the failure. -/
def BlamesFirst (fine : α → Prop) (blames : α → ε → Prop) (elements : List α) (failure : ε) : Prop :=
  ∃ before first after, elements = before ++ first :: after ∧ (∀ element ∈ before, fine element) ∧
    blames first failure

section

variable {fine : α → Prop} {blames : α → ε → Prop} {failure : ε}

theorem blamesFirst_nil : ¬ BlamesFirst fine blames [] failure := by
  rintro ⟨before, first, after, split, _⟩
  exact List.append_ne_nil_of_right_ne_nil before (List.cons_ne_nil first after) split.symm

theorem blamesFirst_cons_iff {first : α} {rest : List α} :
    BlamesFirst fine blames (first :: rest) failure ↔
      blames first failure ∨ fine first ∧ BlamesFirst fine blames rest failure := by
  constructor
  · rintro ⟨_ | ⟨head, before⟩, blamed, after, split, fineBefore, blame⟩
    · cases split
      exact .inl blame
    · cases split
      obtain ⟨fineHead, fineRest⟩ := List.forall_mem_cons.mp fineBefore
      exact .inr ⟨fineHead, before, blamed, after, rfl, fineRest, blame⟩
  · rintro (blame | ⟨fineFirst, before, blamed, after, rfl, fineBefore, blame⟩)
    · exact ⟨[], first, rest, rfl, nofun, blame⟩
    · exact ⟨first :: before, blamed, after, rfl, List.forall_mem_cons.mpr ⟨fineFirst, fineBefore⟩, blame⟩

theorem blamesFirst_append_iff {left right : List α} :
    BlamesFirst fine blames (left ++ right) failure ↔
      BlamesFirst fine blames left failure ∨
        (∀ element ∈ left, fine element) ∧ BlamesFirst fine blames right failure := by
  induction left with
  | nil => simp [blamesFirst_nil]
  | cons first rest ih =>
    rw [List.cons_append, blamesFirst_cons_iff, ih, blamesFirst_cons_iff, List.forall_mem_cons]
    simp only [and_or_left, or_assoc, and_assoc]

/-- The first of the elements of the first list that has one. -/
theorem blamesFirst_flatMap_iff {elements : List β} {list : β → List α} :
    BlamesFirst fine blames (elements.flatMap list) failure ↔
      BlamesFirst (fun element => ∀ inner ∈ list element, fine inner)
        (fun element => BlamesFirst fine blames (list element)) elements failure := by
  induction elements with
  | nil => exact iff_of_false blamesFirst_nil blamesFirst_nil
  | cons first rest ih => rw [List.flatMap_cons, blamesFirst_append_iff, ih, blamesFirst_cons_iff]

theorem mapM_eq_error_iff {step : α → Except ε β} {elements : List α}
    (succeeds : ∀ element ∈ elements, (∃ result, step element = .ok result) ↔ fine element)
    (fails : ∀ element ∈ elements, ∀ failure, step element = .error failure ↔ blames element failure) :
    elements.mapM step = .error failure ↔ BlamesFirst fine blames elements failure := by
  induction elements with
  | nil => exact iff_of_false nofun blamesFirst_nil
  | cons first rest ih =>
    obtain ⟨succeedsFirst, succeedsRest⟩ := List.forall_mem_cons.mp succeeds
    obtain ⟨failsFirst, failsRest⟩ := List.forall_mem_cons.mp fails
    simp only [List.mapM_cons, bind_eq_error_iff, blamesFirst_cons_iff, failsFirst, ← succeedsFirst,
      ih succeedsRest failsRest, pure_ne_error, and_false, exists_false, or_false, exists_and_right]

end

end Federation
