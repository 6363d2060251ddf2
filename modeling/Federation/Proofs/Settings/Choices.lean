import Mathlib.Tactic.SplitIfs
import Federation.Settings

namespace Federation.Settings

inductive Setting where
  | failsFast
  | requiresValid
  | minDelay
  | maxDelay
  | factor
  | failureDelay
  | jitter
  | timeout
  | background

def Setting.Value : Setting → Type
  | .failsFast | .requiresValid | .background => Bool
  | .minDelay | .maxDelay | .failureDelay | .jitter | .timeout => Duration
  | .factor => Float

def Choice.value? : (setting : Setting) → Choice → Option setting.Value
  | .failsFast, .failsFast value => some value
  | .requiresValid, .requiresValid value => some value
  | .minDelay, .minDelay value => some value
  | .maxDelay, .maxDelay value => some value
  | .factor, .factor value => some value
  | .failureDelay, .failureDelay value => some value
  | .jitter, .jitter value => some value
  | .timeout, .timeout value => some value
  | .background, .background value => some value
  | _, _ => none

def lastChoice (choices : List Choice) (setting : Setting) : Option setting.Value :=
  choices.reverse.findSome? (Choice.value? setting)

def value : (setting : Setting) → Settings → setting.Value
  | .failsFast, settings => settings.failsFast
  | .requiresValid, settings => settings.requiresValid
  | .minDelay, settings => settings.minDelay
  | .maxDelay, settings => settings.maxDelay
  | .factor, settings => settings.factor
  | .failureDelay, settings => settings.failureDelay
  | .jitter, settings => settings.jitter
  | .timeout, settings => settings.timeout
  | .background, settings => settings.background

theorem lastChoice_cons (choice : Choice) (rest : List Choice) (setting : Setting) :
    lastChoice (choice :: rest) setting = (lastChoice rest setting).or (choice.value? setting) := by
  rw [lastChoice, List.reverse_cons, List.findSome?_append, List.findSome?_singleton]
  rfl

namespace Draft

def value? : (setting : Setting) → Draft → Option setting.Value
  | .failsFast, draft => some draft.failsFast
  | .requiresValid, draft => some draft.requiresValid
  | .minDelay, draft => some draft.minDelay
  | .maxDelay, draft => some draft.maxDelay
  | .factor, draft => some draft.factor
  | .failureDelay, draft => draft.failureDelay
  | .jitter, draft => some draft.jitter
  | .timeout, draft => some draft.timeout
  | .background, draft => some draft.background

variable {draft : Draft}

theorem choose_value? (draft : Draft) (choice : Choice) (setting : Setting) :
    (draft.choose choice).value? setting = (choice.value? setting).or (draft.value? setting) := by
  cases setting <;> cases choice <;> rfl

theorem chooseAll_value? (draft : Draft) (choices : List Choice) (setting : Setting) :
    (draft.chooseAll choices).value? setting =
      (lastChoice choices setting).or (draft.value? setting) := by
  induction choices generalizing draft with
  | nil => rfl
  | cons choice rest ih =>
    rw [lastChoice_cons, Option.or_assoc, ← choose_value?]
    exact ih (draft.choose choice)

theorem chooseAll_named (draft : Draft) (choices : List Choice) :
    (draft.chooseAll choices).id = draft.id ∧ (draft.chooseAll choices).source = draft.source := by
  induction choices generalizing draft with
  | nil => exact ⟨rfl, rfl⟩
  | cons choice rest ih =>
    have same : (draft.choose choice).id = draft.id ∧ (draft.choose choice).source = draft.source := by
      cases choice <;> exact ⟨rfl, rfl⟩
    rw [← same.1, ← same.2]
    exact ih (draft.choose choice)

theorem ext_value? {left right : Draft} (id : left.id = right.id) (source : left.source = right.source)
    (values : ∀ setting, left.value? setting = right.value? setting) : left = right := by
  cases left
  cases right
  rw [mk.injEq]
  exact ⟨id, source, Option.some.inj (values .failsFast), Option.some.inj (values .requiresValid),
    Option.some.inj (values .minDelay), Option.some.inj (values .maxDelay),
    Option.some.inj (values .factor), values .failureDelay, Option.some.inj (values .jitter),
    Option.some.inj (values .timeout), Option.some.inj (values .background)⟩

theorem chooseAll_congr (draft : Draft) {left right : List Choice}
    (same : ∀ setting, lastChoice left setting = lastChoice right setting) :
    draft.chooseAll left = draft.chooseAll right := by
  obtain ⟨idLeft, sourceLeft⟩ := draft.chooseAll_named left
  obtain ⟨idRight, sourceRight⟩ := draft.chooseAll_named right
  refine ext_value? (idLeft.trans idRight.symm) (sourceLeft.trans sourceRight.symm) fun setting => ?_
  rw [chooseAll_value?, chooseAll_value?, same]

structure Usable (draft : Draft) : Prop where
  named : Text.isBlankText draft.id = false
  minDelay_pos : Duration.zero < draft.minDelay
  minDelay_le : draft.minDelay ≤ draft.maxDelay
  factor_within : (0 < draft.factor && draft.factor < 1) = true
  failureDelay_pos : Duration.zero < draft.failureDelay.getD draft.minDelay
  failureDelay_le : draft.failureDelay.getD draft.minDelay ≤ draft.maxDelay
  timeout_pos : draft.timeout.isZero = false

def Usable.settings (usable : draft.Usable) : Settings :=
  { draft with
    failureDelay := draft.failureDelay.getD draft.minDelay
    minDelay_pos := usable.minDelay_pos
    minDelay_le := usable.minDelay_le
    failureDelay_pos := usable.failureDelay_pos
    failureDelay_le := usable.failureDelay_le }

theorem Usable.some_value (usable : draft.Usable) {setting : Setting} (other : setting ≠ .failureDelay) :
    some (usable.settings.value setting) = draft.value? setting := by
  cases setting with
  | failureDelay => exact absurd rfl other
  | _ => rfl

theorem check_eq_ok_iff {settings : Settings} :
    draft.check = .ok settings ↔ ∃ usable : draft.Usable, usable.settings = settings := by
  unfold check
  constructor
  · intro accepted
    dsimp only at accepted
    split_ifs at accepted with named minDelay_pos minDelay_le factor failure timeout
    exact ⟨⟨by simpa using named, minDelay_pos, minDelay_le, by simpa using factor, failure.1, failure.2,
      by simpa using timeout⟩, Except.ok.inj accepted⟩
  · rintro ⟨usable, rfl⟩
    have failure := And.intro usable.failureDelay_pos usable.failureDelay_le
    simp only [usable.named, usable.minDelay_pos, usable.minDelay_le, usable.factor_within, failure,
      usable.timeout_pos]
    rfl

end Draft

end Federation.Settings
