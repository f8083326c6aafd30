import CallCenter.Guards
import Mathlib.Data.List.Induction

/-!
# Replays of a fallible transition function

A replay folds a step function that may throw over a list of inputs and throws with the
first step that does. Where it returns, every initial segment returns too, so a property
of the replayed state can be proved step by step, with the inputs replayed so far at
hand.
-/

namespace CallCenter.Replays

open Guards

universe u v w
variable {σ : Type u} {ι : Type v} {ε : Type w} {step : σ → ι → Except ε σ}
  {initial middle final : σ}

/-- The state after all inputs, in order. -/
def replay (step : σ → ι → Except ε σ) : σ → List ι → Except ε σ
  | state, [] => .ok state
  | state, input :: rest => do
      let next ← step state input
      replay step next rest

@[simp] theorem replay_nil : replay step initial [] = .ok initial := rfl

/-- A replay returns exactly when both of its parts do. -/
theorem replay_append_ok_iff (before after : List ι) :
    replay step initial (before ++ after) = .ok final ↔
      ∃ middle, replay step initial before = .ok middle ∧ replay step middle after = .ok final := by
  induction before generalizing initial with
  | nil =>
    constructor
    · intro returned
      exact ⟨initial, rfl, returned⟩
    · rintro ⟨_, same, returned⟩
      cases same
      exact returned
  | cons input rest ih =>
    simp only [List.cons_append, replay, bind_ok_iff, ih]
    constructor
    · rintro ⟨next, stepped, middle, first, second⟩
      exact ⟨middle, ⟨next, stepped, first⟩, second⟩
    · rintro ⟨middle, ⟨next, stepped, first⟩, second⟩
      exact ⟨next, stepped, middle, first, second⟩

theorem replay_snoc_ok_iff (before : List ι) (input : ι) :
    replay step initial (before ++ [input]) = .ok final ↔
      ∃ middle, replay step initial before = .ok middle ∧ step middle input = .ok final := by
  simp [replay_append_ok_iff, replay]

theorem replay_cons_ok_iff (input : ι) (rest : List ι) :
    replay step initial (input :: rest) = .ok final ↔
      ∃ next, step initial input = .ok next ∧ replay step next rest = .ok final := by
  rw [replay, bind_ok_iff]

variable {inputs : List ι}

/-- A property that every step preserves is preserved by a replay. -/
theorem replay_invariant (Invariant : σ → Prop)
    (preserved : ∀ state input next, step state input = .ok next → Invariant state → Invariant next)
    (returned : replay step initial inputs = .ok final) (base : Invariant initial) :
    Invariant final := by
  induction inputs generalizing initial with
  | nil =>
    cases returned
    exact base
  | cons input rest ih =>
    obtain ⟨next, stepped, later⟩ := (replay_cons_ok_iff input rest).mp returned
    exact ih later (preserved initial input next stepped base)

/-- Induction on the end of a replay, for properties of a state and of the inputs that led
to it. -/
theorem replay_history (History : List ι → σ → Prop) (base : History [] initial)
    (extended : ∀ before input middle next, replay step initial before = .ok middle →
      step middle input = .ok next → History before middle → History (before ++ [input]) next)
    (returned : replay step initial inputs = .ok final) :
    History inputs final := by
  induction inputs using List.reverseRecOn generalizing final with
  | nil =>
    cases returned
    exact base
  | append_singleton before input ih =>
    obtain ⟨middle, first, last⟩ := (replay_snoc_ok_iff before input).mp returned
    exact extended before input middle final first last (ih first)

/-- A quantity that some inputs raise by one counts those inputs. -/
theorem replay_count (measure : σ → Nat) (counted : ι → Bool)
    (counts : ∀ state input next, step state input = .ok next →
      measure next = measure state + if counted input then 1 else 0)
    (returned : replay step initial inputs = .ok final) :
    measure final = measure initial + inputs.countP counted := by
  induction inputs generalizing initial with
  | nil =>
    cases returned
    rfl
  | cons input rest ih =>
    obtain ⟨next, stepped, later⟩ := (replay_cons_ok_iff input rest).mp returned
    rw [ih later, counts initial input next stepped, List.countP_cons]
    omega

/-- Inputs that do not show in a projection may be left out: the visible ones alone replay
the projection. -/
theorem replay_projected {τ : Type u} {κ : Type v} (project : σ → τ) (visible : ι → Option κ)
    (stepVisible : τ → κ → Except ε τ)
    (shown : ∀ state input next seen, step state input = .ok next → visible input = some seen →
      stepVisible (project state) seen = .ok (project next))
    (hidden : ∀ state input next, step state input = .ok next → visible input = none →
      project next = project state) (returned : replay step initial inputs = .ok final) :
    replay stepVisible (project initial) (inputs.filterMap visible) = .ok (project final) := by
  induction inputs generalizing initial with
  | nil =>
    cases returned
    rfl
  | cons input rest ih =>
    obtain ⟨next, stepped, later⟩ := (replay_cons_ok_iff input rest).mp returned
    have continued := ih later
    cases visibility : visible input with
    | none =>
      rw [List.filterMap_cons_none visibility, ← hidden initial input next stepped visibility]
      exact continued
    | some seen =>
      rw [List.filterMap_cons_some visibility]
      exact (replay_cons_ok_iff _ _).mpr
        ⟨project next, shown initial input next seen stepped visibility, continued⟩

/-- States with the same view have replays with the same view, if every step does. The two
replays may take their steps differently. -/
theorem replay_view {β : Type u} {other : σ → ι → Except ε σ} (view : σ → β)
    (respects : ∀ first second input, view first = view second →
      (step first input).map view = (other second input).map view)
    {first second : σ} (same : view first = view second) (inputs : List ι) :
    (replay step first inputs).map view = (replay other second inputs).map view := by
  induction inputs generalizing first second with
  | nil => exact congrArg Except.ok same
  | cons input rest ih =>
    have stepped := respects first second input same
    rw [replay, replay]
    cases left : step first input with
    | error =>
      cases right : other second input with
      | error =>
        rw [left, right] at stepped
        cases stepped
        rfl
      | ok =>
        rw [left, right] at stepped
        cases stepped
    | ok =>
      cases right : other second input with
      | error =>
        rw [left, right] at stepped
        cases stepped
      | ok =>
        rw [left, right] at stepped
        exact ih (Except.ok.inj stepped)

end CallCenter.Replays
