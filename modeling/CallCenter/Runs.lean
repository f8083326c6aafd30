import Mathlib.Data.List.Induction

/-!
# Finite runs of a deterministic transition function

A run folds a total step function over a list of inputs. A refused input is
modelled by a step that returns its state, so every list of inputs is a run and
the states reached by a run are exactly the states of its initial segments.

The rules below are stated over arbitrary states and inputs. They package the
inductions that a development needs: invariants, invariants under a condition on
each step, invariants that speak about the whole history, and stamped views.
-/

namespace CallCenter.Runs

universe u v w
variable {σ : Type u} {ι : Type v} {β : Type w}

/-- The state reached from `initial` after all inputs, in order. -/
def run (step : σ → ι → σ) (initial : σ) (inputs : List ι) : σ := inputs.foldl step initial

section

variable (step : σ → ι → σ)

@[simp] theorem run_nil (initial : σ) : run step initial [] = initial := rfl

@[simp] theorem run_cons (initial : σ) (input : ι) (rest : List ι) :
    run step initial (input :: rest) = run step (step initial input) rest := rfl

theorem run_append (initial : σ) (before after : List ι) :
    run step initial (before ++ after) = run step (run step initial before) after :=
  List.foldl_append

/-- The last input of a run acts on the state its predecessors reached. -/
@[simp] theorem run_snoc (initial : σ) (before : List ι) (input : ι) :
    run step initial (before ++ [input]) = step (run step initial before) input := by
  rw [run_append, run_cons, run_nil]

end

variable {step : σ → ι → σ} {initial : σ}

/-- A property of the initial state that each step preserves holds after every run. -/
theorem run_invariant (Invariant : σ → Prop) (base : Invariant initial)
    (preserved : ∀ state input, Invariant state → Invariant (step state input)) (inputs : List ι) :
    Invariant (run step initial inputs) := by
  induction inputs generalizing initial with
  | nil => exact base
  | cons input rest ih => exact ih (preserved initial input base)

/-- Every step of the run is taken in a state where it meets the condition. -/
def Meets (step : σ → ι → σ) (Condition : σ → ι → Prop) : σ → List ι → Prop
  | _, [] => True
  | state, input :: rest => Condition state input ∧ Meets step Condition (step state input) rest

instance decidableMeets (step : σ → ι → σ) (Condition : σ → ι → Prop)
    [decidable : ∀ state input, Decidable (Condition state input)] :
    ∀ state inputs, Decidable (Meets step Condition state inputs)
  | _, [] => .isTrue trivial
  | state, input :: rest =>
    have := decidable state input
    have := decidableMeets step Condition (step state input) rest
    inferInstanceAs (Decidable (_ ∧ _))

variable {Condition : σ → ι → Prop} {state : σ} {before : List ι}

/-- An initial segment of a run that meets a condition meets it too. -/
theorem meets_left {after : List ι} (met : Meets step Condition state (before ++ after)) :
    Meets step Condition state before := by
  induction before generalizing state with
  | nil => trivial
  | cons input rest ih => exact ⟨met.1, ih met.2⟩

/-- So does what follows it, from the state reached. -/
theorem meets_right {after : List ι} (met : Meets step Condition state (before ++ after)) :
    Meets step Condition (run step state before) after := by
  induction before generalizing state with
  | nil => exact met
  | cons input rest ih => exact ih met.2

/-- The condition is met at every position of the run. -/
theorem meets_iff {inputs : List ι} : Meets step Condition state inputs ↔
      ∀ before input after, inputs = before ++ input :: after →
        Condition (run step state before) input := by
  constructor
  · rintro met before input after rfl
    exact (meets_right met).1
  · intro each
    induction inputs generalizing state with
    | nil => trivial
    | cons input rest ih =>
      refine ⟨each [] input rest rfl, ih ?_⟩
      rintro before later after rfl
      exact each (input :: before) later after rfl

/-- A property of every input strengthens the condition that the steps meet. -/
theorem meets_and_inputs {Property : ι → Prop} {inputs : List ι}
    (all : ∀ input ∈ inputs, Property input) (met : Meets step Condition state inputs) :
    Meets step (fun state input => Property input ∧ Condition state input) state inputs := by
  induction inputs generalizing state with
  | nil => trivial
  | cons input rest ih =>
    have first : Property input := all input List.mem_cons_self
    have later : ∀ other ∈ rest, Property other := fun other member =>
      all other (List.mem_cons_of_mem _ member)
    exact ⟨⟨first, met.1⟩, ih later met.2⟩

/-- The conditional form of `run_invariant`: steps outside the condition need
not preserve the invariant, and the run contains none. -/
theorem run_invariant_meets (Invariant : σ → Prop) (base : Invariant initial)
    (preserved : ∀ state input, Condition state input → Invariant state →
      Invariant (step state input)) (inputs : List ι) (met : Meets step Condition initial inputs) :
    Invariant (run step initial inputs) := by
  induction inputs generalizing initial with
  | nil => exact base
  | cons input rest ih =>
    exact ih (preserved initial input met.1 base) met.2

/-- Two step functions that agree on the states of an invariant have the same runs. -/
theorem run_congr {other : σ → ι → σ} (Invariant : σ → Prop) (base : Invariant initial)
    (preserved : ∀ state input, Invariant state → Invariant (step state input))
    (agree : ∀ state input, Invariant state → step state input = other state input)
    (inputs : List ι) : run step initial inputs = run other initial inputs ∧
      ∀ Condition, Meets other Condition initial inputs → Meets step Condition initial inputs := by
  induction inputs generalizing initial with
  | nil => exact ⟨rfl, fun _ _ => trivial⟩
  | cons input rest ih =>
    obtain ⟨same, meets⟩ := ih (preserved initial input base)
    rw [agree initial input base] at same meets
    refine ⟨?_, fun Condition met => ⟨met.1, ?_⟩⟩
    · rw [run_cons, run_cons, agree initial input base, same]
    · rw [agree initial input base]
      exact meets Condition met.2

/-- Induction on the end of a run, for properties of a state and of the inputs
that led to it. -/
theorem run_history (History : List ι → σ → Prop) (base : History [] initial)
    (extended : ∀ before input, History before (run step initial before) →
      History (before ++ [input]) (step (run step initial before) input)) (inputs : List ι) :
    History inputs (run step initial inputs) := by
  induction inputs using List.reverseRecOn with
  | nil => exact base
  | append_singleton before input ih =>
    rw [run_snoc]
    exact extended before input ih

/-- The conditional form of `run_history`. -/
theorem run_history_meets (History : List ι → σ → Prop) (base : History [] initial)
    (extended : ∀ before input, Condition (run step initial before) input →
      History before (run step initial before) →
      History (before ++ [input]) (step (run step initial before) input)) (inputs : List ι)
    (met : Meets step Condition initial inputs) :
    History inputs (run step initial inputs) := by
  induction inputs using List.reverseRecOn with
  | nil => exact base
  | append_singleton before input ih =>
    rw [run_snoc]
    exact extended before input (meets_right met).1 (ih (meets_left met))

/-- A step keeps a stamped view: it leaves both the stamp and the view alone, or
it strictly raises the stamp. -/
def KeepsStampedView (stamp : σ → Nat) (view : σ → β) (before after : σ) : Prop :=
  (stamp after = stamp before ∧ view after = view before) ∨ stamp before < stamp after

/-- Two states of one run with equal stamps have equal views, however many steps
lie between them: a step that changed the view would have raised the stamp. -/
theorem equal_stamp_equal_view {stamp : σ → Nat} {view : σ → β}
    (keeps : ∀ state input, KeepsStampedView stamp view state (step state input)) (state : σ)
    (inputs : List ι) (same : stamp (run step state inputs) = stamp state) :
    view (run step state inputs) = view state := by
  refine (run_invariant (fun reached => stamp state ≤ stamp reached ∧
    (stamp reached = stamp state → view reached = view state)) ⟨Nat.le_refl _, fun _ => rfl⟩ ?_
    inputs).2 same
  rintro reached input ⟨later, equal⟩
  rcases keeps reached input with ⟨equalStamp, equalView⟩ | raised
  · rw [equalStamp, equalView]
    exact ⟨later, equal⟩
  · refine ⟨by omega, ?_⟩
    intro back
    omega

end CallCenter.Runs
