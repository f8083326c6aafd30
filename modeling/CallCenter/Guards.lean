import Mathlib.Data.List.Forall2

/-!
# Guarded computations

Code that throws is a computation in `Except`. The rules below invert one that returns:
each guard it passed holds, and each part of it returned.
-/

namespace CallCenter.Guards

universe u v
variable {ε : Type u} {α β : Type v}

/-- A guard. -/
def require (condition : Bool) (message : ε) : Except ε Unit :=
  if condition then .ok () else .error message

@[simp] theorem require_ok_iff (condition : Bool) (message : ε) (done : Unit) :
    require condition message = .ok done ↔ condition = true := by
  cases condition with
  | false | true => simp [require]

/-- A sequence returns exactly when its first part does and then its second. -/
@[simp] theorem bind_ok_iff (first : Except ε α) (later : α → Except ε β) (result : β) :
    (first >>= later) = .ok result ↔ ∃ value, first = .ok value ∧ later value = .ok result := by
  cases first with
  | error message | ok value => simp [bind, Except.bind]

theorem guarded_ok_iff {γ : Type} (condition : Bool) (message : ε) (later : Unit → Except ε γ)
    (result : γ) :
    (require condition message >>= later) = .ok result ↔ condition = true ∧ later () = .ok result := by
  cases condition with
  | false | true => simp [require, bind, Except.bind]

@[simp] theorem pure_ok_iff (value result : α) :
    (pure value : Except ε α) = .ok result ↔ value = result := by
  simp [pure, Except.pure]

theorem require_error_iff (condition : Bool) (message thrown : ε) :
    require condition message = .error thrown ↔ condition = false ∧ message = thrown := by
  cases condition with
  | false | true => simp [require]

/-- A sequence throws where one of its parts does. -/
theorem bind_error_iff (first : Except ε α) (later : α → Except ε β) (thrown : ε) :
    (first >>= later) = .error thrown ↔
      first = .error thrown ∨ ∃ value, first = .ok value ∧ later value = .error thrown := by
  cases first with
  | error message | ok value => simp [bind, Except.bind]

/-- A change of the result is a change of the last part. -/
theorem mapped_bind {γ : Type v} (change : β → γ) (first : Except ε α) (later : α → Except ε β) :
    (first >>= later).map change = first >>= fun value => (later value).map change := by
  cases first with
  | error message | ok value => rfl

theorem mapped_pure (change : α → β) (value : α) :
    (pure value : Except ε α).map change = pure (change value) := rfl

/-- A part reads a changed result as the original one. -/
theorem bind_of_mapped {γ : Type v} (change : α → β) (first : Except ε α) (later : β → Except ε γ) :
    (first.map change >>= later) = first >>= fun value => later (change value) := by
  cases first with
  | error message | ok value => rfl

/-- A traversal returns exactly the results of its items. -/
theorem mapM_ok_iff (compute : α → Except ε β) (items : List α) (results : List β) :
    items.mapM compute = .ok results ↔
      List.Forall₂ (fun item result => compute item = .ok result) items results := by
  induction items generalizing results with
  | nil =>
    rw [List.mapM_nil, pure_ok_iff, List.forall₂_nil_left_iff]
    exact eq_comm
  | cons item rest ih =>
    simp only [List.mapM_cons, bind_ok_iff, pure_ok_iff]
    constructor
    · rintro ⟨first, computed, others, later, rfl⟩
      exact .cons computed ((ih others).mp later)
    · rintro (_ | ⟨computed, later⟩)
      exact ⟨_, computed, _, (ih _).mpr later, rfl⟩

variable {items : List α} {Related : α → β → Prop}

/-- Items that each have a partner are paired with a list. -/
theorem paired_of_each (each : ∀ item ∈ items, ∃ result, Related item result) :
    ∃ results, List.Forall₂ Related items results := by
  induction items with
  | nil => exact ⟨[], .nil⟩
  | cons item rest ih =>
    obtain ⟨result, related⟩ := each item List.mem_cons_self
    obtain ⟨results, later⟩ := ih fun other member =>
      each other (List.mem_cons_of_mem _ member)
    exact ⟨result :: results, .cons related later⟩

/-- A traversal of optional results has exactly the results of its items. -/
theorem mapM_some_iff (compute : α → Option β) (items : List α) (results : List β) :
    items.mapM compute = some results ↔
      List.Forall₂ (fun item result => compute item = some result) items results := by
  induction items generalizing results with
  | nil =>
    rw [List.mapM_nil, List.forall₂_nil_left_iff]
    exact ⟨fun same => (Option.some.inj same).symm, fun empty => congrArg some empty.symm⟩
  | cons item rest ih =>
    simp only [List.mapM_cons, Option.bind_eq_bind, Option.bind_eq_some_iff, Option.pure_def,
      Option.some.injEq]
    constructor
    · rintro ⟨first, computed, others, later, rfl⟩
      exact .cons computed ((ih others).mp later)
    · rintro (_ | ⟨computed, later⟩)
      exact ⟨_, computed, _, (ih _).mpr later, rfl⟩

end CallCenter.Guards
