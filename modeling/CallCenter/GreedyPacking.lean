import Mathlib.Data.List.Basic

/-!
# Greedy packing

Items are offered one after another; an item is taken if the list still fits with it and
left out otherwise. `Packs` is that rule, and a fold that tries an item and undoes the
attempt follows it.
-/

namespace CallCenter.GreedyPacking

universe u v
variable {α : Type u} {σ : Type v} {Fits : List α → Prop} {chosen items final : List α}

/-- From what was chosen before, the items are offered in order and lead to a final choice:
an item is left out only if it does not fit at its turn. -/
inductive Packs (Fits : List α → Prop) : List α → List α → List α → Prop where
  | done (chosen : List α) : Packs Fits chosen [] chosen
  | taken {chosen rest final : List α} {item : α} (fits : Fits (chosen ++ [item]))
      (later : Packs Fits (chosen ++ [item]) rest final) : Packs Fits chosen (item :: rest) final
  | left {chosen rest final : List α} {item : α} (exceeds : ¬Fits (chosen ++ [item]))
      (later : Packs Fits chosen rest final) : Packs Fits chosen (item :: rest) final

/-- The final choice fits if the first one does. -/
theorem Packs.fits (packs : Packs Fits chosen items final) (base : Fits chosen) : Fits final := by
  induction packs with
  | done => exact base
  | taken fits later ih => exact ih fits
  | left exceeds later ih => exact ih base

/-- Only offered items are added. -/
theorem Packs.mem (packs : Packs Fits chosen items final) {item : α} (member : item ∈ final) :
    item ∈ chosen ∨ item ∈ items := by
  induction packs with
  | done => exact Or.inl member
  | taken fits later ih =>
    rcases ih member with known | offered
    · rcases List.mem_append.mp known with earlier | last
      · exact Or.inl earlier
      · exact Or.inr (List.mem_cons.mpr (Or.inl (List.mem_singleton.mp last)))
    · exact Or.inr (List.mem_cons_of_mem _ offered)
  | left exceeds later ih =>
    rcases ih member with known | offered
    · exact Or.inl known
    · exact Or.inr (List.mem_cons_of_mem _ offered)

/-- A fold that adds an item where it fits packs the items. The list is held in a larger
state, at a place of its own. -/
theorem foldl_packs (place : List α → σ) (attempt : σ → α → σ) (Within : σ → Prop)
    (taken : ∀ chosen item, Within (place (chosen ++ [item])) →
      attempt (place chosen) item = place (chosen ++ [item]))
    (undone : ∀ chosen item, ¬Within (place (chosen ++ [item])) →
      attempt (place chosen) item = place chosen)
    (chosen items : List α) :
    ∃ final, items.foldl attempt (place chosen) = place final ∧
      Packs (fun choice => Within (place choice)) chosen items final := by
  induction items generalizing chosen with
  | nil => exact ⟨chosen, rfl, .done chosen⟩
  | cons item rest ih =>
    rw [List.foldl_cons]
    by_cases fits : Within (place (chosen ++ [item]))
    · obtain ⟨final, folded, packs⟩ := ih (chosen ++ [item])
      exact ⟨final, by rw [taken chosen item fits, folded], .taken fits packs⟩
    · obtain ⟨final, folded, packs⟩ := ih chosen
      exact ⟨final, by rw [undone chosen item fits, folded], .left fits packs⟩

end CallCenter.GreedyPacking
