import Mathlib.Data.List.Forall2

/-!
# Lists rewritten position by position

A list is cut at the first element that passes a test and overwritten there, or is
rewritten at every position at once. `List.Forall₂` relates the list before and
after; the lemmas carry membership, pairwise relations and counts across it.
-/

namespace CallCenter.ListRewrites

universe u v w
variable {α : Type u} {β : Type v}

/-- A list cut at one of its elements. -/
structure Located (α : Type u) where
  before : List α
  current : α
  after : List α

/-- The list with the located element overwritten. -/
def Located.overwrite (located : Located α) (replacement : α) : List α :=
  located.before ++ replacement :: located.after

/-- Cut a list at the first element that passes a test. -/
def locate (test : α → Bool) : List α → Option (Located α)
  | [] => none
  | item :: rest =>
    if test item then some ⟨[], item, rest⟩
    else (locate test rest).map fun located =>
      { located with before := item :: located.before }

/-- The cut restores the list, its element passes the test and no earlier one does. -/
theorem locate_some {test : α → Bool} {items : List α} {located : Located α}
    (found : locate test items = some located) :
    items = located.overwrite located.current ∧ test located.current = true ∧
      ∀ item ∈ located.before, test item = false := by
  induction items generalizing located with
  | nil => simp [locate] at found
  | cons item rest ih =>
    by_cases passes : test item = true
    · rw [locate, if_pos passes] at found
      cases found
      exact ⟨rfl, passes, by simp⟩
    · rw [locate, if_neg passes] at found
      obtain ⟨shorter, cut, rfl⟩ := Option.map_eq_some_iff.mp found
      obtain ⟨restored, passed, skipped⟩ := ih cut
      exact ⟨by rw [restored]; rfl, passed,
        List.forall_mem_cons.mpr ⟨by simpa using passes, skipped⟩⟩

section Related

variable {Related : α → β → Prop} {before : List α} {after : List β}

/-- Every element of the original survives as an element of the rewritten list. -/
theorem exists_after (rewritten : List.Forall₂ Related before after) {item : α}
    (member : item ∈ before) : ∃ replacement ∈ after, Related item replacement := by
  induction rewritten with
  | nil => simp at member
  | cons first rest ih =>
    rcases List.mem_cons.mp member with rfl | later
    · exact ⟨_, List.mem_cons_self, first⟩
    · obtain ⟨replacement, after, rewrites⟩ := ih later
      exact ⟨replacement, List.mem_cons_of_mem _ after, rewrites⟩

/-- Every element of a rewritten list comes from an element of the original. -/
theorem exists_before (rewritten : List.Forall₂ Related before after) {item : β}
    (member : item ∈ after) : ∃ original ∈ before, Related original item :=
  exists_after rewritten.flip member

/-- Pointwise relations compose. -/
theorem forall₂_comp {γ : Type w} {Later : β → γ → Prop} {Both : α → γ → Prop} {last : List γ}
    (compose : ∀ first second third, Related first second → Later second third → Both first third)
    (one : List.Forall₂ Related before after) (other : List.Forall₂ Later after last) :
    List.Forall₂ Both before last := by
  induction one generalizing last with
  | nil =>
    cases other
    exact .nil
  | cons first rest ih =>
    cases other with
    | cons second later => exact .cons (compose _ _ _ first second) (ih later)

/-- Related lists split at the same position. -/
theorem forall₂_located {located : Located α}
    (related : List.Forall₂ Related (located.overwrite located.current) after) :
    ∃ other : Located β, after = other.overwrite other.current ∧
      List.Forall₂ Related located.before other.before ∧
      Related located.current other.current ∧ List.Forall₂ Related located.after other.after := by
  obtain ⟨earlier, current, later⟩ := located
  unfold Located.overwrite at related
  dsimp only at related ⊢
  induction earlier generalizing after with
  | nil =>
    cases related with
    | cons first rest => exact ⟨⟨[], _, _⟩, rfl, .nil, first, rest⟩
  | cons item earlier ih =>
    cases related with
    | cons first rest =>
      obtain ⟨other, rfl, agreeBefore, agreeCurrent, agreeAfter⟩ := ih rest
      exact ⟨⟨_ :: other.before, other.current, other.after⟩, rfl, .cons first agreeBefore,
        agreeCurrent, agreeAfter⟩

end Related

section Rewriting

variable {Rewrites : α → α → Prop} {before after : List α}

/-- A pairwise relation that rewriting preserves holds of the rewritten list. -/
theorem pairwise_rewritten {Related : α → α → Prop}
    (preserved : ∀ first second first' second', Rewrites first first' →
      Rewrites second second' → Related first second → Related first' second')
    (rewritten : List.Forall₂ Rewrites before after) (related : before.Pairwise Related) :
    after.Pairwise Related := by
  induction rewritten with
  | nil => exact .nil
  | cons first rest ih =>
    obtain ⟨headRelated, tailRelated⟩ := List.pairwise_cons.mp related
    refine List.pairwise_cons.mpr ⟨?_, ih tailRelated⟩
    intro second' member
    obtain ⟨second, earlier, rewrites⟩ := exists_before rest member
    exact preserved _ second _ second' first rewrites (headRelated second earlier)

/-- Elements that pass a test after rewriting are at most those that passed before,
when rewriting never makes an element pass. -/
theorem length_filter_rewritten {test : α → Bool}
    (reflected : ∀ original item, Rewrites original item → test item = true → test original = true)
    (rewritten : List.Forall₂ Rewrites before after) :
    (after.filter test).length ≤ (before.filter test).length := by
  induction rewritten with
  | nil => exact Nat.le_refl _
  | cons first rest ih =>
    rename_i original item _ _
    by_cases passes : test item = true
    · simp only [List.filter_cons, passes, reflected _ _ first passes, if_true, List.length_cons]
      omega
    · by_cases passed : test original = true
      · simp only [List.filter_cons, passes, passed, if_true, List.length_cons]
        simp only [Bool.false_eq_true, if_false]
        omega
      · simp only [List.filter_cons, passes, passed, Bool.false_eq_true, if_false]
        exact ih

end Rewriting

end CallCenter.ListRewrites
