import Mathlib.Data.List.Nodup
import Mathlib.Data.List.Infix

/-!
# Stacks whose entries carry a status

A stack of keys, its last entry on top, over a table that gives every key a status. The
discipline is that the top has one status, every entry below it another, and no key
occurs twice. Pushing a new key and popping the top keep it when the table follows.
-/

namespace CallCenter.FocusStacks

universe u v
variable {κ : Type u} {σ : Type v}

/-- The status of every entry is the one of its place, and exactly the entries below the
top have the status of that place. -/
structure Disciplined (status : κ → σ) (top below : σ) (stack : List κ) : Prop where
  distinct : stack.Nodup
  onTop : ∀ key, stack.getLast? = some key → status key = top
  underTop : ∀ key ∈ stack.dropLast, status key = below
  held : ∀ key, status key = below → key ∈ stack.dropLast

variable {status after : κ → σ} {top below : σ} {stack : List κ}

theorem Disciplined.empty (unheld : ∀ key, status key ≠ below) :
    Disciplined status top below [] where
  distinct := List.nodup_nil
  onTop := by simp
  underTop := by simp
  held := fun key waiting => absurd waiting (unheld key)

variable {key : κ}

section

variable (disciplined : Disciplined status top below stack)
include disciplined

/-- An entry is the top or has the status of those below it. -/
theorem Disciplined.entry (member : key ∈ stack) : (stack.getLast? = some key ∧ status key = top) ∨
      (stack.getLast? ≠ some key ∧ status key = below) := by
  by_cases last : stack.getLast? = some key
  · exact Or.inl ⟨last, disciplined.onTop key last⟩
  · have lower : key ∈ stack.dropLast :=
      List.mem_dropLast_of_mem_of_ne_getLast? member (Ne.symm last)
    exact Or.inr ⟨last, disciplined.underTop key lower⟩

/-- Pushing a key that is not on the stack: the old top joins the entries below, and no
other status of a key changes to or from that of the entries below. -/
theorem Disciplined.push (fresh : key ∉ stack) (raised : after key = top) (apart : top ≠ below)
    (lowered : ∀ other, stack.getLast? = some other → after other = below)
    (others : ∀ other, other ≠ key → stack.getLast? ≠ some other → after other = status other) :
    Disciplined after top below (stack ++ [key]) := by
  constructor
  · exact List.nodup_append.mpr ⟨disciplined.distinct, List.nodup_singleton key, by
      rintro other member _ single rfl
      rw [List.mem_singleton] at single
      exact fresh (single ▸ member)⟩
  · intro other last
    rw [List.getLast?_append, List.getLast?_singleton, Option.some_or] at last
    cases last
    exact raised
  · intro other member
    rw [List.dropLast_concat] at member
    rcases disciplined.entry member with ⟨last, _⟩ | ⟨lower, waiting⟩
    · exact lowered other last
    · have different : other ≠ key := fun same => fresh (same ▸ member)
      rw [others other different lower, waiting]
  · intro other waiting
    rw [List.dropLast_concat]
    have different : other ≠ key := by
      rintro rfl
      exact apart (raised.symm.trans waiting)
    by_cases last : stack.getLast? = some other
    · exact List.mem_of_getLast? last
    · rw [others other different last] at waiting
      exact List.mem_of_mem_dropLast (disciplined.held other waiting)

/-- Popping the top: the entry under it is raised, the popped key leaves for good. -/
theorem Disciplined.pop (focused : stack.getLast? = some key) (left : after key ≠ below)
    (apart : top ≠ below)
    (raised : ∀ other, stack.dropLast.getLast? = some other → after other = top)
    (others : ∀ other, other ≠ key → stack.dropLast.getLast? ≠ some other →
      after other = status other) :
    Disciplined after top below stack.dropLast := by
  obtain ⟨rest, rfl⟩ : ∃ rest, stack = rest ++ [key] := by
    obtain ⟨_, split⟩ := List.getLast?_eq_some_iff.mp focused
    exact ⟨_, split⟩
  simp only [List.dropLast_concat] at raised others ⊢
  have distinct : rest.Nodup ∧ key ∉ rest := by
    have whole : (rest ++ [key]).Nodup := disciplined.distinct
    rw [List.nodup_append] at whole
    exact ⟨whole.1, fun member => whole.2.2 key member key (by simp) rfl⟩
  refine ⟨distinct.1, raised, ?_, ?_⟩
  · intro other member
    have inRest : other ∈ rest := List.mem_of_mem_dropLast member
    have notKey : other ≠ key := fun same => distinct.2 (same ▸ inRest)
    have notLast : rest.getLast? ≠ some other := by
      intro last
      obtain ⟨_, split⟩ := List.getLast?_eq_some_iff.mp last
      subst split
      rw [List.dropLast_concat] at member
      exact (List.nodup_append.mp distinct.1).2.2 other member other (by simp) rfl
    rw [others other notKey notLast]
    exact disciplined.underTop other (by rwa [List.dropLast_concat])
  · intro other waiting
    have notKey : other ≠ key := by
      rintro rfl
      exact left waiting
    have notLast : rest.getLast? ≠ some other := fun last =>
      apart ((raised other last).symm.trans waiting)
    rw [others other notKey notLast] at waiting
    have inRest : other ∈ rest := by
      have member := disciplined.held other waiting
      rwa [List.dropLast_concat] at member
    exact List.mem_dropLast_of_mem_of_ne_getLast? inRest (Ne.symm notLast)

end

end CallCenter.FocusStacks
