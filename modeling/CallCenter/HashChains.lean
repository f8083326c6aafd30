import Mathlib.Data.List.Forall2
import Mathlib.Data.List.Induction

/-!
# Hash chains

An append-only log in which every event carries the hash of its predecessor. What it
means for one event to be intact, given its position and the hash before it, is a
parameter; so is the hash of an event.
-/

namespace CallCenter.HashChains

universe u v
variable {ε : Type u} {η : Type v}

/-- Position of the first event that is not intact. -/
def firstBroken (intact : Nat → Option η → ε → Bool) (hashOf : ε → η) :
    Nat → Option η → List ε → Option Nat
  | _, _, [] => none
  | index, previous, event :: rest =>
    if intact index previous event then
      firstBroken intact hashOf (index + 1) (some (hashOf event)) rest
    else some index

theorem firstBroken_cons (intact : Nat → Option η → ε → Bool) (hashOf : ε → η) (index : Nat)
    (previous : Option η) (event : ε) (rest : List ε) :
    firstBroken intact hashOf index previous (event :: rest) = none ↔
      intact index previous event = true ∧
        firstBroken intact hashOf (index + 1) (some (hashOf event)) rest = none := by
  by_cases sound : intact index previous event = true
  · simp [firstBroken, sound]
  · simp [firstBroken, sound]

/-- The hash that the next event has to carry. -/
def headHash (hashOf : ε → η) (previous : Option η) (events : List ε) : Option η :=
  (events.getLast?.map hashOf).or previous

theorem headHash_cons (hashOf : ε → η) (previous : Option η) (event : ε) (rest : List ε) :
    headHash hashOf previous (event :: rest) = headHash hashOf (some (hashOf event)) rest := by
  unfold headHash
  cases rest with
  | nil => rfl
  | cons => rw [List.getLast?_cons_cons]; simp [List.getLast?_cons]

/-- A longer chain is intact exactly when the shorter one is and the last event follows
the hash at its head. -/
theorem firstBroken_snoc (intact : Nat → Option η → ε → Bool) (hashOf : ε → η) (index : Nat)
    (previous : Option η) (events : List ε) (event : ε) :
    firstBroken intact hashOf index previous (events ++ [event]) = none ↔
      firstBroken intact hashOf index previous events = none ∧
        intact (index + events.length) (headHash hashOf previous events) event = true := by
  induction events generalizing index previous with
  | nil => simp [firstBroken, headHash]
  | cons first rest ih =>
    rw [List.cons_append, firstBroken_cons, ih, firstBroken_cons, headHash_cons, List.length_cons,
      and_assoc, Nat.add_right_comm, Nat.add_assoc]

theorem headHash_snoc (hashOf : ε → η) (previous : Option η) (events : List ε) (event : ε) :
    headHash hashOf previous (events ++ [event]) = some (hashOf event) := by
  simp [headHash]

/-- Two intact chains with the same head hold the same events, if a hash determines its
event, the position of the event and the hash before it. -/
theorem chains_agree {intact : Nat → Option η → ε → Bool} {hashOf : ε → η} {previous : Option η}
    {Same : ε → ε → Prop} (left right : List ε)
    (binds : ∀ first ∈ left, ∀ second ∈ right, ∀ index other before otherBefore,
      intact index before first = true → intact other otherBefore second = true →
      hashOf first = hashOf second → Same first second ∧ index = other ∧ before = otherBefore)
    (leftIntact : firstBroken intact hashOf 0 previous left = none)
    (rightIntact : firstBroken intact hashOf 0 previous right = none)
    (nonempty : left ≠ [] ∧ right ≠ [])
    (heads : headHash hashOf previous left = headHash hashOf previous right) :
    List.Forall₂ Same left right := by
  induction left using List.reverseRecOn generalizing right with
  | nil => exact absurd rfl nonempty.1
  | append_singleton leftBefore leftLast ih =>
    obtain empty | ⟨rightBefore, rightLast, rfl⟩ := List.eq_nil_or_concat' right
    · exact absurd empty nonempty.2
    rw [firstBroken_snoc, Nat.zero_add] at leftIntact rightIntact
    rw [headHash_snoc, headHash_snoc] at heads
    obtain ⟨sameLast, sameLength, sameHead⟩ := binds leftLast (by simp) rightLast (by simp) _ _ _ _
      leftIntact.2 rightIntact.2 (Option.some.inj heads)
    refine List.rel_append ?_ (List.Forall₂.cons sameLast List.Forall₂.nil)
    -- Equal positions: either both chains end here or both go on.
    cases leftBefore with
    | nil =>
      rw [List.length_eq_zero_iff.mp sameLength.symm]
      exact List.Forall₂.nil
    | cons =>
      have longer : rightBefore ≠ [] := by
        rintro rfl
        cases sameLength
      refine ih rightBefore ?_ leftIntact.1 rightIntact.1 ⟨by simp, longer⟩ sameHead
      intro earlier member other otherMember
      exact binds earlier (List.mem_append_left _ member) other (List.mem_append_left _ otherMember)

end CallCenter.HashChains
