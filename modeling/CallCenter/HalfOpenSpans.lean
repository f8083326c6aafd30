import Mathlib.Data.List.Induction
import Mathlib.Data.List.Sort

/-!
# Lists of half-open spans

A list of half-open spans stands for the set of numbers that it covers. The operations
below work on such lists as loops over arrays do: merging appends to or widens the last
span, cutting replaces each span by its pieces. Their rules say which numbers the result
covers, and that it is separated: ascending, with a gap after every span.
-/

namespace CallCenter.HalfOpenSpans

/-- The numbers from `start` on, before `stop`. -/
structure Span where
  start : Nat
  stop : Nat
deriving DecidableEq

/-- The span holds the number. -/
def Span.Holds (span : Span) (point : Nat) : Prop := span.start ≤ point ∧ point < span.stop

instance (span : Span) (point : Nat) : Decidable (span.Holds point) :=
  inferInstanceAs (Decidable (_ ∧ _))

/-- Some span of the list holds the number. -/
def Covers (spans : List Span) (point : Nat) : Prop := ∃ span ∈ spans, span.Holds point

instance (spans : List Span) (point : Nat) : Decidable (Covers spans point) :=
  inferInstanceAs (Decidable (∃ span ∈ spans, span.Holds point))

@[simp] theorem covers_nil (point : Nat) : ¬ Covers [] point := by
  rintro ⟨span, member, -⟩
  cases member

@[simp] theorem covers_cons (span : Span) (rest : List Span) (point : Nat) :
    Covers (span :: rest) point ↔ span.Holds point ∨ Covers rest point := by
  simp [Covers]

@[simp] theorem covers_append (left right : List Span) (point : Nat) :
    Covers (left ++ right) point ↔ Covers left point ∨ Covers right point := by
  simp only [Covers, List.mem_append, or_and_right, exists_or]

theorem covers_singleton (span : Span) (point : Nat) : Covers [span] point ↔ span.Holds point := by
  simp

theorem covers_flatMap {α : Type} (items : List α) (spansOf : α → List Span) (point : Nat) :
    Covers (items.flatMap spansOf) point ↔ ∃ item ∈ items, Covers (spansOf item) point := by
  simp only [Covers, List.mem_flatMap]
  constructor
  · rintro ⟨span, ⟨item, member, spanned⟩, holds⟩
    exact ⟨item, member, span, spanned, holds⟩
  · rintro ⟨item, member, span, spanned, holds⟩
    exact ⟨span, ⟨item, member, spanned⟩, holds⟩

/-- Every span holds a number. -/
def Proper (spans : List Span) : Prop := ∀ span ∈ spans, span.start < span.stop

/-- There is a gap between two spans. -/
def Before (left right : Span) : Prop := left.stop < right.start

instance (left right : Span) : Decidable (Before left right) :=
  inferInstanceAs (Decidable (_ < _))

/-- Ascending proper spans that neither overlap nor touch. -/
structure Separated (spans : List Span) : Prop where
  proper : Proper spans
  ordered : spans.Pairwise Before

theorem Separated.nil : Separated [] := by
  constructor
  · intro span member
    cases member
  · exact List.Pairwise.nil

variable {spans merged : List Span} {span cut : Span}

/-- No number is held by two spans of a separated list. -/
theorem Separated.disjoint (separated : Separated spans) :
    spans.Pairwise fun left right => ∀ point, ¬ (left.Holds point ∧ right.Holds point) := by
  refine separated.ordered.imp_of_mem ?_
  intro left right _ _ before point both
  obtain ⟨leftHolds, rightHolds⟩ := both
  have gap : left.stop < right.start := before
  have leftBound := leftHolds.2
  have rightBound := rightHolds.1
  omega

/-! ## Merging -/

/-- One round of the merging loop: the next span opens a new entry behind a gap and
otherwise widens the last entry. -/
def mergeNext (merged : List Span) (span : Span) : List Span :=
  match merged.getLast? with
  | none => merged ++ [span]
  | some previous =>
    if previous.stop < span.start then merged ++ [span]
    else if previous.stop < span.stop then merged.dropLast ++ [⟨previous.start, span.stop⟩]
    else merged

/-- Merge spans that ascend by their start. -/
def mergeSorted (spans : List Span) : List Span := spans.foldl mergeNext []

theorem mergeNext_snoc (before : List Span) (previous span : Span) :
    mergeNext (before ++ [previous]) span =
      if previous.stop < span.start then before ++ [previous] ++ [span]
      else if previous.stop < span.stop then before ++ [⟨previous.start, span.stop⟩]
      else before ++ [previous] := by
  simp [mergeNext]

theorem separated_snoc_iff (before : List Span) (last : Span) : Separated (before ++ [last]) ↔
      Separated before ∧ last.start < last.stop ∧ ∀ span ∈ before, span.stop < last.start := by
  constructor
  · rintro ⟨proper, ordered⟩
    rw [List.pairwise_append] at ordered
    refine ⟨⟨?_, ordered.1⟩, ?_, ?_⟩
    · intro span member
      exact proper span (List.mem_append_left _ member)
    · exact proper last (List.mem_append_right _ List.mem_cons_self)
    · intro span member
      exact ordered.2.2 span member last List.mem_cons_self
  · rintro ⟨⟨proper, ordered⟩, lastProper, apart⟩
    constructor
    · intro span member
      rcases List.mem_append.mp member with earlier | final
      · exact proper span earlier
      · cases List.mem_singleton.mp final
        exact lastProper
    · rw [List.pairwise_append]
      refine ⟨ordered, List.pairwise_singleton _ _, ?_⟩
      intro span member other final
      cases List.mem_singleton.mp final
      exact apart span member

/-- The round keeps the entries separated, as the next span starts no earlier than any. -/
theorem mergeNext_separated (separated : Separated merged)
    (proper : span.start < span.stop) (ascending : ∀ entry ∈ merged, entry.start ≤ span.start) :
    Separated (mergeNext merged span) := by
  obtain rfl | ⟨before, previous, rfl⟩ := List.eq_nil_or_concat' merged
  · exact (separated_snoc_iff [] span).mpr ⟨.nil, proper, by simp⟩
  · rw [mergeNext_snoc]
    obtain ⟨earlier, previousProper, apart⟩ := (separated_snoc_iff before previous).mp separated
    by_cases gap : previous.stop < span.start
    · rw [if_pos gap]
      refine (separated_snoc_iff _ span).mpr ⟨separated, proper, ?_⟩
      intro entry member
      rcases List.mem_append.mp member with first | final
      · have bound := apart entry first
        omega
      · cases List.mem_singleton.mp final
        exact gap
    · rw [if_neg gap]
      by_cases wider : previous.stop < span.stop
      · rw [if_pos wider]
        refine (separated_snoc_iff before _).mpr ⟨earlier, ?_, apart⟩
        change previous.start < span.stop
        omega
      · rw [if_neg wider]
        exact separated

/-- The round covers the new span in addition. -/
theorem mergeNext_covers (ascending : ∀ entry ∈ merged, entry.start ≤ span.start) (point : Nat) :
    Covers (mergeNext merged span) point ↔ Covers merged point ∨ span.Holds point := by
  obtain rfl | ⟨before, previous, rfl⟩ := List.eq_nil_or_concat' merged
  · simp [mergeNext]
  · rw [mergeNext_snoc]
    have starts : previous.start ≤ span.start :=
      ascending previous (List.mem_append_right _ List.mem_cons_self)
    by_cases gap : previous.stop < span.start
    · rw [if_pos gap, covers_append (before ++ [previous]), covers_singleton]
    · rw [if_neg gap]
      by_cases wider : previous.stop < span.stop
      · rw [if_pos wider, covers_append, covers_append, covers_singleton, covers_singleton, or_assoc]
        have union : (⟨previous.start, span.stop⟩ : Span).Holds point ↔
            previous.Holds point ∨ span.Holds point := by
          unfold Span.Holds
          dsimp only
          omega
        rw [union]
      · rw [if_neg wider]
        have inside : span.Holds point → Covers (before ++ [previous]) point := by
          intro held
          refine (covers_append _ _ _).mpr (Or.inr ((covers_singleton _ _).mpr ?_))
          unfold Span.Holds at held ⊢
          omega
        exact (or_iff_left_of_imp inside).symm

/-- The starts of the entries stay among those of the entries and the new span. -/
theorem mergeNext_starts {entry : Span} (member : entry ∈ mergeNext merged span) :
    entry.start = span.start ∨ ∃ old ∈ merged, entry.start = old.start := by
  obtain rfl | ⟨before, previous, rfl⟩ := List.eq_nil_or_concat' merged
  · left
    rw [List.mem_singleton.mp member]
  · rw [mergeNext_snoc] at member
    split_ifs at member with gap wider
    · rcases List.mem_append.mp member with old | new
      · exact Or.inr ⟨entry, old, rfl⟩
      · left
        rw [List.mem_singleton.mp new]
    · right
      rcases List.mem_append.mp member with old | new
      · exact ⟨entry, List.mem_append_left _ old, rfl⟩
      · refine ⟨previous, List.mem_append_right _ List.mem_cons_self, ?_⟩
        rw [List.mem_singleton.mp new]
    · exact Or.inr ⟨entry, member, rfl⟩

/-- What the loop computes from a state in which no entry starts after a remaining span. -/
theorem foldl_mergeNext (separated : Separated merged)
    (proper : Proper spans) (sorted : spans.Pairwise fun left right => left.start ≤ right.start)
    (ascending : ∀ entry ∈ merged, ∀ span ∈ spans, entry.start ≤ span.start) :
    Separated (spans.foldl mergeNext merged) ∧
      ∀ point, Covers (spans.foldl mergeNext merged) point ↔
        Covers merged point ∨ Covers spans point := by
  induction spans generalizing merged with
  | nil => exact ⟨separated, fun point => by simp⟩
  | cons span rest ih =>
    obtain ⟨leads, restSorted⟩ := List.pairwise_cons.mp sorted
    have reached : ∀ entry ∈ merged, entry.start ≤ span.start := by
      intro entry member
      exact ascending entry member span List.mem_cons_self
    have restProper : Proper rest := fun other member => proper other (List.mem_cons_of_mem _ member)
    have restAscending : ∀ entry ∈ mergeNext merged span, ∀ other ∈ rest,
        entry.start ≤ other.start := by
      intro entry member other later
      rcases mergeNext_starts member with same | ⟨old, oldMember, same⟩
      · rw [same]
        exact leads other later
      · rw [same]
        exact ascending old oldMember other (List.mem_cons_of_mem _ later)
    obtain ⟨result, covered⟩ := ih
      (mergeNext_separated separated (proper span List.mem_cons_self) reached)
      restProper restSorted restAscending
    refine ⟨result, ?_⟩
    intro point
    rw [List.foldl_cons, covered, mergeNext_covers reached, covers_cons, or_assoc]

theorem mergeSorted_spec (proper : Proper spans)
    (sorted : spans.Pairwise fun left right => left.start ≤ right.start) :
    Separated (mergeSorted spans) ∧
      ∀ point, Covers (mergeSorted spans) point ↔ Covers spans point := by
  obtain ⟨separated, covered⟩ := foldl_mergeNext Separated.nil proper sorted (by simp)
  refine ⟨separated, ?_⟩
  intro point
  rw [mergeSorted, covered]
  simp

/-! ## Cutting -/

/-- What remains of a span around a cut. -/
def cutSpan (cut span : Span) : List Span :=
  if cut.stop ≤ span.start ∨ span.stop ≤ cut.start then [span]
  else (if span.start < cut.start then [⟨span.start, cut.start⟩] else [])
    ++ (if cut.stop < span.stop then [⟨cut.stop, span.stop⟩] else [])

/-- Cut every span. -/
def cutSpans (spans : List Span) (cut : Span) : List Span := spans.flatMap (cutSpan cut)

theorem cutSpan_covers (cut span : Span) (point : Nat) :
    Covers (cutSpan cut span) point ↔ span.Holds point ∧ ¬ cut.Holds point := by
  unfold cutSpan
  split_ifs with apart left right right
  all_goals
    simp only [List.nil_append, List.append_nil, List.cons_append, covers_cons, covers_nil,
      Span.Holds, or_false, false_iff]
    omega

theorem cutSpans_covers (spans : List Span) (cut : Span) (point : Nat) :
    Covers (cutSpans spans cut) point ↔ Covers spans point ∧ ¬ cut.Holds point := by
  rw [cutSpans, covers_flatMap]
  simp only [cutSpan_covers]
  constructor
  · rintro ⟨span, member, held, outside⟩
    exact ⟨⟨span, member, held⟩, outside⟩
  · rintro ⟨⟨span, member, held⟩, outside⟩
    exact ⟨span, member, held, outside⟩

/-- A piece of a proper span is proper and lies inside it. -/
theorem cutSpan_inside {piece : Span} (proper : span.start < span.stop)
    (member : piece ∈ cutSpan cut span) :
    piece.start < piece.stop ∧ span.start ≤ piece.start ∧ piece.stop ≤ span.stop := by
  unfold cutSpan at member
  split_ifs at member with apart left right right
  all_goals simp only [List.nil_append, List.append_nil, List.cons_append, List.mem_cons,
    List.not_mem_nil, or_false] at member
  · subst member
    omega
  · rcases member with rfl | rfl
    · dsimp only
      omega
    · dsimp only
      omega
  · subst member
    dsimp only
    omega
  · subst member
    dsimp only
    omega

/-- A proper cut leaves a gap between the pieces. -/
theorem cutSpan_ordered (proper : cut.start < cut.stop) (span : Span) :
    (cutSpan cut span).Pairwise Before := by
  unfold cutSpan
  split_ifs with apart left right right
  · exact List.pairwise_singleton _ _
  · simpa [Before] using proper
  · exact List.pairwise_singleton _ _
  · exact List.pairwise_singleton _ _
  · exact List.Pairwise.nil

theorem cutSpans_separated (separated : Separated spans)
    (proper : cut.start < cut.stop) : Separated (cutSpans spans cut) := by
  constructor
  · intro piece member
    obtain ⟨span, spanMember, pieceMember⟩ := List.mem_flatMap.mp member
    exact (cutSpan_inside (separated.proper span spanMember) pieceMember).1
  · refine List.pairwise_flatMap.mpr ⟨fun span _ => cutSpan_ordered proper span, ?_⟩
    refine separated.ordered.imp_of_mem ?_
    intro left right leftMember rightMember before leftPiece leftPieceMember rightPiece
      rightPieceMember
    have leftInside := cutSpan_inside (separated.proper left leftMember) leftPieceMember
    have rightInside := cutSpan_inside (separated.proper right rightMember) rightPieceMember
    have gap : left.stop < right.start := before
    change leftPiece.stop < rightPiece.start
    omega

/-- Cuts, one after the other. -/
theorem foldl_cutSpans {cuts : List Span} (separated : Separated spans) (proper : Proper cuts) :
    Separated (cuts.foldl cutSpans spans) ∧ ∀ point, Covers (cuts.foldl cutSpans spans) point ↔
        Covers spans point ∧ ¬ Covers cuts point := by
  induction cuts generalizing spans with
  | nil => exact ⟨separated, fun point => by simp⟩
  | cons cut rest ih =>
    obtain ⟨result, covered⟩ := ih (cutSpans_separated separated (proper cut List.mem_cons_self))
      (fun other member => proper other (List.mem_cons_of_mem _ member))
    refine ⟨result, ?_⟩
    intro point
    rw [List.foldl_cons, covered, cutSpans_covers, covers_cons, not_or, and_assoc]

/-! ## Meeting -/

/-- The common part of two spans, if there is one. -/
def meet (left right : Span) : Option Span :=
  if max left.start right.start < min left.stop right.stop then
    some ⟨max left.start right.start, min left.stop right.stop⟩
  else none

theorem meet_holds (left right : Span) (point : Nat) :
    (∃ common, meet left right = some common ∧ common.Holds point) ↔
      left.Holds point ∧ right.Holds point := by
  unfold meet
  split_ifs with meeting
  · simp only [Option.some.injEq, exists_eq_left', Span.Holds]
    omega
  · simp only [false_and, exists_false, Span.Holds, false_iff]
    omega

theorem meet_proper {left right common : Span} (met : meet left right = some common) :
    common.start < common.stop := by
  unfold meet at met
  split_ifs at met with meeting
  cases met
  exact meeting

/-- The common parts of every pair. -/
def meets (left right : List Span) : List Span :=
  left.flatMap fun leftSpan => right.filterMap fun rightSpan => meet leftSpan rightSpan

theorem meets_covers (left right : List Span) (point : Nat) :
    Covers (meets left right) point ↔ Covers left point ∧ Covers right point := by
  unfold meets
  rw [covers_flatMap]
  constructor
  · rintro ⟨leftSpan, leftMember, common, commonMember, held⟩
    obtain ⟨rightSpan, rightMember, met⟩ := List.mem_filterMap.mp commonMember
    obtain ⟨leftHeld, rightHeld⟩ := (meet_holds leftSpan rightSpan point).mp ⟨common, met, held⟩
    exact ⟨⟨leftSpan, leftMember, leftHeld⟩, rightSpan, rightMember, rightHeld⟩
  · rintro ⟨⟨leftSpan, leftMember, leftHeld⟩, rightSpan, rightMember, rightHeld⟩
    obtain ⟨common, met, held⟩ := (meet_holds leftSpan rightSpan point).mpr ⟨leftHeld, rightHeld⟩
    exact ⟨leftSpan, leftMember, common, List.mem_filterMap.mpr ⟨rightSpan, rightMember, met⟩, held⟩

/-- Two spans overlap. -/
def overlap (left right : Span) : Bool :=
  decide (left.start < right.stop) && decide (right.start < left.stop)

/-- Proper spans overlap exactly if they share a number. -/
theorem overlap_iff {left right : Span} (leftProper : left.start < left.stop)
    (rightProper : right.start < right.stop) :
    overlap left right = true ↔ ∃ point, left.Holds point ∧ right.Holds point := by
  simp only [overlap, Bool.and_eq_true, decide_eq_true_eq]
  constructor
  · rintro ⟨before, after⟩
    refine ⟨max left.start right.start, ?_, ?_⟩
    · unfold Span.Holds
      omega
    · unfold Span.Holds
      omega
  · rintro ⟨point, leftHeld, rightHeld⟩
    unfold Span.Holds at leftHeld rightHeld
    omega

end CallCenter.HalfOpenSpans
