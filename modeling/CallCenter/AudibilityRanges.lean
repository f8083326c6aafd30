import CallCenter.AudibilityReducer

/-!
# The range arithmetic of the ledger

What the four range functions compute, as sets of samples. All ranges that the ledger handles
have passed `isRange`; on such ranges the filter of `normalizeSampleRanges` drops nothing, so
the functions are the union, intersection, difference and inclusion of the sets, and their
results pass the check again.
-/

namespace CallCenter.AudibilityRanges

open HalfOpenSpans AudibilityEvents AudibilityReducer

/-- Every range has passed the check. -/
def Valid (ranges : List SampleRange) : Prop := ∀ range ∈ ranges, isRange range = true

variable {ranges left right : List SampleRange}

/-- Valid lists append to a valid one. -/
theorem Valid.append (leftValid : Valid left) (rightValid : Valid right) : Valid (left ++ right) := by
  intro range member
  rcases List.mem_append.mp member with first | second
  · exact leftValid range first
  · exact rightValid range second

theorem Valid.singleton {range : SampleRange} (valid : isRange range) : Valid [range] := by
  intro other member
  rw [List.mem_singleton.mp member]
  exact valid

/-- A list joined from valid ones is valid. -/
theorem Valid.flatMap {α : Type} {items : List α} {rangesOf : α → List SampleRange}
    (each : ∀ item ∈ items, Valid (rangesOf item)) : Valid (items.flatMap rangesOf) := by
  intro range member
  obtain ⟨item, itemMember, rangeMember⟩ := List.mem_flatMap.mp member
  exact each item itemMember range rangeMember

/-- A sample of a valid list is a safe integer, and so is its successor. -/
theorem Valid.bounded (valid : Valid ranges) {sample : Nat}
    (covered : Covers ranges sample) : sample < MAX_SAFE_INTEGER := by
  obtain ⟨range, member, held⟩ := covered
  have limit := ((isRange_iff range).mp (valid range member)).2
  exact Nat.lt_of_lt_of_le held.2 limit

/-- Proper ranges of safe samples are valid. -/
theorem valid_of_bounded (proper : Proper ranges)
    (bounded : ∀ sample, Covers ranges sample → sample < MAX_SAFE_INTEGER) : Valid ranges := by
  intro range member
  have nonempty := proper range member
  have last : Covers ranges (range.stop - 1) := by
    refine ⟨range, member, ?_⟩
    unfold Span.Holds
    omega
  have limit := bounded _ last
  exact (isRange_iff range).mpr ⟨nonempty, by omega⟩

/-! ## Union -/

instance : IsTrans SampleRange rangeLe := ⟨by
  intro first second third earlier later
  unfold rangeLe at *
  omega⟩

instance : Std.Total rangeLe := ⟨by
  intro left right
  unfold rangeLe
  omega⟩

section

variable (ranges : List SampleRange)

/-- The sort leaves the starts in ascending order. -/
theorem sorted_starts :
    (ranges.insertionSort rangeLe).Pairwise fun left right => left.start ≤ right.start := by
  refine (List.pairwise_insertionSort rangeLe ranges).imp ?_
  intro left right ordered
  unfold rangeLe at ordered
  omega

/-- Normal ranges are apart and cover what the proper ones did. -/
theorem normalize_spec : Separated (normalizeSampleRanges ranges) ∧
      ∀ sample, Covers (normalizeSampleRanges ranges) sample ↔
        Covers (ranges.filter isRange) sample := by
  have rearranged := List.perm_insertionSort rangeLe (ranges.filter isRange)
  have proper : Proper ((ranges.filter isRange).insertionSort rangeLe) := by
    intro range member
    have kept := (rearranged.mem_iff).mp member
    exact isRange_proper (List.mem_filter.mp kept).2
  obtain ⟨separated, covered⟩ := mergeSorted_spec proper (sorted_starts _)
  refine ⟨separated, ?_⟩
  intro sample
  rw [normalizeSampleRanges, covered]
  simp only [Covers, rearranged.mem_iff]

theorem normalize_separated :
    Separated (normalizeSampleRanges ranges) :=
  (normalize_spec ranges).1

end

/-- Of proper ranges nothing is lost. -/
theorem normalize_covers (valid : Valid ranges) (sample : Nat) :
    Covers (normalizeSampleRanges ranges) sample ↔ Covers ranges sample := by
  rw [(normalize_spec ranges).2, List.filter_eq_self.mpr valid]

/-- Whatever is normalised, the result is valid. -/
theorem normalize_valid (ranges : List SampleRange) : Valid (normalizeSampleRanges ranges) := by
  have kept : Valid (ranges.filter isRange) := fun range member => (List.mem_filter.mp member).2
  refine valid_of_bounded (normalize_separated ranges).proper ?_
  intro sample covered
  exact kept.bounded (((normalize_spec ranges).2 sample).mp covered)

/-! ## Difference -/

theorem subtract_separated (source removed : List SampleRange) :
    Separated (subtractRanges source removed) :=
  (foldl_cutSpans (normalize_separated source) (normalize_separated removed).proper).1

/-- Samples of the source that were not removed. -/
theorem subtract_covers {source removed : List SampleRange} (sourceValid : Valid source)
    (removedValid : Valid removed) (sample : Nat) :
    Covers (subtractRanges source removed) sample ↔
      Covers source sample ∧ ¬ Covers removed sample := by
  have covered := (foldl_cutSpans (normalize_separated source)
    (normalize_separated removed).proper).2 sample
  rw [normalize_covers sourceValid, normalize_covers removedValid] at covered
  exact covered

theorem subtract_valid {source removed : List SampleRange} (sourceValid : Valid source)
    (removedValid : Valid removed) : Valid (subtractRanges source removed) := by
  refine valid_of_bounded (subtract_separated source removed).proper ?_
  intro sample covered
  exact sourceValid.bounded ((subtract_covers sourceValid removedValid sample).mp covered).1

/-! ## Intersection -/

/-- The common parts of valid lists are valid. -/
theorem meets_valid (leftValid : Valid left) : Valid (meets left right) := by
  refine valid_of_bounded ?_ ?_
  · intro common member
    obtain ⟨leftRange, -, found⟩ := List.mem_flatMap.mp member
    obtain ⟨rightRange, -, met⟩ := List.mem_filterMap.mp found
    exact meet_proper met
  · intro sample covered
    exact leftValid.bounded ((meets_covers left right sample).mp covered).1

theorem intersect_separated (left right : List SampleRange) :
    Separated (intersectRanges left right) :=
  normalize_separated _

/-- Samples that both lists cover. -/
theorem intersect_covers (leftValid : Valid left) (sample : Nat) :
    Covers (intersectRanges left right) sample ↔ Covers left sample ∧ Covers right sample := by
  rw [intersectRanges, normalize_covers (meets_valid leftValid), meets_covers]

theorem intersect_valid (left right : List SampleRange) : Valid (intersectRanges left right) :=
  normalize_valid _

/-! ## Inclusion -/

/-- A covered range has each sample covered. -/
theorem covers_of_coversRange {covering : List SampleRange} {target : SampleRange}
    (coveringValid : Valid covering) (targetValid : isRange target)
    (covered : coversRange covering target) {sample : Nat} (held : target.Holds sample) :
    Covers covering sample := by
  rw [coversRange, decide_eq_true_eq, List.length_eq_zero_iff] at covered
  by_contra outside
  have left := (subtract_covers (Valid.singleton targetValid) coveringValid sample).mpr
    ⟨(covers_singleton target sample).mpr held, outside⟩
  rw [covered] at left
  exact covers_nil sample left

/-- Ranges overlap exactly if they share a sample. -/
theorem rangesOverlap_iff {left right : SampleRange} (leftValid : isRange left)
    (rightValid : isRange right) :
    rangesOverlap left right = true ↔ ∃ sample, left.Holds sample ∧ right.Holds sample :=
  overlap_iff (isRange_proper leftValid) (isRange_proper rightValid)

end CallCenter.AudibilityRanges
