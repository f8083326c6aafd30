import Mathlib.Data.List.Basic

/-!
# Dotted paths

A path is a nonempty sequence of segments joined by dots. When no segment
contains a dot, the joined text determines the segments, splitting recovers
them, and a textual test for a path followed by a dot is exactly the test for a
proper initial sequence of segments.
-/

namespace CallCenter.DottedPaths

/-- Join segments with single dots. -/
def joinDots (segments : List String) : String :=
  String.ofList (['.'].intercalate (segments.map String.toList))

/-- Split at every dot, keeping empty segments. -/
def splitDots (path : String) : List String := (path.toList.splitOn '.').map String.ofList

/-- The text begins with the given lead. -/
def startsWith (text lead : String) : Bool := lead.toList.isPrefixOf text.toList

/-- No segment contains the separator. -/
def DotFree (segments : List String) : Prop := ∀ segment ∈ segments, '.' ∉ segment.toList

@[simp] theorem joinDots_singleton (segment : String) : joinDots [segment] = segment := by
  simp [joinDots]

/-- A dot joins the texts of two sequences of segments. -/
theorem joinDots_append (front back : List String) (frontNonempty : front ≠ [])
    (backNonempty : back ≠ []) :
    joinDots (front ++ back) = joinDots front ++ "." ++ joinDots back := by
  obtain ⟨next, others, rfl⟩ := List.exists_cons_of_ne_nil backNonempty
  induction front with
  | nil => exact absurd rfl frontNonempty
  | cons first rest ih =>
    cases rest with
    | nil =>
      apply String.toList_inj.mp
      simp [joinDots]
    | cons =>
      have tail := congrArg String.toList (ih (by simp))
      apply String.toList_inj.mp
      simp only [joinDots, String.toList_append, String.toList_ofList, List.cons_append,
        List.map_append, List.map_cons, List.intercalate_cons_cons] at tail ⊢
      simp [tail]

/-- One more segment is one more dot and its text. -/
theorem joinDots_snoc (segments : List String) (segment : String) (nonempty : segments ≠ []) :
    joinDots (segments ++ [segment]) = joinDots segments ++ "." ++ segment := by
  rw [joinDots_append segments [segment] nonempty (by simp), joinDots_singleton]

/-- A continued sequence of segments continues the text after a dot. -/
theorem startsWith_joinDots_append (front back : List String) (frontNonempty : front ≠ [])
    (backNonempty : back ≠ []) :
    startsWith (joinDots (front ++ back)) (joinDots front ++ ".") := by
  rw [startsWith, List.isPrefixOf_iff_prefix, joinDots_append front back frontNonempty backNonempty]
  exact ⟨(joinDots back).toList, String.toList_append.symm⟩

/-- Splitting recovers dot-free segments. -/
theorem splitDots_joinDots (segments : List String) (nonempty : segments ≠ [])
    (free : DotFree segments) : splitDots (joinDots segments) = segments := by
  have separated : ∀ text ∈ segments.map String.toList, '.' ∉ text := by
    intro text member
    obtain ⟨segment, belongs, rfl⟩ := List.mem_map.mp member
    exact free segment belongs
  rw [splitDots, joinDots, String.toList_ofList,
    List.splitOn_intercalate '.' separated (by simpa using nonempty)]
  simp [Function.comp_def]

/-- A text without dots is one segment. -/
theorem splitDots_of_dotless (text : String) (dotless : '.' ∉ text.toList) :
    splitDots text = [text] := by
  have single := splitDots_joinDots [text] (by simp) (by simpa [DotFree] using dotless)
  rwa [joinDots_singleton] at single

/-- A dot separates the segments on either side of it. -/
theorem splitDots_append_dot (left right : String) :
    splitDots (left ++ "." ++ right) = splitDots left ++ splitDots right := by
  have characters : (left ++ "." ++ right).toList = left.toList ++ '.' :: right.toList := by simp
  rw [splitDots, characters, List.splitOn_append_cons_self, List.map_append]
  rfl

end CallCenter.DottedPaths
