import Mathlib.Data.List.Basic
import Mathlib.Data.List.Induction

/-!
# Keyed fields

An object is a list of keyed fields read by `List.lookup`. Writing a field
replaces its first occurrence in place and appends a missing key, which is how
an object literal with a spread behaves.
-/

namespace CallCenter.ObjectFields

universe u v w
variable {κ : Type u} {α : Type v}

section Fields

variable [DecidableEq κ]

/-- Overwrite the value at an existing key, or append a new field. -/
def setField : List (κ × α) → κ → α → List (κ × α)
  | [], key, value => [(key, value)]
  | (other, old) :: rest, key, value =>
    if other = key then (key, value) :: rest else (other, old) :: setField rest key value

/-- The object has the key as a field of its own. -/
def hasField (fields : List (κ × α)) (key : κ) : Bool := (fields.lookup key).isSome

section

variable (fields : List (κ × α))

@[simp] theorem lookup_setField_self (key : κ) (value : α) :
    (setField fields key value).lookup key = some value := by
  induction fields with
  | nil => simp [setField]
  | cons field rest ih =>
    obtain ⟨other, old⟩ := field
    by_cases same : other = key
    · simp [setField, same]
    · have distinct : (key == other) = false := beq_eq_false_iff_ne.mpr (Ne.symm same)
      simp [setField, same, List.lookup_cons, distinct, ih]

theorem lookup_setField_ne (key asked : κ) (value : α) (different : asked ≠ key) :
    (setField fields key value).lookup asked = fields.lookup asked := by
  induction fields with
  | nil =>
    have distinct : (asked == key) = false := beq_eq_false_iff_ne.mpr different
    simp [setField, List.lookup_cons, distinct]
  | cons field rest ih =>
    obtain ⟨other, old⟩ := field
    by_cases same : other = key
    · have distinct : (asked == key) = false := beq_eq_false_iff_ne.mpr different
      simp [setField, same, List.lookup_cons, distinct]
    · simp [setField, same, List.lookup_cons, ih]

/-- Writing a field adds at most its own key. -/
theorem mem_keys_setField (key asked : κ) (value : α) :
    asked ∈ (setField fields key value).map Prod.fst ↔
      asked = key ∨ asked ∈ fields.map Prod.fst := by
  induction fields with
  | nil => simp [setField]
  | cons field rest ih =>
    obtain ⟨other, old⟩ := field
    by_cases same : other = key
    · subst same
      simp [setField]
    · rw [setField, if_neg same]
      simp only [List.map_cons, List.mem_cons, ih]
      tauto

end

variable {fields : List (κ × α)}

/-- Writing a field repeats no key. -/
theorem nodup_keys_setField (distinct : (fields.map Prod.fst).Nodup) (key : κ) (value : α) :
    ((setField fields key value).map Prod.fst).Nodup := by
  induction fields with
  | nil => simp [setField]
  | cons field rest ih =>
    obtain ⟨other, old⟩ := field
    obtain ⟨apart, later⟩ := List.nodup_cons.mp distinct
    by_cases same : other = key
    · subst same
      simpa [setField] using distinct
    · rw [setField, if_neg same, List.map_cons]
      refine List.nodup_cons.mpr ⟨?_, ih later⟩
      rw [mem_keys_setField, not_or]
      exact ⟨same, apart⟩

/-- Writing a field adds at most its own value to those that pass a test. -/
theorem countP_setField_le (fields : List (κ × α)) (key : κ) (value : α) (test : α → Bool) :
    (setField fields key value).countP (fun field => test field.2) ≤
      fields.countP (fun field => test field.2) + if test value then 1 else 0 := by
  induction fields with
  | nil => simp [setField, List.countP_cons]
  | cons field =>
    obtain ⟨other, old⟩ := field
    by_cases same : other = key
    · rw [setField, if_pos same, List.countP_cons, List.countP_cons]
      dsimp only
      omega
    · rw [setField, if_neg same, List.countP_cons, List.countP_cons]
      omega

/-- Writing one field keeps what holds of all fields and of the written one. -/
theorem forall_setField {Property : κ × α → Prop} {key : κ} {value : α}
    (each : ∀ field ∈ fields, Property field) (own : Property (key, value)) :
    ∀ field ∈ setField fields key value, Property field := by
  induction fields with
  | nil => simpa [setField] using own
  | cons head rest ih =>
    obtain ⟨other, old⟩ := head
    obtain ⟨first, later⟩ := List.forall_mem_cons.mp each
    rw [setField]
    split
    · exact List.forall_mem_cons.mpr ⟨own, later⟩
    · exact List.forall_mem_cons.mpr ⟨first, ih later⟩

section

variable (fields : List (κ × α))

/-- A written object holds the new value or an old field. -/
theorem mem_setField (key : κ) (value : α) :
    ∀ field ∈ setField fields key value, field = (key, value) ∨ field ∈ fields :=
  forall_setField (fun _ member => Or.inr member) (Or.inl rfl)

/-- A key is a field of its own exactly when it is among the keys. -/
theorem hasField_iff (key : κ) :
    hasField fields key = true ↔ key ∈ fields.map Prod.fst := by
  rw [hasField, List.lookup_isSome_iff, List.mem_map]
  simp only [beq_iff_eq, @eq_comm κ key]

/-- A value that is read is the value of some field with that key. -/
theorem mem_of_lookup (key : κ) (value : α) (found : fields.lookup key = some value) :
    (key, value) ∈ fields := by
  obtain ⟨before, after, rfl, -⟩ := List.lookup_eq_some_iff.mp found
  simp

end

/-- With distinct keys every field is read at its key. -/
theorem lookup_eq_some_iff (distinct : (fields.map Prod.fst).Nodup) (key : κ) (value : α) :
    fields.lookup key = some value ↔ (key, value) ∈ fields := by
  constructor
  · exact mem_of_lookup fields key value
  · intro member
    obtain ⟨before, after, rfl⟩ := List.append_of_mem member
    refine List.lookup_eq_some_iff.mpr ⟨before, after, rfl, ?_⟩
    intro field earlier
    rw [List.map_append, List.nodup_append] at distinct
    exact bne_iff_ne.mpr (distinct.2.2 _ (List.mem_map_of_mem earlier) key (by simp)).symm

/-- The order of fields with distinct keys does not matter to what is read. -/
theorem lookup_perm {left right : List (κ × α)} (distinct : (left.map Prod.fst).Nodup)
    (perm : left.Perm right) (key : κ) : left.lookup key = right.lookup key := by
  have others : (right.map Prod.fst).Nodup := (perm.map Prod.fst).nodup_iff.mp distinct
  refine Option.ext fun value => ?_
  rw [lookup_eq_some_iff distinct, lookup_eq_some_iff others, perm.mem_iff]

section LastWrites
variable (keep : α → Bool) (keyOf : α → κ)

/-- Write the items that pass a test under their keys, one after another. -/
def lastByKey (items : List α) : List (κ × α) :=
  items.foldl (fun latest item => if keep item then setField latest (keyOf item) item else latest) []

section

variable (items : List α)

theorem lastByKey_snoc (last : α) : lastByKey keep keyOf (items ++ [last]) =
      if keep last then setField (lastByKey keep keyOf items) (keyOf last) last
      else lastByKey keep keyOf items := by
  rw [lastByKey, List.foldl_append]
  rfl

theorem nodup_keys_lastByKey :
    ((lastByKey keep keyOf items).map Prod.fst).Nodup := by
  induction items using List.reverseRecOn with
  | nil => exact List.nodup_nil
  | append_singleton items last ih =>
    rw [lastByKey_snoc]
    split
    · exact nodup_keys_setField ih _ _
    · exact ih

/-- Under a key stands the last item that was written there. -/
theorem lookup_lastByKey (key : κ) : (lastByKey keep keyOf items).lookup key =
      items.reverse.find? fun item => keep item && decide (keyOf item = key) := by
  induction items using List.reverseRecOn with
  | nil => rfl
  | append_singleton items last ih =>
    rw [lastByKey_snoc, List.reverse_append, List.reverse_singleton, List.singleton_append,
      List.find?_cons]
    by_cases passes : keep last = true
    · rw [if_pos passes, passes, Bool.true_and]
      by_cases same : keyOf last = key
      · subst same
        simp
      · rw [lookup_setField_ne _ _ _ _ (Ne.symm same), ih]
        simp [same]
    · rw [if_neg passes, ih]
      simp [passes]

/-- Every value stands under its own key. -/
theorem keys_lastByKey :
    (lastByKey keep keyOf items).map (fun field => keyOf field.2) =
      (lastByKey keep keyOf items).map Prod.fst := by
  refine List.map_congr_left fun field member => ?_
  have found := (lookup_eq_some_iff (nodup_keys_lastByKey keep keyOf items) _ _).mpr member
  rw [lookup_lastByKey] at found
  have passes := List.find?_some found
  simp only [Bool.and_eq_true, decide_eq_true_eq] at passes
  exact passes.2

/-- The values are the passing items that no later one with the same key follows. -/
theorem mem_lastByKey_iff (item : α) :
    item ∈ (lastByKey keep keyOf items).map Prod.snd ↔
      ∃ before after, items = before ++ item :: after ∧ keep item = true ∧
        ∀ other ∈ after, keep other = true → keyOf other ≠ keyOf item := by
  have distinct := nodup_keys_lastByKey keep keyOf items
  constructor
  · intro member
    obtain ⟨⟨key, _⟩, known, rfl⟩ := List.mem_map.mp member
    have found := (lookup_eq_some_iff distinct _ _).mpr known
    rw [lookup_lastByKey, List.find?_eq_some_iff_append] at found
    obtain ⟨passes, after, before, split, last⟩ := found
    simp only [Bool.and_eq_true, decide_eq_true_eq] at passes
    refine ⟨before.reverse, after.reverse, ?_, passes.1, ?_⟩
    · rw [← List.reverse_reverse items, split]
      simp
    · intro other later kept same
      have failed := last other (List.mem_reverse.mp later)
      simp [kept, same.trans passes.2] at failed
  · rintro ⟨before, after, rfl, passes, last⟩
    refine List.mem_map.mpr ⟨(keyOf item, item), ?_, rfl⟩
    rw [← lookup_eq_some_iff distinct, lookup_lastByKey, List.find?_eq_some_iff_append]
    refine ⟨by simp [passes], after.reverse, before.reverse, by simp, ?_⟩
    intro other later
    by_cases kept : keep other = true
    · simp [last other (List.mem_reverse.mp later) kept]
    · simp [kept]

end

end LastWrites

/-- Change every value and no key. -/
def mapValues {β : Type w} (change : α → β) (fields : List (κ × α)) : List (κ × β) :=
  fields.map fun field => (field.1, change field.2)

variable {β : Type w}

@[simp] theorem lookup_mapValues (change : α → β) (fields : List (κ × α)) (key : κ) :
    (mapValues change fields).lookup key = (fields.lookup key).map change := by
  induction fields with
  | nil => rfl
  | cons field rest ih =>
    obtain ⟨other, old⟩ := field
    rw [mapValues] at ih ⊢
    rw [List.map_cons, List.lookup_cons, List.lookup_cons]
    cases key == other with
    | true => rfl
    | false => exact ih

@[simp] theorem hasField_mapValues (change : α → β) (fields : List (κ × α))
    (key : κ) : hasField (mapValues change fields) key = hasField fields key := by
  rw [hasField, hasField, lookup_mapValues, Option.isSome_map]

/-- Writing a field and changing all values may be done in either order. -/
theorem mapValues_setField (change : α → β) (fields : List (κ × α)) (key : κ) (value : α) :
    mapValues change (setField fields key value) =
      setField (mapValues change fields) key (change value) := by
  induction fields with
  | nil => rfl
  | cons field rest ih =>
    obtain ⟨other, old⟩ := field
    rw [mapValues] at ih ⊢
    by_cases same : other = key
    · simp [setField, mapValues, same]
    · simp only [setField, if_neg same, List.map_cons, ih, mapValues]

/-- Keeping the fields whose key passes a test does not change what is read at
such a key. -/
theorem lookup_filter_keys (fields : List (κ × α)) (keep : κ → Bool) (key : κ) (kept : keep key) :
    (fields.filter (fun field => keep field.1)).lookup key = fields.lookup key := by
  induction fields with
  | nil => rfl
  | cons field rest ih =>
    obtain ⟨other, old⟩ := field
    by_cases passes : keep other = true
    · simp [passes, List.lookup_cons, ih]
    · have distinct : (key == other) = false := by
        refine beq_eq_false_iff_ne.mpr ?_
        rintro rfl
        exact passes kept
      simp [passes, List.lookup_cons, distinct, ih]

end Fields

end CallCenter.ObjectFields
