import CallCenter.ListRewrites
import Mathlib.Data.List.Nodup

/-!
# Tables with a key, mirrored by a list

A table is a list of rows without repeated keys. A second list mirrors it when both
agree position by position and agreement fixes the key of the row. An update of one
key then touches exactly one position, so overwriting the mirrored item at the same
position restores the agreement.
-/

namespace CallCenter.KeyedTables

open ListRewrites

universe u v w
variable {α : Type u} {ρ : Type v} {κ : Type w}

/-- No key occurs twice. -/
def DistinctKeys (keyOf : ρ → κ) (table : List ρ) : Prop := (table.map keyOf).Nodup

/-- The items agree with the rows position by position, and no key occurs twice. -/
structure Mirrors (Agrees : α → ρ → Prop) (keyOf : ρ → κ) (items : List α) (table : List ρ) :
    Prop where
  agree : List.Forall₂ Agrees items table
  distinct : DistinctKeys keyOf table

variable {keyOf : ρ → κ} {table : List ρ}

/-- Rows of a table with the same key are the same row. -/
theorem DistinctKeys.same_row (distinct : DistinctKeys keyOf table) {first second : ρ}
    (left : first ∈ table) (right : second ∈ table) (same : keyOf first = keyOf second) :
    first = second :=
  List.inj_on_of_nodup_map distinct left right same

/-- A row with a new key may be appended. -/
theorem DistinctKeys.snoc (distinct : DistinctKeys keyOf table) {row : ρ}
    (fresh : ∀ other ∈ table, keyOf other ≠ keyOf row) : DistinctKeys keyOf (table ++ [row]) := by
  unfold DistinctKeys
  rw [List.map_append, List.map_singleton]
  refine List.nodup_append.mpr ⟨distinct, List.nodup_singleton _, ?_⟩
  intro first member second last
  obtain ⟨other, known, rfl⟩ := List.mem_map.mp member
  rw [List.mem_singleton.mp last]
  exact fresh other known

/-- A list whose keys are distinct and outside those seen before, checked from its front. -/
theorem distinct_cons_iff (keyOf : ρ → κ) (row : ρ) (rest : List ρ) (seen : List κ) :
    (((row :: rest).map keyOf).Nodup ∧ ∀ other ∈ row :: rest, keyOf other ∉ seen) ↔
      keyOf row ∉ seen ∧ (rest.map keyOf).Nodup ∧ ∀ other ∈ rest, keyOf other ∉ keyOf row :: seen := by
  simp only [List.map_cons, List.nodup_cons, List.mem_map, List.mem_cons, not_or, not_exists,
    not_and, forall_eq_or_imp]
  constructor
  · rintro ⟨⟨apart, distinct⟩, fresh, unseen⟩
    exact ⟨fresh, distinct, fun other member => ⟨apart other member, unseen other member⟩⟩
  · rintro ⟨fresh, distinct, later⟩
    exact ⟨⟨fun other member => (later other member).1, distinct⟩, fresh,
      fun other member => (later other member).2⟩

/-- Lists related by a relation that fixes the keys have the same keys. -/
theorem keys_eq {Related : α → ρ → Prop} {itemKey : α → κ} {items : List α}
    (keyed : ∀ item row, Related item row → keyOf row = itemKey item)
    (related : List.Forall₂ Related items table) : table.map keyOf = items.map itemKey := by
  induction related with
  | nil => rfl
  | cons first rest ih =>
    simp only [List.map_cons, keyed _ _ first, ih]

/-- Changes that keep the key keep all keys distinct. -/
theorem DistinctKeys.rewritten {before after : List ρ} {Rewrites : ρ → ρ → Prop}
    (distinct : DistinctKeys keyOf before)
    (keeps : ∀ row updated, Rewrites row updated → keyOf updated = keyOf row)
    (rewritten : List.Forall₂ Rewrites before after) : DistinctKeys keyOf after := by
  unfold DistinctKeys
  rw [keys_eq keeps rewritten]
  exact distinct

/-- So does a map that keeps the key. -/
theorem DistinctKeys.mapped {change : ρ → ρ} (distinct : DistinctKeys keyOf table)
    (keeps : ∀ row, keyOf (change row) = keyOf row) :
    DistinctKeys keyOf (table.map change) := by
  have same : keyOf ∘ change = keyOf := funext keeps
  unfold DistinctKeys
  rw [List.map_map, same]
  exact distinct

namespace Mirrors

variable {Agrees : α → ρ → Prop} {keyOf : ρ → κ} {itemKey : α → κ} {items : List α}
  {table : List ρ}

/-- Items with the same key are the same item. -/
theorem same_item (keyed : ∀ item row, Agrees item row → keyOf row = itemKey item)
    (mirrors : Mirrors Agrees keyOf items table) {first second : α} (left : first ∈ items)
    (right : second ∈ items) (same : itemKey first = itemKey second) : first = second := by
  have distinct : (items.map itemKey).Nodup := by
    rw [← keys_eq keyed mirrors.agree]
    exact mirrors.distinct
  exact List.inj_on_of_nodup_map distinct left right same

/-- Items rewritten without disturbing their agreement still mirror the table. -/
theorem items_rewritten {Rewrites : α → α → Prop} {after : List α}
    (keeps : ∀ item rewritten row, Rewrites item rewritten → Agrees item row → Agrees rewritten row)
    (mirrors : Mirrors Agrees keyOf items table)
    (rewritten : List.Forall₂ Rewrites items after) : Mirrors Agrees keyOf after table := by
  refine ⟨forall₂_comp ?_ rewritten.flip mirrors.agree, mirrors.distinct⟩
  intro updated item row rewrites
  exact keeps item updated row rewrites

/-- Rows rewritten without disturbing their agreement and keys still mirror the items. -/
theorem rows_rewritten {Rewrites : ρ → ρ → Prop} {after : List ρ}
    (keeps : ∀ item row updated, Rewrites row updated → Agrees item row → Agrees item updated)
    (keys : ∀ row updated, Rewrites row updated → keyOf updated = keyOf row)
    (mirrors : Mirrors Agrees keyOf items table)
    (rewritten : List.Forall₂ Rewrites table after) : Mirrors Agrees keyOf items after := by
  refine ⟨forall₂_comp ?_ mirrors.agree rewritten, mirrors.distinct.rewritten keys rewritten⟩
  intro item row updated agrees rewrites
  exact keeps item row updated rewrites agrees

/-- Both sides may be mapped by functions that preserve agreement and keys. -/
theorem map {rewriteItem : α → α} {rewriteRow : ρ → ρ} (mirrors : Mirrors Agrees keyOf items table)
    (keeps : ∀ row, keyOf (rewriteRow row) = keyOf row)
    (agrees : ∀ item ∈ items, ∀ row ∈ table, Agrees item row →
      Agrees (rewriteItem item) (rewriteRow row)) :
    Mirrors Agrees keyOf (items.map rewriteItem) (table.map rewriteRow) := by
  constructor
  · have agree := mirrors.agree
    clear mirrors
    induction agree with
    | nil => exact .nil
    | cons first rest ih =>
      refine .cons (agrees _ List.mem_cons_self _ List.mem_cons_self first) (ih ?_)
      intro item member row known
      exact agrees item (List.mem_cons_of_mem _ member) row (List.mem_cons_of_mem _ known)
  · exact mirrors.distinct.mapped keeps

end Mirrors

section Lookup

variable [DecidableEq κ]

/-- The row with a key. -/
def lookupRow (keyOf : ρ → κ) (table : List ρ) (key : κ) : Option ρ :=
  table.find? fun row => decide (keyOf row = key)

/-- Change the rows with a key that pass a test. -/
def updateWhere (keyOf : ρ → κ) (table : List ρ) (key : κ) (test : ρ → Bool) (change : ρ → ρ) :
    List ρ :=
  table.map fun row => if keyOf row = key ∧ test row = true then change row else row

variable {keyOf : ρ → κ} {table : List ρ} {key : κ}

variable {row : ρ}

theorem lookupRow_some (found : lookupRow keyOf table key = some row) :
    row ∈ table ∧ keyOf row = key :=
  ⟨List.mem_of_find?_eq_some found, by simpa using List.find?_some found⟩

theorem lookupRow_none (missing : lookupRow keyOf table key = none) :
    ∀ row ∈ table, keyOf row ≠ key := by
  simpa [lookupRow] using missing

/-- The first table answers before the second. -/
theorem lookupRow_append (first second : List ρ) : lookupRow keyOf (first ++ second) key =
      (lookupRow keyOf first key).or (lookupRow keyOf second key) :=
  List.find?_append

/-- Changes that keep the key change what is found. -/
theorem lookupRow_map {change : ρ → ρ} (keeps : ∀ row, keyOf (change row) = keyOf row) :
    lookupRow keyOf (table.map change) key = (lookupRow keyOf table key).map change := by
  have same : ((fun row => decide (keyOf row = key)) ∘ change) =
      fun row => decide (keyOf row = key) := by
    funext row
    rw [Function.comp_apply, keeps]
  rw [lookupRow, List.find?_map, same]
  rfl

/-- A row is found under its own key. -/
theorem DistinctKeys.lookupRow_self (distinct : DistinctKeys keyOf table)
    (member : row ∈ table) : lookupRow keyOf table (keyOf row) = some row := by
  cases found : lookupRow keyOf table (keyOf row) with
  | none => exact absurd rfl (lookupRow_none found row member)
  | some =>
    obtain ⟨known, same⟩ := lookupRow_some found
    rw [distinct.same_row known member same]

/-- A row that is not found under its key may be appended. -/
theorem DistinctKeys.append (distinct : DistinctKeys keyOf table)
    (fresh : lookupRow keyOf table (keyOf row) = none) : DistinctKeys keyOf (table ++ [row]) :=
  distinct.snoc (lookupRow_none fresh)

/-- An update leaves a row alone, or changes it because it has the key and passes. -/
theorem updateWhere_rows (keyOf : ρ → κ) (table : List ρ) (key : κ) (test : ρ → Bool)
    (change : ρ → ρ) :
    List.Forall₂ (fun row updated => updated = row ∨
      (row ∈ table ∧ keyOf row = key ∧ test row = true ∧ updated = change row))
      table (updateWhere keyOf table key test change) := by
  refine List.forall₂_map_right_iff.mpr (List.forall₂_same.mpr ?_)
  intro row member
  split
  · rename_i changed
    exact Or.inr ⟨member, changed.1, changed.2, rfl⟩
  · exact Or.inl rfl

/-- Rows without the key are left alone. -/
theorem updateWhere_absent (absent : ∀ row ∈ table, keyOf row ≠ key) (test : ρ → Bool)
    (change : ρ → ρ) : updateWhere keyOf table key test change = table := by
  refine (List.map_congr_left ?_).trans (List.map_id table)
  intro row member
  rw [if_neg fun changed => absent row member changed.1]
  rfl

/-- An update changes exactly the row that it finds, where the table is cut. -/
theorem updateWhere_located {located : Located ρ}
    (distinct : DistinctKeys keyOf (located.overwrite located.current)) {test : ρ → Bool}
    (passes : test located.current) (change : ρ → ρ) :
    updateWhere keyOf (located.overwrite located.current) (keyOf located.current) test change =
      located.overwrite (change located.current) := by
  have apart : (located.before.map keyOf ++
      keyOf located.current :: located.after.map keyOf).Nodup := by
    simpa [DistinctKeys, Located.overwrite] using distinct
  have absentBefore : ∀ other ∈ located.before, keyOf other ≠ keyOf located.current := by
    intro other member same
    exact (List.nodup_append.mp apart).2.2 _ (List.mem_map_of_mem member) _ List.mem_cons_self same
  have absentAfter : ∀ other ∈ located.after, keyOf other ≠ keyOf located.current := by
    intro other member same
    have later := (List.nodup_cons.mp (List.nodup_append.mp apart).2.1).1
    exact later (same ▸ List.mem_map_of_mem member)
  have before := updateWhere_absent absentBefore test change
  have after := updateWhere_absent absentAfter test change
  unfold updateWhere Located.overwrite at *
  rw [List.map_append, List.map_cons, before, after, if_pos ⟨rfl, passes⟩]

namespace Mirrors

variable {Agrees : α → ρ → Prop} {itemKey : α → κ} {items : List α}

/-- The row found under an item's key agrees with the item. -/
theorem agrees_of_lookup (keyed : ∀ item row, Agrees item row → keyOf row = itemKey item)
    (mirrors : Mirrors Agrees keyOf items table) {item : α} (member : item ∈ items) {row : ρ}
    (found : lookupRow keyOf table (itemKey item) = some row) : Agrees item row := by
  obtain ⟨other, known, agrees⟩ := exists_after mirrors.agree member
  obtain ⟨rowKnown, rowKey⟩ := lookupRow_some found
  have same : row = other := mirrors.distinct.same_row rowKnown known
    (rowKey.trans (keyed item other agrees).symm)
  rw [same]
  exact agrees

/-- Overwriting an item and updating its row under the same key keeps the mirror. -/
theorem overwrite (keyed : ∀ item row, Agrees item row → keyOf row = itemKey item)
    {located : Located α} {replacement : α} {test : ρ → Bool} {change : ρ → ρ}
    (mirrors : Mirrors Agrees keyOf (located.overwrite located.current) table)
    (passes : ∀ row ∈ table, Agrees located.current row → test row = true)
    (keeps : ∀ row, keyOf (change row) = keyOf row)
    (agrees : ∀ row ∈ table, Agrees located.current row → Agrees replacement (change row)) :
    Mirrors Agrees keyOf (located.overwrite replacement)
      (updateWhere keyOf table (itemKey located.current) test change) := by
  constructor
  · obtain ⟨agree, distinct⟩ := mirrors
    obtain ⟨rows, rfl, agreeBefore, agreeCurrent, agreeAfter⟩ := forall₂_located agree
    have known : rows.current ∈ rows.overwrite rows.current :=
      List.mem_append_right _ List.mem_cons_self
    rw [← keyed _ _ agreeCurrent,
      updateWhere_located distinct (passes rows.current known agreeCurrent) change]
    exact List.rel_append agreeBefore (.cons (agrees rows.current known agreeCurrent) agreeAfter)
  · refine mirrors.distinct.rewritten ?_ (updateWhere_rows keyOf table _ test change)
    rintro old updated (rfl | ⟨_, _, _, rfl⟩)
    · rfl
    · exact keeps old

/-- An item and a row that agree under a new key may be appended. -/
theorem append (mirrors : Mirrors Agrees keyOf items table) {item : α} {row : ρ}
    (agrees : Agrees item row) (fresh : lookupRow keyOf table (keyOf row) = none) :
    Mirrors Agrees keyOf (items ++ [item]) (table ++ [row]) :=
  ⟨List.rel_append mirrors.agree (.cons agrees .nil), mirrors.distinct.append fresh⟩

end Mirrors

end Lookup

end CallCenter.KeyedTables
