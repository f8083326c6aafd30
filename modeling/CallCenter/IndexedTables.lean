import CallCenter.ObjectFields
import CallCenter.KeyedTables

/-!
# Indexed tables

A map from keys to records is indexed if it has every key once and every record carries
the key under which it is stored. Reading such a map by key is searching its records,
in whatever order they are listed.
-/

namespace CallCenter.IndexedTables

open ObjectFields KeyedTables

universe u v
variable {κ : Type u} {ρ : Type v} {keyOf : ρ → κ} {fields : List (κ × ρ)}

/-- Every key stands once, before a record with that key. -/
structure Indexed (keyOf : ρ → κ) (fields : List (κ × ρ)) : Prop where
  distinct : (fields.map Prod.fst).Nodup
  keyed : ∀ field ∈ fields, keyOf field.2 = field.1

theorem Indexed.empty : Indexed keyOf ([] : List (κ × ρ)) := by
  constructor
  · exact List.nodup_nil
  · intro field member
    cases member

/-- The records of an indexed table have distinct keys. -/
theorem Indexed.distinctKeys (indexed : Indexed keyOf fields) :
    DistinctKeys keyOf (fields.map Prod.snd) := by
  have keys : (fields.map Prod.snd).map keyOf = fields.map Prod.fst := by
    rw [List.map_map]
    exact List.map_congr_left indexed.keyed
  rw [DistinctKeys, keys]
  exact indexed.distinct

/-- A change of the records that keeps their keys. -/
theorem Indexed.mapValues (indexed : Indexed keyOf fields) {change : ρ → ρ}
    (kept : ∀ record, keyOf (change record) = keyOf record) :
    Indexed keyOf (mapValues change fields) := by
  constructor
  · have keys : (ObjectFields.mapValues change fields).map Prod.fst = fields.map Prod.fst := by
      simp [ObjectFields.mapValues]
    rw [keys]
    exact indexed.distinct
  · intro field member
    obtain ⟨original, known, rfl⟩ := List.mem_map.mp member
    rw [kept]
    exact indexed.keyed original known

section Reading
variable [DecidableEq κ]

section

variable (indexed : Indexed keyOf fields)
include indexed

theorem Indexed.setField {key : κ} {record : ρ} (same : keyOf record = key) :
    Indexed keyOf (setField fields key record) := by
  constructor
  · exact nodup_keys_setField indexed.distinct key record
  · exact forall_setField indexed.keyed same

/-- A record is found exactly under its own key. -/
theorem Indexed.lookup_iff (key : κ) (record : ρ) :
    fields.lookup key = some record ↔ record ∈ fields.map Prod.snd ∧ keyOf record = key := by
  rw [lookup_eq_some_iff indexed.distinct]
  constructor
  · intro member
    exact ⟨List.mem_map.mpr ⟨(key, record), member, rfl⟩, indexed.keyed (key, record) member⟩
  · rintro ⟨member, rfl⟩
    obtain ⟨⟨key, other⟩, known, rfl⟩ := List.mem_map.mp member
    rw [indexed.keyed (key, other) known]
    exact known

/-- Searching the records, in any order, reads the table. -/
theorem Indexed.lookupRow_perm {records : List ρ} (perm : records.Perm (fields.map Prod.snd))
    (key : κ) :
    lookupRow keyOf records key = fields.lookup key := by
  have distinct : DistinctKeys keyOf records :=
    (perm.map keyOf).nodup_iff.mpr indexed.distinctKeys
  refine Option.ext fun record => ?_
  rw [indexed.lookup_iff, ← perm.mem_iff]
  constructor
  · intro found
    exact lookupRow_some found
  · rintro ⟨member, rfl⟩
    exact distinct.lookupRow_self member

end

end Reading

end CallCenter.IndexedTables
