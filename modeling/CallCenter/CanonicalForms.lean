import CallCenter.CanonicalText
import CallCenter.Utf16Texts
import Mathlib.Data.List.OfFn
import Mathlib.Data.List.FinRange
import Mathlib.Data.Fintype.EquivFin

/-!
# Canonical JSON is a canonical form

Four parts of the program write canonical JSON, each with its own function. On
JSON values they write the same text, and two values get the same text exactly
when they differ only in the order of object keys and the signs of zeros.
-/

namespace CallCenter.CanonicalForms

open JsonValues FlowState CanonicalText JsonText Utf16Texts

/-- `canonicalJson` of the conversation kernel. -/
def ConversationKernel.canonicalJson : Value → Except String String :=
  encode
    { nonFinite := "canonical JSON rejects non-finite numbers"
      undefinedValue := "canonical JSON rejects undefined"
      undefinedField := "canonical JSON rejects undefined" }

def canonicalProgramJson : Value → Except String String :=
  encode
    { nonFinite := "canonical program JSON rejects non-finite numbers"
      undefinedValue := "canonical program JSON rejects undefined"
      undefinedField := "canonical program JSON rejects undefined" }

/-- `canonicalJson` of the governed effects. -/
def EffectCoordinator.canonicalJson : Value → Except String String :=
  encode
    { nonFinite := "non-finite numbers are not valid canonical JSON"
      undefinedValue := "undefined is not valid canonical JSON"
      undefinedField := "undefined is not valid canonical JSON" }

/-- A finite number: a zero with its sign, or another number with its text. -/
inductive Number where
  | zero (negative : Bool)
  | other (number : JsonNumber) (nonzero : number ≠ .ofNat 0)

/-- Both zeros print as `0`. -/
def Number.printed : Number → JsonNumber
  | .zero _ => .ofNat 0
  | .other number _ => number

/-- A JSON value. No object repeats a key. -/
inductive Json where
  | null
  | bool (value : Bool)
  | number (value : Number)
  | string (value : String)
  | array (length : Nat) (item : Fin length → Json)
  | object (size : Nat) (key : Fin size → String) (distinct : key.Injective)
      (field : Fin size → Json)

/-- The value that the canonicalizers read, with its numbers printed. -/
def Json.value : Json → Value
  | .null => .null
  | .bool value => .bool value
  | .number value => .number (.finite value.printed)
  | .string value => .string value
  | .array _ item => .array (List.ofFn fun index => (item index).value)
  | .object _ key _ field => .object (List.ofFn fun index => (key index, (field index).value))

/-- Equal up to the order of object keys and the signs of zeros. -/
inductive Alike : Json → Json → Prop where
  | same (json : Json) : Alike json json
  | zero (left right : Bool) : Alike (.number (.zero left)) (.number (.zero right))
  | array {length : Nat} {left right : Fin length → Json}
      (items : ∀ index, Alike (left index) (right index)) :
      Alike (.array length left) (.array length right)
  | object {size : Nat} {left right : Fin size → Json} (key : Fin size → String)
      (distinct : key.Injective) (order : Equiv.Perm (Fin size))
      (fields : ∀ index, Alike (left (order index)) (right index)) :
      Alike (.object size key distinct left)
        (.object size (key ∘ order) (distinct.comp order.injective) right)

theorem isJson_value (json : Json) : json.value.isJson = true := by
  induction json with
  | null | bool | number | string => rfl
  | array length item items => simpa [Json.value, Value.isJson, itemsAreJson_iff] using items
  | object size key distinct field fields =>
    simpa [Json.value, Value.isJson, fieldsAreJson_iff] using fields

/-- The fields of a normal object before they are sorted. -/
def normalFieldsOf {size : Nat} (key : Fin size → String) (field : Fin size → Json) :
    List (String × Value) :=
  List.ofFn fun index => (key index, (field index).value.normal)

section Objects
variable {size : Nat} {key : Fin size → String} {field : Fin size → Json}

theorem normal_object (distinct : key.Injective) :
    (Json.object size key distinct field).value.normal =
      .object (sortFields (normalFieldsOf key field)) := by
  rw [Json.value, Value.normal, normalFields_eq_map, List.map_ofFn]
  rfl

/-- Sorting forgets the order of fields with distinct keys. -/
theorem sortFields_perm (distinct : key.Injective) {others : List (String × Value)}
    (order : (normalFieldsOf key field).Perm others) :
    sortFields (normalFieldsOf key field) = sortFields others := by
  let below (left right : String × Value) : Prop := unitsLe (utf16 left.1) (utf16 right.1) = true
  have total : Std.Total below := ⟨fun left right => by
    simp only [below, unitsLe_iff_le]
    exact le_total _ _⟩
  have trans : IsTrans _ below := ⟨fun first second third => by
    simp only [below, unitsLe_iff_le]
    exact le_trans⟩
  refine List.Perm.eq_of_pairwise ?_ (List.pairwise_insertionSort below _)
    (List.pairwise_insertionSort below _) ((List.perm_insertionSort below _).trans
      (order.trans (List.perm_insertionSort below _).symm))
  intro first second firstIn secondIn before after
  rw [sortFields, List.mem_insertionSort] at firstIn secondIn
  rw [← order.mem_iff] at secondIn
  obtain ⟨left, rfl⟩ := (List.mem_ofFn' _ _).mp firstIn
  obtain ⟨right, rfl⟩ := (List.mem_ofFn' _ _).mp secondIn
  simp only [below, unitsLe_iff_le] at before after
  have decoded := congrArg decodeUnits (le_antisymm before after)
  have keys : (key left).toList = (key right).toList := by
    rwa [← decodeUnits_flatMap (key left).toList, ← decodeUnits_flatMap (key right).toList]
  rw [distinct (String.toList_inj.mp keys)]

end Objects

/-- Alike values have one normal form. -/
theorem normal_of_alike {left right : Json} (alike : Alike left right) :
    left.value.normal = right.value.normal := by
  induction alike with
  | same | zero => rfl
  | array _ same =>
    simp only [Json.value, Value.normal, normalItems_eq_map, List.map_ofFn, Function.comp_def, same]
  | @object size left right key distinct order _ same =>
    rw [normal_object, normal_object]
    have moved : normalFieldsOf (key ∘ order) right =
        List.ofFn ((fun index => (key index, (left index).value.normal)) ∘ order) := by
      simp only [normalFieldsOf, Function.comp_def, same]
    rw [moved, sortFields_perm distinct (Equiv.Perm.ofFn_comp_perm order _).symm]

/-- Values with one normal form are alike. -/
theorem alike_of_normal {left right : Json} (same : left.value.normal = right.value.normal) :
    Alike left right := by
  induction left generalizing right with
  | null | bool | string => cases right <;> simp_all [Json.value, Value.normal, Alike.same]
  | number value =>
    cases right <;> simp [Json.value, Value.normal] at same
    rename_i second
    rcases value with _ | ⟨number, nonzero⟩ <;> rcases second with _ | ⟨other, otherNonzero⟩
    · exact .zero _ _
    · exact absurd same.symm otherNonzero
    · exact absurd same nonzero
    · cases same
      exact .same _
  | array length item items =>
    cases right <;> simp [Json.value, Value.normal, normalItems_eq_map] at same
    rename_i others otherItem
    obtain rfl : length = others := by simpa using congrArg List.length same
    have each := List.ofFn_injective same
    exact .array fun index => items index (congrFun each index)
  | object size key distinct field fields =>
    cases right with
    | object others otherKey otherDistinct otherField =>
      rw [normal_object, normal_object, Value.object.injEq] at same
      have moved : (normalFieldsOf key field).Perm (normalFieldsOf otherKey otherField) :=
        (List.perm_insertionSort _ _).symm.trans
          ((List.Perm.of_eq same).trans (List.perm_insertionSort _ _))
      obtain rfl : size = others := by simpa [normalFieldsOf] using moved.length_eq
      have found : ∀ index, ∃ source, (key source, (field source).value.normal) =
          (otherKey index, (otherField index).value.normal) := by
        intro index
        exact (List.mem_ofFn' _ _).mp (moved.mem_iff.mpr ((List.mem_ofFn' _ _).mpr ⟨index, rfl⟩))
      choose source located using found
      simp only [Prod.mk.injEq] at located
      have injective : source.Injective := by
        intro first second equal
        apply otherDistinct
        rw [← (located first).1, ← (located second).1, equal]
      obtain ⟨order, rfl⟩ : ∃ order : Equiv.Perm (Fin size), source = order :=
        ⟨.ofBijective source (Finite.injective_iff_bijective.mp injective), rfl⟩
      obtain rfl : key ∘ order = otherKey := funext fun index => (located index).1
      exact .object key distinct order fun index => fields _ (located index).2
    | _ => simp [Json.value, Value.normal] at same

/-- The flow runtime writes two values alike exactly when they are, and all four
functions write the same text. -/
theorem canonical_text_iff_alike (left right : Json) :
    (canonicalJson left.value = canonicalJson right.value ↔ Alike left right) ∧
      ∃ text, canonicalJson left.value = .ok text ∧
        ConversationKernel.canonicalJson left.value = .ok text ∧
        canonicalProgramJson left.value = .ok text ∧
        EffectCoordinator.canonicalJson left.value = .ok text := by
  have written (rejections : Rejections) (json : Json) :
      encode rejections json.value = .ok json.value.text :=
    (encode_encodes rejections json.value).1 (isJson_value json)
  simp only [canonicalJson_eq_encode]
  refine ⟨?_, _, written _ left, written _ left, written _ left, written _ left⟩
  rw [written, written, Except.ok.injEq]
  constructor
  · intro texts
    exact alike_of_normal (text_injective (isJson_value left) (isJson_value right) texts)
  · intro alike
    rw [Value.text, Value.text, normal_of_alike alike]

end CallCenter.CanonicalForms
