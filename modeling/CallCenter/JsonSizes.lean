import Mathlib
import CallCenter.JsonValues

/-!
# Sizes of printed JSON

`room` adds up what the parts of a value need when they are printed. The sorted text of a
value needs no more bytes than that: sorting the fields of an object moves its parts and
does not change their sum.
-/

namespace CallCenter.JsonSizes

open JsonValues

/-- Room for a quoted text: six bytes for every character. -/
def textRoom (text : String) : Nat := 2 + 6 * text.toList.length

mutual

/-- Room for a printed value. -/
def room : Value → Nat
  | .undefined => 0
  | .null => 4
  | .bool _ => 5
  | .number (.finite number) => number.text.utf8ByteSize
  | .number _ => 0
  | .string value => textRoom value
  | .array items => 2 + itemsRoom items
  | .object fields => 2 + fieldsRoom fields

/-- Room for items and the commas after them. -/
def itemsRoom : List Value → Nat
  | [] => 0
  | item :: rest => room item + 1 + itemsRoom rest

/-- Room for keyed fields, their colons and the commas after them. -/
def fieldsRoom : List (String × Value) → Nat
  | [] => 0
  | (key, value) :: rest => textRoom key + room value + 2 + fieldsRoom rest

end

/-! ## Texts -/

theorem bytes_ofList_le {chars : List Char} {most : Nat}
    (bounded : ∀ c ∈ chars, c.utf8Size ≤ most) :
    (String.ofList chars).utf8ByteSize ≤ most * chars.length := by
  induction chars with
  | nil => simp
  | cons c rest ih =>
    rw [String.ofList_cons, String.utf8ByteSize_append, String.utf8ByteSize_singleton,
      List.length_cons, Nat.mul_succ]
    have first := bounded c List.mem_cons_self
    have others := ih fun other member =>
      bounded other (List.mem_cons_of_mem _ member)
    omega

/-- Digits and letters take one byte each. -/
theorem utf8Size_ascii {c : Char} (ascii : c.toNat < 128) : c.utf8Size = 1 := by
  have value : c.val.toNat < 128 := ascii
  rw [Char.utf8Size, if_pos]
  rw [UInt32.le_iff_toNat_le]
  exact Nat.le_of_lt_succ value

theorem bytes_ascii {chars : List Char} (ascii : ∀ c ∈ chars, c.toNat < 128) :
    (String.ofList chars).utf8ByteSize ≤ chars.length := by
  have each : ∀ c ∈ chars, c.utf8Size ≤ 1 := by
    intro c member
    exact Nat.le_of_eq (utf8Size_ascii (ascii c member))
  simpa using bytes_ofList_le each

theorem hexDigit_ascii {number : Nat} (small : number < 16) : (hexDigit number).toNat < 128 := by
  have all : ∀ digit < 16, (hexDigit digit).toNat < 128 := by decide
  exact all number small

/-- An escaped character takes at most six bytes. -/
theorem bytes_escapeChar (c : Char) : (String.ofList (escapeChar c)).utf8ByteSize ≤ 6 := by
  have escape : backslash.toNat < 128 := by decide
  unfold escapeChar
  split_ifs with quoted backspace tab newline formfeed carriage control
  · have ascii : ∀ other ∈ [backslash, c], other.toNat < 128 := by
      simp only [List.mem_cons, List.not_mem_nil, or_false, forall_eq_or_imp, forall_eq]
      exact ⟨escape, by omega⟩
    exact Nat.le_trans (bytes_ascii ascii) (by simp)
  · decide
  · decide
  · decide
  · decide
  · decide
  · have upper : c.toNat / 16 < 16 := by omega
    have lower : c.toNat % 16 < 16 := Nat.mod_lt _ (by decide)
    have ascii : ∀ other ∈ [backslash, 'u', '0', '0', hexDigit (c.toNat / 16),
        hexDigit (c.toNat % 16)], other.toNat < 128 := by
      simp only [List.mem_cons, List.not_mem_nil, or_false, forall_eq_or_imp, forall_eq]
      exact ⟨escape, by decide, by decide, by decide, hexDigit_ascii upper, hexDigit_ascii lower⟩
    exact Nat.le_trans (bytes_ascii ascii) (by simp)
  · have single : ∀ other ∈ [c], other.utf8Size ≤ 4 := by
      intro other _
      exact Char.utf8Size_le_four other
    exact Nat.le_trans (bytes_ofList_le single) (by simp)

theorem bytes_escaped (chars : List Char) :
    (String.ofList (chars.flatMap escapeChar)).utf8ByteSize ≤ 6 * chars.length := by
  induction chars with
  | nil => simp
  | cons c =>
    rw [List.flatMap_cons, String.ofList_append, String.utf8ByteSize_append, List.length_cons]
    have first := bytes_escapeChar c
    omega

theorem bytes_jsonString (text : String) : (jsonString text).utf8ByteSize ≤ textRoom text := by
  have escaped := bytes_escaped text.toList
  have opening : quote.utf8Size = 1 := by decide
  have closing : (String.ofList [quote]).utf8ByteSize = 1 := by decide
  rw [jsonString, String.ofList_cons, String.utf8ByteSize_append, String.utf8ByteSize_singleton,
    String.ofList_append, String.utf8ByteSize_append, opening, closing, textRoom]
  omega

/-- Commas separate the texts. -/
theorem bytes_commaJoin (texts : List String) :
    (commaJoin texts).utf8ByteSize ≤ (texts.map fun text => text.utf8ByteSize + 1).sum := by
  induction texts with
  | nil => simp [commaJoin]
  | cons first rest =>
    cases rest with
    | nil => simp [commaJoin]
    | cons =>
      have comma : ",".utf8ByteSize = 1 := by decide
      rw [commaJoin, String.utf8ByteSize_append, String.utf8ByteSize_append, comma, List.map_cons,
        List.sum_cons]
      omega

/-! ## Values -/

theorem fieldsRoom_eq_sum (fields : List (String × Value)) : fieldsRoom fields =
      (fields.map fun field => textRoom field.1 + room field.2 + 2).sum := by
  induction fields with
  | nil => simp [fieldsRoom]
  | cons field rest ih =>
    obtain ⟨key, value⟩ := field
    rw [fieldsRoom, ih, List.map_cons, List.sum_cons]

mutual

/-- Sorted fields need as much room. -/
theorem room_normal : ∀ value : Value, room value.normal = room value
  | .undefined | .null | .bool _ | .number _ | .string _ => rfl
  | .array items => by rw [Value.normal, room, room, itemsRoom_normal items]
  | .object fields => by
    rw [Value.normal, room, room, ← fieldsRoom_normal fields]
    rw [fieldsRoom_eq_sum, fieldsRoom_eq_sum]
    exact congrArg (2 + ·) ((List.perm_insertionSort _ _).map _).sum_nat

theorem itemsRoom_normal : ∀ items : List Value, itemsRoom (normalItems items) = itemsRoom items
  | [] => rfl
  | item :: rest => by
    rw [normalItems, itemsRoom, itemsRoom, room_normal item, itemsRoom_normal rest]

theorem fieldsRoom_normal : ∀ fields : List (String × Value),
    fieldsRoom (normalFields fields) = fieldsRoom fields
  | [] => rfl
  | (key, value) :: rest => by
    rw [normalFields, fieldsRoom, fieldsRoom, room_normal value, fieldsRoom_normal rest]

end

mutual

/-- A printed value fits its room. -/
theorem bytes_print : ∀ value : Value, value.print.utf8ByteSize ≤ room value
  | .undefined => by simp [Value.print, room]
  | .null => by decide
  | .bool value => by cases value <;> decide
  | .number (.finite number) => by simp [Value.print, room]
  | .number .nan => by decide
  | .number .infinity => by decide
  | .number .negativeInfinity => by decide
  | .string value => by
    rw [Value.print, room]
    exact bytes_jsonString value
  | .array items => by
    have inner := bytes_commaJoin (printItems items)
    have fits := bytes_printItems items
    have opening : "[".utf8ByteSize = 1 := by decide
    have closing : "]".utf8ByteSize = 1 := by decide
    rw [Value.print, room, String.utf8ByteSize_append, String.utf8ByteSize_append, opening, closing]
    omega
  | .object fields => by
    have inner := bytes_commaJoin (printFields fields)
    have fits := bytes_printFields fields
    have opening : "\x7b".utf8ByteSize = 1 := by decide
    have closing : "\x7d".utf8ByteSize = 1 := by decide
    rw [Value.print, room, String.utf8ByteSize_append, String.utf8ByteSize_append, opening, closing]
    omega

theorem bytes_printItems : ∀ items : List Value,
    ((printItems items).map fun text => text.utf8ByteSize + 1).sum ≤ itemsRoom items
  | [] => by simp [printItems, itemsRoom]
  | item :: rest => by
    have first := bytes_print item
    have others := bytes_printItems rest
    rw [printItems, itemsRoom, List.map_cons, List.sum_cons]
    omega

theorem bytes_printFields : ∀ fields : List (String × Value),
    ((printFields fields).map fun text => text.utf8ByteSize + 1).sum ≤ fieldsRoom fields
  | [] => by simp [printFields, fieldsRoom]
  | (key, value) :: rest => by
    have first := bytes_print value
    have named := bytes_jsonString key
    have others := bytes_printFields rest
    have colon : ":".utf8ByteSize = 1 := by decide
    rw [printFields, fieldsRoom, List.map_cons, List.sum_cons, String.utf8ByteSize_append,
      String.utf8ByteSize_append, colon]
    omega

end

/-- The sorted text of a value fits its room. -/
theorem bytes_text (value : Value) : value.text.utf8ByteSize ≤ room value := by
  rw [← room_normal value]
  exact bytes_print value.normal

/-- A counter below a power of ten. -/
theorem room_ofNat {number digits : Nat} (positive : 0 < digits) (small : number < 10 ^ digits) :
    room (Value.ofNat number) ≤ digits := by
  have chars : (Nat.toDigits 10 number).length ≤ digits :=
    (Nat.length_toDigits_le_iff (by decide) positive).mpr small
  have ascii : ∀ c ∈ Nat.toDigits 10 number, c.toNat < 128 := by
    intro c member
    have digit := Nat.isDigit_of_mem_toDigits (by decide) (by decide) member
    simp only [Char.isDigit, Bool.and_eq_true, decide_eq_true_eq] at digit
    have upper : c.val.toNat ≤ 57 := UInt32.le_iff_toNat_le.mp digit.2
    exact Nat.lt_of_le_of_lt upper (by decide)
  have printed : (toString number).utf8ByteSize ≤ digits := by
    rw [Nat.toString_eq_repr, Nat.repr]
    exact Nat.le_trans (bytes_ascii ascii) chars
  rw [Value.ofNat, room]
  exact printed

end CallCenter.JsonSizes
