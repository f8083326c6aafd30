import Mathlib.Data.List.Sort

/-!
# JSON values and their sorted text

A value is what a JavaScript program can hold where it expects JSON: besides the
JSON forms there are `undefined` and the numbers that are not finite. A finite
number is kept as the decimal text that prints it; two finite numbers print
alike exactly when they are equal, except that both zeros print as `0`.

`print` writes a JSON value as it stands, `normal` puts the keys of every object in
UTF-16 order, and `text` prints the normal value. Strings are sequences of Unicode
scalar values, so lone surrogates do not occur.
-/

namespace CallCenter.JsonValues

/-- Characters of a printed decimal number. -/
def isNumberChar (c : Char) : Bool :=
  c.isDigit || c = '+' || c = '-' || c = '.' || c = 'e' || c = 'E'

/-- A finite number as its printed text. -/
structure JsonNumber where
  text : String
  numeric : text.toList ≠ [] ∧ ∀ c ∈ text.toList, isNumberChar c = true
deriving DecidableEq

/-- Counters and byte sizes print as their decimal digits. -/
def JsonNumber.ofNat (n : Nat) : JsonNumber where
  text := toString n
  numeric := by
    rw [Nat.toString_eq_repr, Nat.repr, String.toList_ofList]
    refine ⟨Nat.toDigits_ne_nil, ?_⟩
    intro c member
    simp [isNumberChar, Nat.isDigit_of_mem_toDigits (by decide) (by decide) member]

/-- Numbers of the language. Infinities and NaN have no JSON text. -/
inductive JsNumber where
  | finite (number : JsonNumber)
  | nan
  | infinity
  | negativeInfinity
deriving DecidableEq

/-- A value handed to or read by the program. -/
inductive Value where
  | undefined
  | null
  | bool (value : Bool)
  | number (value : JsNumber)
  | string (value : String)
  | array (items : List Value)
  | object (fields : List (String × Value))

/-- A counter as a value. -/
def Value.ofNat (n : Nat) : Value := .number (.finite (.ofNat n))

/-- The text of a string. -/
def Value.asString : Value → Option String
  | .string text => some text
  | _ => none

theorem eq_string_of_asString {value : Value} {text : String} (read : value.asString = some text) :
    value = .string text := by
  cases value <;> simp_all [Value.asString]

/-- UTF-16 code units of a text; they fix string length and key order. -/
def utf16 (text : String) : List Nat :=
  text.toList.flatMap fun c =>
    if c.toNat < 0x10000 then [c.toNat]
    else [0xD800 + (c.toNat - 0x10000) / 0x400, 0xDC00 + (c.toNat - 0x10000) % 0x400]

/-- Lexicographic comparison of code units. -/
def unitsLe : List Nat → List Nat → Bool
  | [], _ => true
  | _ :: _, [] => false
  | a :: as, b :: bs => if a < b then true else if b < a then false else unitsLe as bs

/-- The fields of an object in the order in which its sorted keys list them. -/
def sortFields {α : Type} (fields : List (String × α)) : List (String × α) :=
  fields.insertionSort fun left right => unitsLe (utf16 left.1) (utf16 right.1) = true

/-- Double quote. -/
def quote : Char := Char.ofNat 34

/-- Reverse solidus, the escape character. -/
def backslash : Char := Char.ofNat 92

/-- A lower-case hexadecimal digit. -/
def hexDigit (n : Nat) : Char := if n < 10 then Char.ofNat (48 + n) else Char.ofNat (87 + n)

/-- Quotes, escapes and control characters are escaped; everything else stands
for itself. -/
def escapeChar (c : Char) : List Char :=
  if c.toNat = 34 ∨ c.toNat = 92 then [backslash, c]
  else if c.toNat = 8 then [backslash, 'b']
  else if c.toNat = 9 then [backslash, 't']
  else if c.toNat = 10 then [backslash, 'n']
  else if c.toNat = 12 then [backslash, 'f']
  else if c.toNat = 13 then [backslash, 'r']
  else if c.toNat < 32 then
    [backslash, 'u', '0', '0', hexDigit (c.toNat / 16), hexDigit (c.toNat % 16)]
  else [c]

/-- A quoted and escaped string. -/
def jsonString (text : String) : String :=
  String.ofList (quote :: (text.toList.flatMap escapeChar ++ [quote]))

/-- Texts separated by commas. -/
def commaJoin : List String → String
  | [] => ""
  | [only] => only
  | first :: second :: rest => first ++ "," ++ commaJoin (second :: rest)

mutual

/-- The value contains neither `undefined` nor a number that is not finite. -/
def Value.isJson : Value → Bool
  | .undefined => false
  | .null => true
  | .bool _ => true
  | .number (.finite _) => true
  | .number _ => false
  | .string _ => true
  | .array items => itemsAreJson items
  | .object fields => fieldsAreJson fields

/-- Every item is JSON. -/
def itemsAreJson : List Value → Bool
  | [] => true
  | item :: rest => item.isJson && itemsAreJson rest

/-- Every field's value is JSON. -/
def fieldsAreJson : List (String × Value) → Bool
  | [] => true
  | (_, value) :: rest => value.isJson && fieldsAreJson rest

end

mutual

/-- The text of a JSON value, with the fields of objects in the order given;
other values have no text of their own. -/
def Value.print : Value → String
  | .undefined => ""
  | .null => "null"
  | .bool value => if value then "true" else "false"
  | .number (.finite number) => number.text
  | .number _ => ""
  | .string value => jsonString value
  | .array items => "[" ++ commaJoin (printItems items) ++ "]"
  | .object fields => "\x7b" ++ commaJoin (printFields fields) ++ "\x7d"

/-- The texts of a list of items. -/
def printItems : List Value → List String
  | [] => []
  | item :: rest => item.print :: printItems rest

/-- The texts of keyed fields. -/
def printFields : List (String × Value) → List String
  | [] => []
  | (key, value) :: rest => (jsonString key ++ ":" ++ value.print) :: printFields rest

end

mutual

/-- The value with the fields of every object sorted. -/
def Value.normal : Value → Value
  | .array items => .array (normalItems items)
  | .object fields => .object (sortFields (normalFields fields))
  | other => other

/-- Normalise every item. -/
def normalItems : List Value → List Value
  | [] => []
  | item :: rest => item.normal :: normalItems rest

/-- Normalise every field's value. -/
def normalFields : List (String × Value) → List (String × Value)
  | [] => []
  | (key, value) :: rest => (key, value.normal) :: normalFields rest

end

/-- The sorted text of a value. -/
def Value.text (value : Value) : String := value.normal.print

/-- Induction over a value, with the items of arrays and the fields of objects. -/
theorem Value.induct {motive : Value → Prop} (undefined : motive .undefined) (null : motive .null)
    (bool : ∀ value, motive (.bool value)) (number : ∀ value, motive (.number value))
    (string : ∀ value, motive (.string value))
    (array : ∀ items : List Value, (∀ item ∈ items, motive item) → motive (.array items))
    (object : ∀ fields : List (String × Value), (∀ field ∈ fields, motive field.2) →
      motive (.object fields)) (value : Value) : motive value := by
  refine @Value.rec motive (fun items => ∀ item ∈ items, motive item)
    (fun fields => ∀ field ∈ fields, motive field.2) (fun field => motive field.2)
    undefined null bool number string array object ?_ ?_ ?_ ?_ ?_ value
  all_goals simp +contextual

theorem normalItems_eq_map (items : List Value) : normalItems items = items.map Value.normal := by
  induction items with
  | nil => rfl
  | cons item rest ih => rw [normalItems, ih, List.map_cons]

theorem normalFields_eq_map (fields : List (String × Value)) :
    normalFields fields = fields.map fun field => (field.1, field.2.normal) := by
  induction fields with
  | nil => rfl
  | cons field rest ih => rw [normalFields, ih, List.map_cons]

theorem printItems_eq_map (items : List Value) : printItems items = items.map Value.print := by
  induction items with
  | nil => rfl
  | cons item rest ih => rw [printItems, ih, List.map_cons]

theorem printFields_eq_map (fields : List (String × Value)) :
    printFields fields = fields.map fun field => jsonString field.1 ++ ":" ++ field.2.print := by
  induction fields with
  | nil => rfl
  | cons field rest ih => rw [printFields, ih, List.map_cons]

/-- Fields are JSON exactly when each of their values is. -/
theorem fieldsAreJson_iff (fields : List (String × Value)) :
    fieldsAreJson fields = true ↔ ∀ field ∈ fields, field.2.isJson = true := by
  induction fields with
  | nil => simp [fieldsAreJson]
  | cons field rest ih =>
    obtain ⟨key, value⟩ := field
    simp [fieldsAreJson, ih]

/-- Items are JSON exactly when each of them is. -/
theorem itemsAreJson_iff (items : List Value) :
    itemsAreJson items = true ↔ ∀ item ∈ items, item.isJson = true := by
  induction items with
  | nil => simp [itemsAreJson]
  | cons item rest ih => simp [itemsAreJson, ih]

example : (Value.object [("b", .ofNat 2), ("a", .array [.null, .string "x"])]).text =
    "\x7b\"a\":[null,\"x\"],\"b\":2\x7d" := by decide

end CallCenter.JsonValues
