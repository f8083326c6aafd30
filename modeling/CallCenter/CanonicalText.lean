import CallCenter.FlowState
import CallCenter.JsonText

/-!
# Canonical text of flow values

`canonicalJson` succeeds exactly on the values without `undefined` and non-finite
numbers, and then returns their sorted text. Hash and size of a value are
therefore functions of that text, and a digest without collisions identifies a
value up to the order of object keys.
-/

namespace CallCenter.CanonicalText

open JsonValues FlowState

/-- A computation either gives the text of a JSON value or fails on another one. -/
def Encodes (result : Except String String) (value : Value) : Prop :=
  (value.isJson = true → result = .ok value.text) ∧
    (value.isJson = false → ∃ message, result = .error message)

/-- Sorting by key commutes with a change of the values. -/
theorem sortFields_map {α β : Type} (change : α → β) (fields : List (String × α)) :
    sortFields (fields.map fun field => (field.1, change field.2)) =
      (sortFields fields).map fun field => (field.1, change field.2) := by
  refine (List.map_insertionSort _ _ _ fields ?_).symm
  intro left _ right _
  rfl

/-- The fields print in key order when each of them has a text. -/
theorem joinedFields_ok (fields : List (String × String)) :
    joinedFields (fields.map fun field => (field.1, .ok field.2)) =
      .ok (fields.map fun field => jsonString field.1 ++ ":" ++ field.2) := by
  induction fields with
  | nil => rfl
  | cons field rest ih =>
    rw [List.map_cons, joinedFields, ih]
    rfl

/-- One field without a text makes the object fail. -/
theorem joinedFields_error (fields : List (String × Except String String)) (key message : String)
    (member : (key, .error message) ∈ fields) : ∃ reason, joinedFields fields = .error reason := by
  induction fields with
  | nil => simp at member
  | cons field rest ih =>
    obtain ⟨first, encoded⟩ := field
    cases encoded with
    | error reason => exact ⟨reason, rfl⟩
    | ok =>
      have later : (key, Except.error message) ∈ rest := by simpa using member
      obtain ⟨reason, failed⟩ := ih later
      exact ⟨reason, by rw [joinedFields, failed]; rfl⟩

/-- The text of an object lists its sorted fields. -/
theorem object_text (fields : List (String × Value)) :
    (Value.object fields).text = "\x7b" ++ commaJoin ((sortFields fields).map fun field =>
      jsonString field.1 ++ ":" ++ field.2.text) ++ "\x7d" := by
  rw [Value.text, Value.normal, normalFields_eq_map, sortFields_map, Value.print,
    printFields_eq_map, List.map_map]
  rfl

/-- What a canonicalizer says about values without a JSON text. -/
structure Rejections where
  nonFinite : String
  undefinedValue : String
  undefinedField : String

mutual

/-- A canonicalizer with its own messages. -/
def encode (rejections : Rejections) : Value → Except String String
  | .null => .ok "null"
  | .string value => .ok (jsonString value)
  | .bool value => .ok (if value then "true" else "false")
  | .number (.finite number) => .ok number.text
  | .number _ => .error rejections.nonFinite
  | .array items => (encodeItems rejections items).map fun texts => "[" ++ commaJoin texts ++ "]"
  | .object fields =>
    (joinedFields (sortFields (encodeFields rejections fields))).map fun texts =>
      "\x7b" ++ commaJoin texts ++ "\x7d"
  | .undefined => .error rejections.undefinedValue

def encodeItems (rejections : Rejections) : List Value → Except String (List String)
  | [] => .ok []
  | item :: rest =>
    match encode rejections item with
    | .error message => .error message
    | .ok text => (encodeItems rejections rest).map fun texts => text :: texts

def encodeFields (rejections : Rejections) :
    List (String × Value) → List (String × Except String String)
  | [] => []
  | (key, .undefined) :: rest =>
    (key, .error rejections.undefinedField) :: encodeFields rejections rest
  | (key, value) :: rest => (key, encode rejections value) :: encodeFields rejections rest

end

section Encoding
variable (rejections : Rejections)

mutual

theorem encode_encodes : ∀ value : Value, Encodes (encode rejections value) value
  | .undefined => ⟨by simp [Value.isJson], fun _ => ⟨_, rfl⟩⟩
  | .null | .bool _ | .string _ => ⟨fun _ => rfl, by simp [Value.isJson]⟩
  | .number value => by
    cases value with
    | finite number => exact ⟨fun _ => rfl, by simp [Value.isJson]⟩
    | _ => exact ⟨by simp [Value.isJson], fun _ => ⟨_, rfl⟩⟩
  | .array items => by
    obtain ⟨encoded, failed⟩ := encodeItems_encodes items
    refine ⟨fun json => ?_, fun notJson => ?_⟩
    · rw [encode, encoded json]
      rfl
    · obtain ⟨message, reason⟩ := failed notJson
      exact ⟨message, by rw [encode, reason]; rfl⟩
  | .object fields => by
    obtain ⟨encoded, failed⟩ := encodeFields_encodes fields
    refine ⟨fun json => ?_, fun notJson => ?_⟩
    · rw [encode, encoded json, sortFields_map, joinedFields_ok, sortFields_map, object_text,
        List.map_map]
      rfl
    · obtain ⟨key, message, member⟩ := failed notJson
      obtain ⟨reason, failing⟩ := joinedFields_error (sortFields (encodeFields rejections fields)) key
        message (by rwa [sortFields, List.mem_insertionSort])
      exact ⟨reason, by rw [encode, failing]; rfl⟩

theorem encodeItems_encodes : ∀ items : List Value,
    (itemsAreJson items = true →
      encodeItems rejections items = .ok (printItems (normalItems items))) ∧
    (itemsAreJson items = false → ∃ message, encodeItems rejections items = .error message)
  | [] => ⟨fun _ => rfl, by simp [itemsAreJson]⟩
  | item :: rest => by
    obtain ⟨encoded, failed⟩ := encode_encodes item
    obtain ⟨encodedRest, failedRest⟩ := encodeItems_encodes rest
    refine ⟨fun json => ?_, fun notJson => ?_⟩
    · simp only [itemsAreJson, Bool.and_eq_true] at json
      rw [encodeItems, encoded json.1, encodedRest json.2]
      rfl
    · by_cases itemJson : item.isJson = true
      · have restNot : itemsAreJson rest = false := by simpa [itemsAreJson, itemJson] using notJson
        obtain ⟨message, reason⟩ := failedRest restNot
        exact ⟨message, by rw [encodeItems, encoded itemJson, reason]; rfl⟩
      · obtain ⟨message, reason⟩ := failed (by simpa using itemJson)
        exact ⟨message, by rw [encodeItems, reason]⟩

theorem encodeFields_encodes : ∀ fields : List (String × Value),
    (fieldsAreJson fields = true → encodeFields rejections fields =
      (fields.map fun field => (field.1, field.2.text)).map fun field => (field.1, .ok field.2)) ∧
    (fieldsAreJson fields = false →
      ∃ key message, (key, Except.error message) ∈ encodeFields rejections fields)
  | [] => ⟨fun _ => rfl, by simp [fieldsAreJson]⟩
  | (key, value) :: rest => by
    obtain ⟨encoded, failed⟩ := encode_encodes value
    obtain ⟨encodedRest, failedRest⟩ := encodeFields_encodes rest
    have head : ∃ result, encodeFields rejections ((key, value) :: rest) =
        (key, result) :: encodeFields rejections rest ∧ Encodes result value := by
      cases value with
      | undefined => exact ⟨_, rfl, by simp [Value.isJson], fun _ => ⟨_, rfl⟩⟩
      | _ => exact ⟨_, rfl, encoded, failed⟩
    obtain ⟨result, split, encodes, fails⟩ := head
    refine ⟨fun json => ?_, fun notJson => ?_⟩
    · simp only [fieldsAreJson, Bool.and_eq_true] at json
      rw [split, encodes json.1, encodedRest json.2]
      rfl
    · by_cases valueJson : value.isJson = true
      · have restNot : fieldsAreJson rest = false := by
          simpa [fieldsAreJson, valueJson] using notJson
        obtain ⟨other, message, member⟩ := failedRest restNot
        exact ⟨other, message, by rw [split]; exact List.mem_cons_of_mem _ member⟩
      · obtain ⟨message, reason⟩ := fails (by simpa using valueJson)
        exact ⟨key, message, by rw [split, reason]; exact List.mem_cons_self⟩

end

end Encoding

/-- The messages of the flow runtime. -/
def flowRejections : Rejections where
  nonFinite := "action arguments must contain only finite numbers"
  undefinedValue := "action arguments contain unsupported undefined value"
  undefinedField := "action arguments must not contain undefined values"

mutual

theorem canonicalJson_eq_encode : ∀ value, canonicalJson value = encode flowRejections value
  | .undefined | .null | .bool _ | .string _ => rfl
  | .number value => by cases value <;> rfl
  | .array items => by rw [canonicalJson, encode, canonicalItems_eq_encode items]
  | .object fields => by rw [canonicalJson, encode, canonicalFields_eq_encode fields]

theorem canonicalItems_eq_encode : ∀ items, canonicalItems items = encodeItems flowRejections items
  | [] => rfl
  | item :: rest => by
    rw [canonicalItems, canonicalJson_eq_encode item, canonicalItems_eq_encode rest]
    rfl

theorem canonicalFields_eq_encode : ∀ fields,
    canonicalFields fields = encodeFields flowRejections fields
  | [] => rfl
  | (key, value) :: rest => by
    have values := canonicalJson_eq_encode value
    have later := canonicalFields_eq_encode rest
    cases value with
    | undefined =>
      rw [canonicalFields, encodeFields, later]
      rfl
    | _ => simp only [canonicalFields, encodeFields, values, later]

end

/-- Canonical texts are the sorted texts of JSON values. -/
theorem canonicalJson_ok_iff (value : Value) (text : String) :
    canonicalJson value = .ok text ↔ value.isJson = true ∧ text = value.text := by
  obtain ⟨encoded, failed⟩ := encode_encodes flowRejections value
  rw [canonicalJson_eq_encode]
  cases json : value.isJson with
  | true =>
    rw [encoded json]
    simp [eq_comm]
  | false =>
    obtain ⟨message, reason⟩ := failed json
    simp [reason]

/-- What is computed from the canonical text exists exactly for JSON. -/
theorem map_canonicalJson_ok_iff {α : Type} (compute : String → α) (value : Value) (result : α) :
    (canonicalJson value).map compute = .ok result ↔
      value.isJson = true ∧ result = compute value.text := by
  simp only [map_ok_iff, canonicalJson_ok_iff]
  constructor
  · rintro ⟨text, ⟨json, rfl⟩, rfl⟩
    exact ⟨json, rfl⟩
  · rintro ⟨json, rfl⟩
    exact ⟨_, ⟨json, rfl⟩, rfl⟩

theorem hashFlowValue_ok_iff (sha256 : String → String) (value : Value) (hash : String) :
    hashFlowValue sha256 value = .ok hash ↔ value.isJson = true ∧ hash = sha256 value.text :=
  map_canonicalJson_ok_iff sha256 value hash

theorem flowJsonBytes_ok_iff (value : Value) (bytes : Nat) :
    flowJsonBytes value = .ok bytes ↔ value.isJson = true ∧ bytes = value.text.utf8ByteSize :=
  map_canonicalJson_ok_iff String.utf8ByteSize value bytes

/-- Hash and size together exist exactly for JSON, and are those of its text. -/
theorem valueEvidence_ok_iff (sha256 : String → String) (value : Value) (hash : String)
    (bytes : Nat) :
    valueEvidence sha256 value = .ok (hash, bytes) ↔
      value.isJson = true ∧ hash = sha256 value.text ∧ bytes = value.text.utf8ByteSize := by
  unfold valueEvidence
  split
  · rename_i message failed
    constructor
    · intro impossible
      cases impossible
    · rintro ⟨json, rfl, rfl⟩
      rw [(hashFlowValue_ok_iff sha256 value _).mpr ⟨json, rfl⟩] at failed
      cases failed
  · rename_i computed hashed
    obtain ⟨json, rfl⟩ := (hashFlowValue_ok_iff sha256 value computed).mp hashed
    rw [(flowJsonBytes_ok_iff value _).mpr ⟨json, rfl⟩]
    simp [Except.map, json, eq_comm]

/-- What a receipt stores is JSON. -/
def ReceiptJson (receipt : FlowActionReceipt) : Prop :=
  (∀ fields, receipt.arguments = some fields → (Value.object fields).isJson = true) ∧
    ∀ value, receipt.result = some value → value.isJson = true

/-- What a state records is JSON. -/
def StateJson (state : FlowExecutionState) : Prop :=
  (∀ entry ∈ state.outputs, (Value.object entry.2).isJson = true) ∧
    ∀ receipt ∈ state.actionReceipts, ReceiptJson receipt

theorem fieldsAreJson_map {α : Type} (keyOf : α → String) (valueOf : α → Value) (items : List α) :
    fieldsAreJson (items.map fun item => (keyOf item, valueOf item)) = true ↔
      ∀ item ∈ items, (valueOf item).isJson = true := by
  rw [fieldsAreJson_iff, List.forall_mem_map]

theorem nullableText_isJson (text : Option String) : (nullableText text).isJson := by
  cases text with
  | none | some value => rfl

theorem receipt_isJson_iff (receipt : FlowActionReceipt) :
    receipt.toValue.isJson = true ↔ ReceiptJson receipt := by
  rw [FlowActionReceipt.toValue, Value.isJson, fieldsAreJson_iff]
  simp [ReceiptJson, optionalField, flagField, Value.isJson, Value.ofNat, or_imp, forall_and]

theorem state_isJson_iff (state : FlowExecutionState) :
    state.toValue.isJson = true ↔ StateJson state := by
  have checkpoints : ∀ checkpoint : Checkpoint, checkpoint.toValue.isJson = true := fun _ => rfl
  rw [FlowExecutionState.toValue, Value.isJson, fieldsAreJson_iff]
  simp [StateJson, optionalField, Value.isJson, Value.ofNat, or_imp, forall_and, itemsAreJson_iff,
    fieldsAreJson_map, nullableText_isJson, checkpoints, receipt_isJson_iff]

theorem stateJson_of_budget {state : FlowExecutionState} (budget : withinBudget state = .ok ()) :
    StateJson state := by
  unfold withinBudget at budget
  split at budget
  · cases budget
  split at budget
  · cases budget
  rename_i bytes sized
  exact (state_isJson_iff state).mp ((flowJsonBytes_ok_iff state.toValue bytes).mp sized).1

/-- No two canonical texts share a digest. -/
def CollisionFree (sha256 : String → String) : Prop :=
  ∀ left right : Value, left.isJson = true → right.isJson = true →
    sha256 left.text = sha256 right.text → left.text = right.text

/-- Without collisions a hash determines its value up to the order of fields. -/
theorem hashFlowValue_injective {sha256 : String → String} (collisionFree : CollisionFree sha256)
    {left right : Value} {hash : String} (leftHash : hashFlowValue sha256 left = .ok hash)
    (rightHash : hashFlowValue sha256 right = .ok hash) : left.normal = right.normal := by
  obtain ⟨leftJson, leftText⟩ := (hashFlowValue_ok_iff sha256 left hash).mp leftHash
  obtain ⟨rightJson, rightText⟩ := (hashFlowValue_ok_iff sha256 right hash).mp rightHash
  exact JsonText.text_injective leftJson rightJson
    (collisionFree left right leftJson rightJson (leftText.symm.trans rightText))

/-- A digest given by a table; any other text is its own digest behind a marker. -/
def tableDigest (table : List (String × String)) (text : String) : String :=
  (table.lookup text).getD ("#" ++ text)

/-- A table of distinct unmarked digests has no collisions. -/
theorem tableDigest_injective (table : List (String × String))
    (distinct : (table.map Prod.snd).Nodup)
    (unmarked : ∀ entry ∈ table, entry.2.toList.head? ≠ some '#') (left right : String)
    (same : tableDigest table left = tableDigest table right) : left = right := by
  have marked (text : String) : ("#" ++ text).toList.head? = some '#' := by simp
  unfold tableDigest at same
  cases leftEntry : table.lookup left with
  | none =>
    cases rightEntry : table.lookup right with
    | none =>
      have texts := congrArg String.toList same
      simp only [leftEntry, rightEntry, Option.getD_none, String.toList_append] at texts
      exact String.toList_inj.mp (List.append_cancel_left texts)
    | some digest =>
      simp only [leftEntry, rightEntry, Option.getD_none, Option.getD_some] at same
      have member := ObjectFields.mem_of_lookup table right digest rightEntry
      exact absurd (same ▸ marked left) (unmarked _ member)
  | some digest =>
    have member := ObjectFields.mem_of_lookup table left digest leftEntry
    cases rightEntry : table.lookup right with
    | none =>
      simp only [leftEntry, rightEntry, Option.getD_none, Option.getD_some] at same
      exact absurd (same ▸ marked right) (unmarked _ member)
    | some other =>
      simp only [leftEntry, rightEntry, Option.getD_some] at same
      have otherMember := ObjectFields.mem_of_lookup table right other rightEntry
      exact congrArg Prod.fst (List.inj_on_of_nodup_map distinct member otherMember same)

end CallCenter.CanonicalText
