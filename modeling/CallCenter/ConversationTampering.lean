import CallCenter.ConversationAppends

/-!
# Tamper evidence of the conversation log

The hash of an event covers its conversation, its position and the hash before it, in a
text from which every field can be read back. The head of a valid log therefore
determines all of its events, up to the order of keys in their JSON, as long as no two of
the events concerned collide.
-/

namespace CallCenter.ConversationTampering

open JsonValues JsonText MissionSchema HashChains ConversationEvents ConversationKernel
  ConversationAppends

variable {sha256 : String → String}

/-! ## Events are JSON -/

mutual

theorem isJson_of_isJsonValue : ∀ (value : Value) (depth : Nat),
    isJsonValue value depth = true → value.isJson = true
  | .null, _, _ | .bool _, _, _ | .string _, _, _ | .number (.finite _), _, _ => rfl
  | .array items, depth, bounded => by
    rw [isJsonValue, Bool.and_eq_true] at bounded
    exact items_json_of_bounded items (depth + 1) bounded.2
  | .object fields, depth, bounded => by
    rw [isJsonValue, Bool.and_eq_true] at bounded
    exact fields_json_of_bounded fields (depth + 1) bounded.2

theorem items_json_of_bounded : ∀ (items : List Value) (depth : Nat),
    itemsAreBounded items depth = true → itemsAreJson items = true
  | [], _, _ => rfl
  | item :: rest, depth, bounded => by
    rw [itemsAreBounded, Bool.and_eq_true] at bounded
    rw [itemsAreJson, isJson_of_isJsonValue item depth bounded.1,
      items_json_of_bounded rest depth bounded.2]
    rfl

theorem fields_json_of_bounded : ∀ (fields : List (String × Value)) (depth : Nat),
    fieldsAreBounded fields depth = true → fieldsAreJson fields = true
  | [], _, _ => rfl
  | (_, value) :: rest, depth, bounded => by
    rw [fieldsAreBounded, Bool.and_eq_true, Bool.and_eq_true] at bounded
    rw [fieldsAreJson, isJson_of_isJsonValue value depth bounded.1.2,
      fields_json_of_bounded rest depth bounded.2]
    rfl

end

theorem isJson_of_schema {value : Value} (schema : JsonValueSchema value) : value.isJson := by
  rw [JsonValueSchema, Bool.and_eq_true] at schema
  exact isJson_of_isJsonValue value 0 schema.1

/-- A list of JSON values is JSON. -/
theorem array_isJson {α : Type} {toValue : α → Value} {items : List α}
    (each : ∀ item ∈ items, (toValue item).isJson = true) :
    (Value.array (items.map toValue)).isJson := by
  rw [Value.isJson, itemsAreJson_iff]
  intro value member
  obtain ⟨item, known, rfl⟩ := List.mem_map.mp member
  exact each item known

/-- The JSON of a payload that the schema accepts. -/
theorem payload_isJson {payload : ConversationEventPayload}
    (schema : ConversationEventPayloadSchema payload) : payload.toValue.isJson := by
  cases payload with
  | factAsserted | factCorrected =>
    simp only [ConversationEventPayloadSchema, Bool.and_eq_true] at schema
    simp [ConversationEventPayload.toValue, Value.isJson, fieldsAreJson, AuthorityStamp.toValue,
      Value.ofNat, isJson_of_schema, schema]
  | policyAdvanced | workerSpawned =>
    simp [ConversationEventPayload.toValue, Value.isJson, fieldsAreJson, Value.ofNat,
      itemsAreJson_iff, PolicyInvariant.toValue, FactDependency.toValue]
  | flowCheckpointRecorded checkpoint =>
    have ids : (textArray checkpoint.unresolvedActionIds).isJson :=
      array_isJson fun _ _ => rfl
    simp [ConversationEventPayload.toValue, FlowCheckpoint.fields, Value.isJson, fieldsAreJson,
      Value.ofNat, CanonicalText.nullableText_isJson, ids]
  | workerResultDelivered result =>
    simp only [ConversationEventPayloadSchema, WorkerResultSchema, Bool.and_eq_true,
      List.all_eq_true] at schema
    have dependencies : (Value.array
        (result.dependencyFactRevisions.map FactDependency.toValue)).isJson = true :=
      array_isJson fun _ _ => rfl
    have facts : (Value.array (result.facts.map WorkerFact.toValue)).isJson := by
      refine array_isJson ?_
      intro fact member
      have checked := schema.1.1.1.1.1.1.2 fact member
      simp only [WorkerFactSchema, Bool.and_eq_true] at checked
      simp [WorkerFact.toValue, Value.isJson, fieldsAreJson, isJson_of_schema checked.1.2]
    have advisories : (Value.array (result.advisories.map WorkerAdvisory.toValue)).isJson :=
      array_isJson fun _ _ => rfl
    simp only [Value.isJson] at dependencies facts advisories
    simp [ConversationEventPayload.toValue, Value.isJson, fieldsAreJson, Value.ofNat, dependencies,
      facts, advisories]
  | _ => rfl

/-- The hashed part of an event that the schema accepts is JSON. -/
theorem unsigned_isJson {event : ConversationEvent} (schema : ConversationEventSchema event) :
    event.unsigned.isJson := by
  simp only [ConversationEventSchema, ConversationEventDraftSchema, Bool.and_eq_true] at schema
  have payload : event.payload.toValue.isJson := payload_isJson schema.1.1.1.1.1.2
  simp [ConversationEvent.unsigned, ConversationEvent.unsignedFields, Value.isJson, fieldsAreJson,
    Value.ofNat, payload]

/-! ## Equal texts -/

/-- The events agree in every field; the JSON of their payloads may order its keys
differently. -/
structure SameEvent (first second : ConversationEvent) : Prop where
  version : first.version = second.version
  conversationId : first.conversationId = second.conversationId
  sequence : first.sequence = second.sequence
  previousHash : first.previousHash = second.previousHash
  eventId : first.eventId = second.eventId
  occurredAtMs : first.occurredAtMs = second.occurredAtMs
  payload : first.payload.toValue.normal = second.payload.toValue.normal
  hash : first.hash = second.hash

/-- Every field can be read back from the hashed text. -/
theorem sameEvent_of_text {first second : ConversationEvent}
    (firstSchema : ConversationEventSchema first) (secondSchema : ConversationEventSchema second)
    (same : first.unsigned.text = second.unsigned.text) (hashes : first.hash = second.hash) :
    SameEvent first second := by
  have normal : first.unsigned.normal = second.unsigned.normal :=
    text_injective (unsigned_isJson firstSchema) (unsigned_isJson secondSchema) same
  have distinct : (first.unsignedFields.map Prod.fst).Nodup := by
    simp only [ConversationEvent.unsignedFields, List.map_cons, List.map_nil]
    decide
  have field := lookup_of_normal distinct normal
  exact
    { version := ofNat_injective (Option.some.inj (field "version"))
      conversationId := Value.string.inj (Option.some.inj (field "conversationId"))
      sequence := ofNat_injective (Option.some.inj (field "sequence"))
      previousHash := Value.string.inj (Option.some.inj (field "previousHash"))
      eventId := Value.string.inj (Option.some.inj (field "eventId"))
      occurredAtMs := ofNat_injective (Option.some.inj (field "occurredAtMs"))
      payload := Option.some.inj (field "payload")
      hash := hashes }

/-! ## Valid logs -/

/-- For any two valid logs of one conversation, between whose events no two hashed texts
collide: if they have the same head and it is not the hash of the empty log, they hold the
same events in the same order. -/
theorem equal_heads_equal_logs (left right : ConversationLog)
    (conversation : left.conversationId = right.conversationId)
    (leftValid : validateConversationLog sha256 left = .ok ())
    (rightValid : validateConversationLog sha256 right = .ok ())
    (collisionFree : ∀ first ∈ left.events, ∀ second ∈ right.events,
      eventHash sha256 first = eventHash sha256 second → first.unsigned.text = second.unsigned.text)
    (heads : logHead left.events = logHead right.events)
    (appended : logHead left.events ≠ GENESIS_HASH) :
    List.Forall₂ SameEvent left.events right.events := by
  obtain ⟨_, _, leftChained, _⟩ := (validateConversationLog_ok_iff _ _).mp leftValid
  obtain ⟨_, _, rightChained, _⟩ := (validateConversationLog_ok_iff _ _).mp rightValid
  rw [← conversation] at rightChained
  have nonempty : ∀ events : List ConversationEvent, logHead events ≠ GENESIS_HASH →
      events ≠ [] := by
    rintro _ different rfl
    exact different rfl
  refine chains_agree left.events right.events ?_ leftChained rightChained
    ⟨nonempty _ appended, nonempty _ (heads ▸ appended)⟩ ?_
  · intro first member second otherMember index other before otherBefore intact otherIntact hashes
    simp only [eventIntact, Bool.and_eq_true, decide_eq_true_eq, and_assoc] at intact otherIntact
    obtain ⟨schema, _, contiguous, linked, hashed⟩ := intact
    obtain ⟨otherSchema, _, otherContiguous, otherLinked, otherHashed⟩ := otherIntact
    have collided : eventHash sha256 first = eventHash sha256 second := by
      rw [hashed, otherHashed, hashes]
    have same := sameEvent_of_text schema otherSchema
      (collisionFree first member second otherMember collided) hashes
    refine ⟨same, ?_, ?_⟩
    · have positions := same.sequence
      omega
    · rw [← linked, ← otherLinked, same.previousHash]
  · rw [headHash_eq_logHead, headHash_eq_logHead, heads]

/-! ## Two orders of keys -/

/-- The event that asserts a fact in an empty log. -/
def assertedEvent (value : Value) : ConversationEvent :=
  signEvent Sha256.digest "call-1" []
    ⟨"event-1", 0, .factAsserted "k" value 1 ⟨.humanVerified, "i", "e", 0⟩⟩

def assertedLog (value : Value) : ConversationLog := ⟨1, "call-1", [assertedEvent value]⟩

theorem assertedLog_valid {value : Value} (json : JsonValueSchema value) :
    validateConversationLog Sha256.digest (assertedLog value) = .ok () := by
  have hashed : HashSchema (assertedEvent value).hash := by
    simp only [HashSchema, FlowState.isHexDigest, Bool.and_eq_true, decide_eq_true_eq,
      List.all_eq_true]
    exact ⟨Sha256.digest_length _, Sha256.digest_digits _⟩
  have fields : ConversationEventPayloadSchema (assertedEvent value).payload := by
    simp only [assertedEvent, signEvent, ConversationEventPayloadSchema, json, Bool.and_true]
    decide
  have identified : IdSchema "call-1" := by decide
  have envelope : (IdSchema "event-1" && NonNegativeIntegerSchema 0
      && decide (1 = CONVERSATION_KERNEL_VERSION) && IdSchema "call-1" && PositiveIntegerSchema 1
      && HashSchema GENESIS_HASH) = true := by
    decide +kernel
  have schema : ConversationEventSchema (assertedEvent value) := by
    simp only [ConversationEventSchema, ConversationEventDraftSchema, ConversationEvent.draft,
      fields, hashed, Bool.and_true]
    exact envelope
  refine (validateConversationLog_ok_iff _ _).mpr ⟨rfl, identified, ?_, List.nodup_singleton _⟩
  exact (chainIntact_snoc _ [] _).mpr ⟨rfl, signEvent_intact schema⟩

theorem assertedLog_head (value : Value) :
    logHead (assertedLog value).events = Sha256.digest (assertedEvent value).unsigned.text := by
  rw [assertedLog]
  exact congrArg Sha256.digest rfl

/-- Two logs that write the keys of one value in different orders have the same head and are
the same log. -/
theorem reordered_keys_same_log : validateConversationLog Sha256.digest
        (assertedLog (.object [("a", .null), ("b", .null)])) = .ok () ∧
      List.Forall₂ SameEvent (assertedLog (.object [("a", .null), ("b", .null)])).events
        (assertedLog (.object [("b", .null), ("a", .null)])).events := by
  have valid : validateConversationLog Sha256.digest
      (assertedLog (.object [("a", .null), ("b", .null)])) = .ok () := assertedLog_valid (by decide)
  have reordered : validateConversationLog Sha256.digest
      (assertedLog (.object [("b", .null), ("a", .null)])) = .ok () := assertedLog_valid (by decide)
  have texts : (assertedEvent (.object [("a", .null), ("b", .null)])).unsigned.text =
      (assertedEvent (.object [("b", .null), ("a", .null)])).unsigned.text := by
    rfl
  refine ⟨valid, equal_heads_equal_logs _ _ rfl valid reordered ?_ ?_ ?_⟩
  · intro first member second otherMember _
    rw [List.mem_singleton.mp member, List.mem_singleton.mp otherMember]
    exact texts
  · rw [assertedLog_head, assertedLog_head, texts]
  · rw [assertedLog_head]
    decide +kernel

end CallCenter.ConversationTampering
