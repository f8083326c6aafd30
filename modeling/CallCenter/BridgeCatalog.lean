import CallCenter.BridgeSession

/-!
# Which batches reach the authority

The catalog authority of the bootstrap has a digest and an epoch. What a batch leaves behind has
the availability of its last report as well, and the client refuses an authority with a third key.
-/

namespace CallCenter.BridgeSession

open AuthorityProtocol Guards JsonValues ObjectFields Runs
open FlowState (isHexDigest)

section Catalog

variable {host : BridgeHost}

/-- A digest, an epoch, and something else exactly when the catalog has been advanced. -/
def CatalogShape (authority : Value) (advances : Nat) : Prop :=
  ∃ digest epoch number extra,
    authority = .object (("catalogDigest", .string digest) :: ("capabilityEpoch", epoch) :: extra) ∧
      isHexDigest digest = true ∧ safeInteger epoch = some number ∧ 0 ≤ number ∧
      (extra = [] ↔ advances = 0)

/-- A text that passes the test. -/
theorem isText_iff {test : String → Bool} {value : Value} :
    isText test value = true ↔ ∃ text, value = .string text ∧ test text = true := by
  cases value <;> simp [isText]

variable {advances : Nat}

/-- A validated authority has the shape of one. -/
theorem validate_shape {allowAvailability : Bool} {value next : Value}
    (validated : validateActiveCatalogAuthority allowAvailability value = some next)
    (extra : isUndefined (property value "availability") = true ↔ advances = 0) :
    CatalogShape next advances := by
  simp only [validateActiveCatalogAuthority, Option.ite_none_right_eq_some, Bool.and_eq_true] at validated
  obtain ⟨⟨⟨⟨-, digested⟩, natural⟩, -⟩, same⟩ := validated
  obtain ⟨digest, text, hex⟩ := isText_iff.mp digested
  unfold isSafeNatural at natural
  cases integer : safeInteger (property value "capabilityEpoch") with
  | none => simp [integer] at natural
  | some number =>
    rw [integer] at natural
    refine ⟨digest, _, number, if isUndefined (property value "availability") then []
      else [("availability", property value "availability")], ?_, hex, integer, by simpa using natural, ?_⟩
    · rw [← text]
      exact (Option.some.inj same).symm
    · rw [← extra]
      by_cases undefined : isUndefined (property value "availability") <;> simp [undefined]

/-- Without the extension no availability is accepted. -/
theorem validate_plain {value next : Value}
    (validated : validateActiveCatalogAuthority false value = some next) :
    isUndefined (property value "availability") := by
  simp only [validateActiveCatalogAuthority, Option.ite_none_right_eq_some, Bool.and_eq_true] at validated
  have keys := validated.1.1.1.1.2
  unfold property
  cases found : (recordFields value).lookup "availability" with
  | none => rfl
  | some availability =>
    have listed : "availability" ∈ keysOf value :=
      List.mem_map_of_mem (f := Prod.fst) (mem_of_lookup _ _ _ found)
    simpa using List.all_eq_true.mp keys _ listed

/-- The client takes a catalog authority that has not been advanced, and no other. -/
theorem CatalogShape.normalized_iff {authority : Value} (shape : CatalogShape authority advances) :
    (∃ catalog, normalizeActiveCatalogAuthority authority = .ok catalog ∧
      property authority "catalogDigest" = .string catalog.catalogDigest ∧
      safeInteger (property authority "capabilityEpoch") = some catalog.capabilityEpoch) ↔
      advances = 0 := by
  obtain ⟨digest, epoch, number, extra, rfl, hex, integer, natural, advanced⟩ := shape
  rw [← advanced]
  constructor
  · rintro ⟨catalog, taken, -⟩
    by_contra longer
    simp [normalizeActiveCatalogAuthority, keysOf, recordFields, longer] at taken
  · rintro rfl
    exact ⟨⟨digest, number⟩, by
      simp [normalizeActiveCatalogAuthority, isRecord, keysOf, recordFields, property, hex, integer,
        natural, List.lookup], by simp [property, recordFields], by
      simpa [property, recordFields, List.lookup] using integer⟩

/-! ### Validation of a call -/

/-- Gateway arguments that the client takes under some catalog authority. -/
def WellFormed (host : BridgeHost) (call : ToolCall) : Prop :=
  ∃ authority request, normalizeGatewayCall (gatewayInput host call authority) = .ok request

/-- What a gateway call carries. -/
theorem gatewayInput_property (call : ToolCall) (authority : Value) :
    property (gatewayInput host call authority) "name" = .string call.name ∧
      property (gatewayInput host call authority) "arguments" = call.arguments ∧
      property (gatewayInput host call authority) "activeCatalogAuthority" = authority :=
  ⟨rfl, rfl, rfl⟩

/-- The catalog authority is the last thing that the client looks at. -/
theorem WellFormed.validated {call : ToolCall} (wellFormed : WellFormed host call) :
    ∃ request : GatewayRequest, ∀ authority,
      normalizeGatewayCall (gatewayInput host call authority) =
        (normalizeActiveCatalogAuthority authority).map
          fun catalog => { request with activeCatalogAuthority := catalog } := by
  obtain ⟨first, request, taken⟩ := wellFormed
  refine ⟨request, fun authority => ?_⟩
  have same : normalizeProviderCallIdentity (gatewayInput host call first) =
      normalizeProviderCallIdentity (gatewayInput host call authority) := rfl
  simp only [normalizeGatewayCall, gatewayInput_property, bind_ok_iff, require_ok_iff] at taken
  obtain ⟨-, object, -, keys, -, name, -, arguments, budget, strict, -, exact, rest⟩ := taken
  split at rest
  case h_2 => simp [bind, Except.bind] at rest
  case h_1 text tool =>
    by_cases named : isToolName text
    · simp only [named, if_true, bind_ok_iff, require_ok_iff, pure_ok_iff] at rest
      obtain ⟨toolName, ⟨rfl⟩, -, target, identity, identified, catalog, -, rfl⟩ := rest
      have keys : (keysOf (gatewayInput host call authority)).all gatewayCallKeys.contains := keys
      have object : isRecord (gatewayInput host call authority) := rfl
      rw [same] at identified
      simp only [normalizeGatewayCall, gatewayInput_property, object, keys, name, arguments, strict,
        exact, tool, named, target, identified, require, if_true]
      cases normalizeActiveCatalogAuthority authority <;> rfl
    · simp [named, bind, Except.bind] at rest

/-- A call is handed over with the authority of its walk. -/
theorem walkCalls_handed (host : BridgeHost) (stopped : Option SkipReason) (clientClosed : Bool)
    (authority : Value) (calls : List ToolCall) :
    ∀ entry ∈ (walkCalls host stopped clientClosed authority calls).handed,
      entry.2 = normalizeGatewayCall (gatewayInput host entry.1 authority) := by
  induction calls with
  | nil => simp [walkCalls]
  | cons call rest ih =>
    unfold walkCalls
    cases stopped with
    | some => simp
    | none =>
      cases clientClosed with
      | true => simp
      | false =>
        cases verdict : normalizeGatewayCall (gatewayInput host call authority) with
        | ok => simp [verdict]
        | error error =>
          cases lost : error.indeterminate with
          | true => simp [verdict, lost]
          | false => simpa [verdict, lost] using ih

/-! ### Every run -/

/-- Every catalog authority that the session holds, or has used, has its shape. -/
structure Tracked (host : BridgeHost) (side : ToolSide) : Prop where
  unset : side.activeCatalogAuthority = none → side.advances = 0
  current : ∀ authority, side.activeCatalogAuthority = some authority →
    CatalogShape authority side.advances
  batches : ∀ entry ∈ side.toolBatches, CatalogShape entry.2.authority entry.2.advances
  handed : ∀ call ∈ side.handed, CatalogShape call.batch.authority call.batch.advances ∧
    call.verdict = normalizeGatewayCall (gatewayInput host call.call call.batch.authority)

/-- Reports advance to an authority of the shape. -/
theorem followReports_shape {prior : Int} {latest : Option Value} {reports : List CatalogReport}
    (before : ∀ next, latest = some next → CatalogShape next (advances + 1)) :
    ∀ next, followReports prior latest reports = some (some next) → CatalogShape next (advances + 1) := by
  induction reports generalizing prior latest with
  | nil => simpa [followReports] using before
  | cons report rest ih =>
    unfold followReports
    cases validated : validateActiveCatalogAuthority true (CatalogReport.toValue report) with
    | none => simp
    | some next =>
      by_cases rewound : epochOf next < prior
      · simp [rewound]
      · have shape : CatalogShape next (advances + 1) := validate_shape validated
          (by simp [CatalogReport.toValue, property, recordFields, List.lookup, isUndefined])
        simpa [rewound] using ih (by rintro _ ⟨rfl⟩; exact shape)

variable {bridge : Bridge}

section

variable (tracked : Tracked host bridge.toToolSide)
include tracked

/-- The end of a batch keeps the catalog tracked. -/
theorem finishBatch_tracked (batch : Batch) (settled : Settled) (taken : Bool) :
    Tracked host (finishBatch host bridge batch settled taken).toToolSide := by
  have kept : ∀ entry ∈ bridge.toolBatches.filter (·.1 ≠ batch.responseId),
      CatalogShape entry.2.authority entry.2.advances := fun entry member =>
    tracked.batches entry (List.mem_of_mem_filter member)
  have recorded : (settleBatch host bridge batch settled).toToolSide = { bridge.toToolSide with
        toolBatches := bridge.toolBatches.filter (·.1 ≠ batch.responseId) } := by
    simp [settleBatch]
  obtain same | ⟨authority, followed, advanced⟩ := finishBatch_side host bridge batch settled taken
  · rw [same, recorded]
    exact ⟨tracked.unset, tracked.current, kept, tracked.handed⟩
  · have shape : CatalogShape authority (bridge.advances + 1) := by
      dsimp only [nextCatalogAuthority] at followed
      split at followed
      · exact followReports_shape (by simp) authority followed
      · simp at followed
    rw [advanced, recorded]
    refine ⟨by simp, ?_, kept, tracked.handed⟩
    rintro _ ⟨rfl⟩
    exact shape

/-- So does the walk of its calls. -/
theorem executeCalls_tracked (batch : Batch) (shape : CatalogShape batch.authority batch.advances)
    (settled : Settled) (calls : List ToolCall) (taken : Bool) :
    Tracked host (executeCalls host bridge batch settled calls taken).toToolSide := by
  have walked := walkCalls_handed host (stopReason bridge batch)
    (bridge.closedClients.contains batch.client) batch.authority calls
  dsimp only [executeCalls]
  generalize walkCalls host _ _ _ _ = walk at walked ⊢
  have handed : ∀ call ∈ bridge.handed ++ walk.handed.map fun entry => ⟨batch, entry.1, entry.2⟩,
      CatalogShape call.batch.authority call.batch.advances ∧
        call.verdict = normalizeGatewayCall (gatewayInput host call.call call.batch.authority) := by
    intro call member
    rcases List.mem_append.mp member with earlier | later
    · exact tracked.handed call earlier
    · obtain ⟨entry, listed, rfl⟩ := List.mem_map.mp later
      exact ⟨shape, walked entry listed⟩
  cases walk.waiting with
  | none =>
    apply finishBatch_tracked
    exact ⟨tracked.unset, tracked.current, tracked.batches, handed⟩
  | some =>
    exact ⟨tracked.unset, tracked.current, forall_setField tracked.batches shape, handed⟩

/-- So does a settled call. -/
theorem callSettled_tracked (responseId : String) (answer : Except ClientError ToolResult)
    (taken : Bool) :
    Tracked host (callSettled host bridge responseId answer taken).toToolSide := by
  unfold callSettled
  cases found : bridge.toolBatches.lookup responseId with
  | none => exact tracked
  | some =>
    dsimp only
    split
    · exact finishBatch_tracked tracked _ _ _
    · exact executeCalls_tracked tracked _ (tracked.batches _ (mem_of_lookup _ _ _ found)) _ _ _

/-- So does every input. -/
theorem step_tracked (input : BridgeInput) : Tracked host (step host bridge input).toToolSide := by
  obtain same | ⟨value, authority, first, validated, same⟩ | ⟨responseId, calls, taken, moved⟩ |
    ⟨responseId, answer, taken, moved⟩ := step_side host bridge input
  · rw [same]
    exact tracked
  · rw [same]
    refine ⟨by simp, ?_, tracked.batches, tracked.handed⟩
    rintro _ ⟨rfl⟩
    exact validate_shape validated (by simp [tracked.unset first, validate_plain validated])
  · rw [moved]
    dsimp only [dispatchToolBatch]
    split
    · exact tracked
    split
    · split
      · rw [record_side]
        exact tracked
      · rw [fatal_side]
        exact tracked
    split
    · rw [fatal_side]
      exact tracked
    split
    · rename_i client authority chosen current
      apply executeCalls_tracked
      · rw [record_side]
        exact ⟨tracked.unset, tracked.current, tracked.batches, tracked.handed⟩
      · exact tracked.current authority current
    · rw [fatal_side]
      exact ⟨tracked.unset, tracked.current, tracked.batches, tracked.handed⟩
  · rw [moved]
    exact callSettled_tracked tracked _ _ _

end

/-- In every run, a well-formed call passes the client's validation, with the digest and the epoch
of the session's catalog, exactly when no batch before had advanced the catalog. -/
theorem handed_validated_iff (host : BridgeHost) (inputs : List BridgeInput) (handed : Handed)
    (member : handed ∈ (run (step host) {} inputs).handed)
    (wellFormed : WellFormed host handed.call) :
    (∃ request, handed.verdict = .ok request ∧ property handed.batch.authority "catalogDigest" =
        .string request.activeCatalogAuthority.catalogDigest ∧
      safeInteger (property handed.batch.authority "capabilityEpoch") =
        some request.activeCatalogAuthority.capabilityEpoch) ↔
      handed.batch.advances = 0 := by
  have tracked : Tracked host (run (step host) {} inputs).toToolSide :=
    run_invariant (fun bridge : Bridge => Tracked host bridge.toToolSide)
      ⟨fun _ => rfl, by simp, by simp, by simp⟩ (fun _ input known => step_tracked known input) inputs
  obtain ⟨shape, verdict⟩ := tracked.handed handed member
  obtain ⟨request, validated⟩ := wellFormed.validated
  rw [← shape.normalized_iff, verdict, validated]
  constructor
  · rintro ⟨final, taken, digest, epoch⟩
    cases normalized : normalizeActiveCatalogAuthority handed.batch.authority with
    | error => simp [normalized, Except.map] at taken
    | ok catalog =>
      simp only [normalized, Except.map, Except.ok.injEq] at taken
      subst taken
      exact ⟨catalog, rfl, digest, epoch⟩
  · rintro ⟨catalog, normalized, digest, epoch⟩
    exact ⟨_, by rw [normalized]; rfl, digest, epoch⟩

end Catalog

/-! ### A second batch -/

def exampleHost : BridgeHost where
  provider := .openai
  allowedClientTools := ["capability_gateway"]
  maximumToolCalls := 10
  eventBytes _ _ := 1024

def exampleDigest : String := String.ofList (List.replicate 64 'a')

def exampleAuthority : Value :=
  .object [("catalogDigest", .string exampleDigest), ("capabilityEpoch", .ofNat 1)]

def exampleCall (responseId : String) : ToolCall where
  callId := "call_" ++ responseId
  responseId := responseId
  name := "capability_gateway"
  arguments := .object [("tool_name", .string "lookup"), ("arguments", .object [])]

/-- The first batch of a session. -/
def firstBatch : List BridgeInput :=
  [.bootstrapped exampleAuthority, .providerAcknowledged,
    .callsReady "resp_1" [exampleCall "resp_1"] true]

/-- The first batch succeeds, with an active catalog, and another one follows. -/
def secondBatch : List BridgeInput :=
  firstBatch ++
    [.callSettled "resp_1" (.ok ⟨.object [], false, ⟨exampleDigest, .ofNat 2, .active⟩⟩) true,
      .callsReady "resp_2" [exampleCall "resp_2"] true]

/-- The verdict is a request. -/
def isValidated : Except ClientError GatewayRequest → Bool
  | .ok _ => true
  | .error _ => false

/-- A handed call of a batch, with what the client said of it. -/
def isHanded (responseId : String) (validated : Bool) (handed : Handed) : Bool :=
  handed.batch.responseId = responseId && isValidated handed.verdict = validated &&
    isValidated (normalizeGatewayCall (gatewayInput exampleHost handed.call exampleAuthority))

/-- What the test establishes. -/
theorem isHanded_wellFormed {responseId : String} {validated : Bool} {handed : Handed}
    (tested : isHanded responseId validated handed) :
    handed.batch.responseId = responseId ∧ isValidated handed.verdict = validated ∧
      WellFormed exampleHost handed.call := by
  simp only [isHanded, Bool.and_eq_true, decide_eq_true_eq] at tested
  refine ⟨tested.1.1, tested.1.2, ?_⟩
  cases verdict : normalizeGatewayCall (gatewayInput exampleHost handed.call exampleAuthority) with
  | ok request => exact ⟨_, request, verdict⟩
  | error => simp [isValidated, verdict] at tested

theorem first_batch_validated :
    ∃ handed ∈ (run (step exampleHost) {} firstBatch).handed, WellFormed exampleHost handed.call ∧
      ((∃ request, handed.verdict = .ok request ∧ property handed.batch.authority "catalogDigest" =
          .string request.activeCatalogAuthority.catalogDigest ∧
        safeInteger (property handed.batch.authority "capabilityEpoch") =
          some request.activeCatalogAuthority.capabilityEpoch) ↔ handed.batch.advances = 0) := by
  have evaluated : (run (step exampleHost) {} firstBatch).handed.any (isHanded "resp_1" true) = true := by
    decide +kernel
  obtain ⟨handed, member, tested⟩ := List.any_eq_true.mp evaluated
  obtain ⟨-, -, wellFormed⟩ := isHanded_wellFormed tested
  exact ⟨handed, member, wellFormed, handed_validated_iff exampleHost _ handed member wellFormed⟩

/-- The session stays open, and the client refuses every call of the second batch. -/
theorem advanced_catalog_refused :
    ∃ handed ∈ (run (step exampleHost) {} secondBatch).handed, WellFormed exampleHost handed.call ∧
      handed.batch.responseId = "resp_2" ∧ (∃ error, handed.verdict = .error error) ∧
      (run (step exampleHost) {} secondBatch).closing = false := by
  have evaluated : (run (step exampleHost) {} secondBatch).handed.any (isHanded "resp_2" false) = true ∧
      (run (step exampleHost) {} secondBatch).closing = false := by decide +kernel
  obtain ⟨handed, member, tested⟩ := List.any_eq_true.mp evaluated.1
  obtain ⟨second, refused, wellFormed⟩ := isHanded_wellFormed tested
  refine ⟨handed, member, wellFormed, second, ?_, evaluated.2⟩
  cases verdict : handed.verdict with
  | ok => simp [isValidated, verdict] at refused
  | error error => exact ⟨error, rfl⟩

end CallCenter.BridgeSession
