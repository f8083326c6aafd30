import CallCenter.FlowReceipts

/-!
# Idempotent admission

Over a whole run, two live receipts share a deduplication key only when they were
reserved under different capability epochs and the key does not span the call. A
call-scoped policy therefore admits one live receipt per key, and no more live
receipts than its limit, whatever happens between the requests.

The digest is assumed to have no collisions on canonical texts.
-/

namespace CallCenter.FlowAdmission

open JsonValues FlowDefinition Timestamps FlowState FlowNavigation FlowActions FlowRuntime
  FlowTransitions FlowReceipts ListRewrites CanonicalText

/-- The key was derived for a mode that spans the whole call. -/
def CallScopedKey (sha256 : String → String) (key : String) : Prop :=
  ∃ scope tool mode argumentsHash receiptId, isCallScoped mode = true ∧
    actionIdempotencyKey sha256 scope tool mode argumentsHash receiptId = .ok key

/-- Number of fields of an object. -/
def fieldCount : Value → Nat
  | .object fields => fields.length
  | _ => 0

theorem fieldCount_normal (fields : List (String × Value)) :
    fieldCount (Value.object fields).normal = fields.length := by
  rw [Value.normal, fieldCount, sortFields, List.length_insertionSort, normalFields_eq_map,
    List.length_map]

/-- Call-scoped keys hash objects with fewer fields than any other key. -/
theorem fieldCount_material (scope : CapabilityScope) (tool : String) (mode : Idempotency)
    (argumentsHash receiptId : String) :
    isCallScoped mode = true ↔
      fieldCount (idempotencyMaterial scope tool mode argumentsHash receiptId).normal ≤ 2 := by
  cases mode <;> simp [idempotencyMaterial, fieldCount_normal, isCallScoped]

/-- A key of any other mode is not call-scoped. -/
theorem not_callScopedKey {sha256 : String → String} (collisionFree : CollisionFree sha256)
    {scope : CapabilityScope} {tool : String} {mode : Idempotency}
    {argumentsHash receiptId key : String} (narrow : isCallScoped mode = false)
    (keyed : actionIdempotencyKey sha256 scope tool mode argumentsHash receiptId = .ok key) :
    ¬ CallScopedKey sha256 key := by
  rintro ⟨otherScope, otherTool, otherMode, otherHash, otherReceipt, wide, sameKey⟩
  have same := hashFlowValue_injective collisionFree keyed sameKey
  have few := (fieldCount_material otherScope otherTool otherMode otherHash otherReceipt).mp wide
  rw [← same, ← fieldCount_material, narrow] at few
  cases few

/-- Two live receipts with one key belong to different epochs and the key is not
call-scoped. -/
def KeysApart (sha256 : String → String) (first second : FlowActionReceipt) : Prop :=
  first.status ≠ .failed → second.status ≠ .failed → first.idempotencyKey = second.idempotencyKey →
    first.capabilityEpoch ≠ second.capabilityEpoch ∧ ¬ CallScopedKey sha256 first.idempotencyKey

theorem KeysApart.symm {sha256 : String → String} {first second : FlowActionReceipt}
    (apart : KeysApart sha256 first second) : KeysApart sha256 second first := by
  intro secondLive firstLive sameKey
  obtain ⟨epochs, narrow⟩ := apart firstLive secondLive sameKey.symm
  exact ⟨epochs.symm, by rwa [sameKey]⟩

section Runs

variable {sha256 : String → String} {flow : AgentFlow}

/-- Rewriting receipts keeps their keys apart. -/
theorem keysApart_evolves {first second first' second' : FlowActionReceipt}
    (firstEvolves : Evolves first first') (secondEvolves : Evolves second second')
    (apart : KeysApart sha256 first second) : KeysApart sha256 first' second' := by
  intro firstLive secondLive sameKey
  rw [firstEvolves.key, secondEvolves.key] at sameKey
  rw [firstEvolves.epoch, secondEvolves.epoch, firstEvolves.key]
  exact apart (firstEvolves.live firstLive) (secondEvolves.live secondLive) sameKey

/-- A freshly admitted receipt is apart from every earlier one. -/
theorem newReceipt_apart (collisionFree : CollisionFree sha256) {state : FlowExecutionState}
    {args : ReserveArgs} {key hash : String} {bytes : Nat} {now : Instant}
    (admitted : ReservationAdmitted sha256 flow state args key hash bytes now)
    {receipt : FlowActionReceipt} (member : receipt ∈ state.actionReceipts) :
    KeysApart sha256 receipt (newReceipt state args key hash bytes now) := by
  intro live _ sameKey
  have known : receipt.idempotencyKey = key := sameKey
  have outside : ¬ (isCallScoped (governingMode flow state args.tool) = true ∨
      receipt.capabilityEpoch = state.capabilityEpoch) := by
    intro inside
    exact live (admitted.freshKey receipt member inside known)
  obtain ⟨narrow, laterEpoch⟩ := not_or.mp outside
  refine ⟨laterEpoch, ?_⟩
  rw [known]
  exact not_callScopedKey collisionFree (by simpa using narrow) admitted.key

/-- One step keeps the keys of all receipts apart. -/
theorem step_keysApart (collisionFree : CollisionFree sha256) (state : FlowExecutionState)
    (timed : TimedOperation) (apart : state.actionReceipts.Pairwise (KeysApart sha256)) :
    (step sha256 flow state timed).actionReceipts.Pairwise (KeysApart sha256) := by
  rcases transition_receipts (step_transition timed) with
    evolved | ⟨args, key, hash, bytes, now, _, admitted, same⟩
  · exact pairwise_rewritten (fun _ _ _ _ => keysApart_evolves) evolved apart
  · rw [same]
    refine List.pairwise_append.mpr ⟨apart, List.pairwise_singleton _ _, ?_⟩
    intro receipt member fresh isFresh
    rw [List.mem_singleton.mp isFresh]
    exact newReceipt_apart collisionFree admitted member

/-- Wherever the tool is granted, this policy governs it. -/
def GovernedOnlyBy (flow : AgentFlow) (tool : String) (policy : FlowActionPolicy) : Prop :=
  ∀ state, tool ∈ grantedTools flow state → governingPolicy flow state tool = some policy

/-- The receipt is a live one of the tool. -/
def isLiveCall (tool : String) (receipt : FlowActionReceipt) : Bool :=
  decide (receipt.tool = tool) && decide (receipt.status ≠ .failed)

/-- Live receipts of a tool over the whole call. -/
def liveCalls (state : FlowExecutionState) (tool : String) : Nat :=
  (state.actionReceipts.filter (isLiveCall tool)).length

theorem admittedCalls_callScoped (state : FlowExecutionState) (step tool : String) :
    admittedCalls state true step tool = liveCalls state tool := by
  simp only [admittedCalls, Bool.true_or, Bool.true_and]
  rfl

/-- One step keeps the live calls of a call-scoped tool within its limit. -/
theorem step_liveCalls {tool : String} {policy : FlowActionPolicy} {limit : Nat}
    {mode : Idempotency} (governed : GovernedOnlyBy flow tool policy)
    (declared : policy.idempotency = some mode) (wide : isCallScoped mode)
    (limited : policy.maxCalls = some limit) (state : FlowExecutionState) (timed : TimedOperation)
    (within : liveCalls state tool ≤ limit) :
    liveCalls (step sha256 flow state timed) tool ≤ limit := by
  rcases transition_receipts (step_transition timed) with
    evolved | ⟨args, key, hash, bytes, now, _, admitted, same⟩
  · refine Nat.le_trans (length_filter_rewritten ?_ evolved) within
    intro original receipt evolves live
    simp only [isLiveCall, Bool.and_eq_true, decide_eq_true_eq] at live ⊢
    exact ⟨evolves.tool ▸ live.1, evolves.live live.2⟩
  · rw [same]
    by_cases sameTool : args.tool = tool
    · have policyHere : governingPolicy flow state args.tool = some policy :=
        sameTool ▸ governed state (sameTool ▸ admitted.granted)
      have modeHere : governingMode flow state args.tool = mode := by
        simp [governingMode, policyHere, declared]
      have room := admitted.withinCalls limit (by simp [policyHere, limited])
      rw [modeHere, wide, admittedCalls_callScoped, sameTool] at room
      have oneMore : liveCalls (reservedState state (newReceipt state args key hash bytes now) now)
          tool ≤ liveCalls state tool + 1 := by
        simp only [liveCalls, reservedState, updateState, List.filter_append, List.length_append]
        exact Nat.add_le_add_left (List.length_filter_le _ _) _
      omega
    · have notThis : isLiveCall tool (newReceipt state args key hash bytes now) = false := by
        simp [isLiveCall, newReceipt, freshReceipt, sameTool]
      simpa [liveCalls, reservedState, updateState, notThis] using within

/-- The receipt is a live one with the given key. -/
def isLiveWithKey (key : String) (receipt : FlowActionReceipt) : Bool :=
  decide (receipt.idempotencyKey = key) && decide (receipt.status ≠ .failed)

variable {receipts : List FlowActionReceipt}

/-- At most one live receipt carries a call-scoped key. -/
theorem callScopedKey_unique {key : String} (wide : CallScopedKey sha256 key)
    (apart : receipts.Pairwise (KeysApart sha256)) :
    (receipts.filter (isLiveWithKey key)).length ≤ 1 := by
  have filtered := apart.filter (isLiveWithKey key)
  have passes (receipt : FlowActionReceipt) (member : receipt ∈ receipts.filter (isLiveWithKey key)) :
      receipt.idempotencyKey = key ∧ receipt.status ≠ .failed := by
    simpa [isLiveWithKey] using (List.mem_filter.mp member).2
  match split : receipts.filter (isLiveWithKey key) with
  | [] => simp
  | [_] => simp
  | first :: second :: rest =>
    rw [split] at filtered passes
    obtain ⟨firstKey, firstLive⟩ := passes first (by simp)
    obtain ⟨secondKey, secondLive⟩ := passes second (by simp)
    have apartPair := (List.pairwise_cons.mp filtered).1 second (by simp) firstLive secondLive
      (firstKey.trans secondKey.symm)
    exact absurd (firstKey ▸ wide) apartPair.2

/-- Receipts at different positions of a reachable state have their keys apart. -/
theorem keysApart_of_ne
    (apart : receipts.Pairwise (KeysApart sha256)) {i j : Nat} {first second : FlowActionReceipt}
    (different : i ≠ j) (atFirst : receipts[i]? = some first) (atSecond : receipts[j]? = some second) :
    KeysApart sha256 first second := by
  obtain ⟨iBound, rfl⟩ := List.getElem?_eq_some_iff.mp atFirst
  obtain ⟨jBound, rfl⟩ := List.getElem?_eq_some_iff.mp atSecond
  rw [List.pairwise_iff_getElem] at apart
  rcases Nat.lt_or_gt_of_ne different with earlier | later
  · exact apart i j iBound jBound earlier
  · exact (apart j i jBound iBound later).symm

end Runs

/-- Idempotent admission over whole runs. -/
theorem idempotent_admission (sha256 : String → String) (collisionFree : CollisionFree sha256)
    (flow : AgentFlow) (created : Instant) (operations : List TimedOperation) :
    (∀ (i j : Nat) (first second : FlowActionReceipt), i ≠ j →
      (runFlow sha256 flow created operations).actionReceipts[i]? = some first →
      (runFlow sha256 flow created operations).actionReceipts[j]? = some second →
      first.idempotencyKey = second.idempotencyKey →
      first.status ≠ .failed → second.status ≠ .failed →
      first.capabilityEpoch ≠ second.capabilityEpoch ∧
        ¬ CallScopedKey sha256 first.idempotencyKey) ∧
    (∀ key, CallScopedKey sha256 key →
      ((runFlow sha256 flow created operations).actionReceipts.filter
        (isLiveWithKey key)).length ≤ 1) ∧
    (∀ args now reservation,
      reserveFlowAction sha256 flow (runFlow sha256 flow created operations) args now =
        .ok reservation →
      reservation.execute = true →
      reservation.state.actionReceipts =
          (runFlow sha256 flow created operations).actionReceipts ++ [reservation.receipt] ∧
        ∀ receipt ∈ (runFlow sha256 flow created operations).actionReceipts,
          receipt.id ≠ reservation.receipt.id) ∧
    (∀ tool policy mode limit, GovernedOnlyBy flow tool policy →
      policy.idempotency = some mode → isCallScoped mode = true → policy.maxCalls = some limit →
      liveCalls (runFlow sha256 flow created operations) tool ≤ limit) := by
  have apart : (runFlow sha256 flow created operations).actionReceipts.Pairwise
      (KeysApart sha256) :=
    Runs.run_invariant
      (fun state : FlowExecutionState => state.actionReceipts.Pairwise (KeysApart sha256))
      List.Pairwise.nil (step_keysApart collisionFree) operations
  refine ⟨?_, fun key wide => callScopedKey_unique wide apart, ?_, ?_⟩
  · intro i j first second different atFirst atSecond sameKey firstLive secondLive
    exact keysApart_of_ne apart different atFirst atSecond firstLive secondLive sameKey
  · intro args now reservation reserved executes
    rcases reserveFlowAction_cases reserved with ⟨hash, replayed⟩ | ⟨key, hash, bytes, admitted, rfl⟩
    · rw [replayed.unexecuted] at executes
      cases executes
    · exact ⟨rfl, admitted.freshId⟩
  · intro tool policy mode limit governed declared wide limited
    exact Runs.run_invariant (fun state => liveCalls state tool ≤ limit) (Nat.zero_le _)
      (step_liveCalls governed declared wide limited) operations

/-- Digests of the texts that a call hashes when it asks twice to end. -/
def endCallDigest : String → String :=
  tableDigest [("\x7b\x7d", "44136fa355b3678a1146ad16f7e8649e94fb4fc21fe77e8310c060f61caaff8a"),
      ("\x7b\"tool\":\"end_call\"\x7d",
        "f3a4c98511f516b5ba5f51b73c8ca11a399fba388fcd96375366976889f9deee")]

/-- A request to end the call. -/
def endCallRequest (receiptId invocationId : String) : TimedOperation :=
  ⟨.reserve
    { receiptId, invocationId, tool := "end_call", arguments := [], capabilityEpoch := 0,
      providerInvocationId := none }, epoch⟩

/-- Two requests to end one call leave one live receipt. -/
theorem end_call_admitted_once : liveCalls (runFlow endCallDigest FlowValidation.orderFlow epoch
      [endCallRequest "receipt-1" "q1w2e3r4t5y6u7i8o9p0a1s2",
        endCallRequest "receipt-2" "z1x2c3v4b5n6m7a8s9d0f1g2"]) "end_call" = 1 := by
  have collisionFree : CollisionFree endCallDigest := by
    intro left right _ _ same
    exact tableDigest_injective _ (by decide) (by decide) _ _ same
  have governed : GovernedOnlyBy FlowValidation.orderFlow "end_call"
      { tool := "end_call", maxCalls := some 1, idempotency := some .perCall,
        effect := none, reconciliation := none, boundArguments := [] } := by
    intro state _
    have unpoliced : (listStepRefs FlowValidation.orderFlow).all
        (fun ref => ref.step.actionPolicies.isEmpty) = true := by decide +kernel
    rw [governingPolicy]
    cases active : state.openStep.bind (findStep FlowValidation.orderFlow) with
    | none => rfl
    | some ref =>
      obtain ⟨path, _, found⟩ := Option.bind_eq_some_iff.mp active
      have none : ref.step.actionPolicies = [] := by
        simpa using List.all_eq_true.mp unpoliced ref (List.mem_of_find?_eq_some found)
      rw [resolvedPolicy, Option.bind_some, none]
      rfl
  have admitted := (idempotent_admission endCallDigest collisionFree FlowValidation.orderFlow epoch
    [endCallRequest "receipt-1" "q1w2e3r4t5y6u7i8o9p0a1s2",
      endCallRequest "receipt-2" "z1x2c3v4b5n6m7a8s9d0f1g2"]).2.2.2 "end_call" _ .perCall 1 governed
      rfl rfl rfl
  refine Nat.le_antisymm admitted ?_
  decide +kernel

end CallCenter.FlowAdmission
