import CallCenter.FlowNavigation
import CallCenter.ListRewrites

/-!
# Action receipts

Admission, dispatch, settlement and reconciliation of one action, as operations on
the receipts embedded in the execution state.

A receipt is reserved by `reserveFlowAction`, crosses the dispatch boundary once,
and is settled as succeeded, failed or indeterminate. Only a proof resolves an
indeterminate receipt.
-/

namespace CallCenter.FlowActions

open JsonValues FlowDefinition Timestamps FlowState FlowNavigation ListRewrites

/-- A request to run an action, with the identities that the gateway derived for it. -/
structure ReserveArgs where
  receiptId : String
  invocationId : String
  tool : String
  arguments : List (String × Value)
  capabilityEpoch : Nat
  providerInvocationId : Option String

/-- The admitted or replayed receipt. Only a fresh reservation may be executed. -/
structure FlowActionReservation where
  state : FlowExecutionState
  receipt : FlowActionReceipt
  execute : Bool
  replayed : Bool

/-- The object whose hash deduplicates an action in the given mode. -/
def idempotencyMaterial (scope : CapabilityScope) (tool : String) (mode : Idempotency)
    (argumentsHash receiptId : String) : Value :=
  match mode with
  | .perCall => .object [("tool", .string tool)]
  | .perCallArguments =>
    .object [("tool", .string tool), ("argumentsHash", .string argumentsHash)]
  | .perStep =>
    .object [("step", .string scope.step), ("attempt", .ofNat scope.attempt),
      ("tool", .string tool)]
  | .perArguments =>
    .object [("step", .string scope.step), ("attempt", .ofNat scope.attempt),
      ("tool", .string tool), ("argumentsHash", .string argumentsHash)]
  | .none =>
    .object [("step", .string scope.step), ("tool", .string tool), ("receiptId", .string receiptId)]

def actionIdempotencyKey (sha256 : String → String) (scope : CapabilityScope) (tool : String)
    (mode : Idempotency) (argumentsHash receiptId : String) : Except String String :=
  hashFlowValue sha256 (idempotencyMaterial scope tool mode argumentsHash receiptId)

/-- Modes whose key and call count span the whole call. -/
def isCallScoped (mode : Idempotency) : Bool :=
  decide (mode = .perCall ∨ mode = .perCallArguments)

/-- The policy of the open step for a tool, or else the global one. -/
def resolvedPolicy (flow : AgentFlow) (ref : Option StepRef) (tool : String) :
    Option FlowActionPolicy :=
  (ref.bind fun active => active.step.actionPolicies.find? fun policy => policy.tool = tool).or
    ((alwaysActionPolicies flow).find? fun policy => policy.tool = tool)

/-- The receipt records the same tool, arguments and step as the request. -/
def semanticIdentityMatches (scope : CapabilityScope) (tool argumentsHash : String)
    (receipt : FlowActionReceipt) : Bool :=
  decide (receipt.tool = tool) && decide (receipt.argumentsHash = argumentsHash)
    && decide (receipt.step = scope.step)

/-- An earlier receipt, handed back without the right to execute. -/
def replayReservation (state : FlowExecutionState) (receipt : FlowActionReceipt) :
    FlowActionReservation :=
  { state, receipt, execute := false, replayed := decide (receipt.status = .succeeded) }

/-- The request repeats the identity of an earlier receipt: its receipt id, its
invocation id, or its provider's invocation id. A repetition with other semantics
is a conflict. -/
def replayedIdentity (state : FlowExecutionState) (scope : CapabilityScope)
    (args : ReserveArgs) (argumentsHash : String) :
    Option (Except Failure FlowActionReservation) :=
  let matching := semanticIdentityMatches scope args.tool argumentsHash
  match state.actionReceipts.find? (fun receipt => receipt.id = args.receiptId) with
  | some receipt =>
    if receipt.invocationId ≠ some args.invocationId ∨ matching receipt = false then
      some (refuse .receiptIdentityConflict
        "receipt identity was replayed with different action semantics")
    else some (.ok (replayReservation state receipt))
  | none =>
    match state.actionReceipts.find? (fun receipt =>
        receipt.invocationId = some args.invocationId) with
    | some receipt =>
      if matching receipt = false then
        some (refuse .invocationIdentityConflict
          "action invocation identity was replayed with different action semantics")
      else some (.ok (replayReservation state receipt))
    | none =>
      match args.providerInvocationId.filter (· ≠ "") with
      | none => none
      | some provider =>
        match state.actionReceipts.find? (fun receipt =>
            receipt.providerInvocationId = some provider) with
        | none => none
        | some receipt =>
          if receipt.invocationId ≠ some args.invocationId ∨ matching receipt = false then
            some (refuse .invocationIdentityConflict
              "provider invocation identity was replayed with different action semantics")
          else some (.ok (replayReservation state receipt))

/-- A live receipt with the same deduplication key, within the key's scope. -/
def existingReservation (state : FlowExecutionState) (callScoped : Bool)
    (idempotencyKey : String) : Option FlowActionReceipt :=
  state.actionReceipts.find? fun receipt =>
    (callScoped || decide (receipt.capabilityEpoch = state.capabilityEpoch))
      && decide (receipt.idempotencyKey = idempotencyKey) && decide (receipt.status ≠ .failed)

/-- Live receipts of the tool that count against its limit. -/
def admittedCalls (state : FlowExecutionState) (callScoped : Bool) (step tool : String) : Nat :=
  (state.actionReceipts.filter fun receipt =>
    (callScoped
        || (decide (receipt.capabilityEpoch = state.capabilityEpoch)
          && decide (receipt.step = step)))
      && decide (receipt.tool = tool) && decide (receipt.status ≠ .failed)).length

/-- The receipt of a fresh reservation. -/
def freshReceipt (state : FlowExecutionState) (scope : CapabilityScope) (args : ReserveArgs)
    (idempotencyKey argumentsHash : String) (argumentsBytes : Nat) (now : Instant) :
    FlowActionReceipt where
  id := args.receiptId
  idempotencyKey
  step := scope.step
  tool := args.tool
  capabilityEpoch := state.capabilityEpoch
  arguments := some args.arguments
  argumentsBytes := some argumentsBytes
  argumentsCompacted := false
  argumentsHash
  invocationId := some args.invocationId
  providerInvocationId := args.providerInvocationId.filter (· ≠ "")
  dispatchStartedAt := none
  dispatchAttempt := none
  reconciliationProofId := none
  status := .reserved
  result := none
  resultBytes := none
  resultCompacted := false
  resultHash := none
  error := none
  reservedAt := now
  settledAt := none

/-- The state in which a fresh receipt is recorded. -/
def reservedState (state : FlowExecutionState) (receipt : FlowActionReceipt) (now : Instant) :
    FlowExecutionState :=
  updateState { state with actionReceipts := state.actionReceipts ++ [receipt] } now

/-- Replay a live receipt with the same key, or append a fresh reservation within
the tool's and the call's limits. -/
def admitFlowAction (state : FlowExecutionState) (scope : CapabilityScope)
    (policy : Option FlowActionPolicy) (args : ReserveArgs)
    (idempotencyKey argumentsHash : String) (argumentsBytes : Nat) (now : Instant) :
    Except Failure FlowActionReservation :=
  let callScoped := isCallScoped ((policy.bind FlowActionPolicy.idempotency).getD .none)
  match existingReservation state callScoped idempotencyKey with
  | some receipt => .ok (replayReservation state receipt)
  | none =>
    match (policy.bind FlowActionPolicy.maxCalls).filter fun limit =>
        decide (limit ≤ admittedCalls state callScoped scope.step args.tool) with
    | some limit =>
      refuse .actionCallLimit
        s!"action \"{args.tool}\" reached its {limit}-call limit for {scope.step}"
    | none =>
      if MAX_FLOW_ACTION_RECEIPTS_PER_CALL ≤ state.actionReceipts.length then
        refuse .flowReceiptQuotaExceeded
          s!"flow reached its {MAX_FLOW_ACTION_RECEIPTS_PER_CALL}-receipt durable storage limit"
      else
        let receipt :=
          freshReceipt state scope args idempotencyKey argumentsHash argumentsBytes now
        let nextState := reservedState state receipt now
        (withinBudget nextState).map fun _ =>
          { state := nextState, receipt, execute := true, replayed := false }

/-- The pure admission phase of an action. -/
def reserveFlowAction (sha256 : String → String) (flow : AgentFlow) (state : FlowExecutionState)
    (args : ReserveArgs) (now : Instant) : Except Failure FlowActionReservation :=
  let scope := flowCapabilityScope state
  let ref := state.openStep.bind (findStep flow)
  if args.capabilityEpoch ≠ state.capabilityEpoch then
    refuse .staleCapability
      s!"capability epoch {args.capabilityEpoch} is stale; current epoch is {state.capabilityEpoch}"
  else if args.receiptId = "" then refuse .invalidReceipt "receipt id is required"
  else if isFlowActionInvocationId args.invocationId = false then
    refuse .invalidInvocationIdentity
      "action invocation identity must be exactly 24 base64url characters"
  else if args.providerInvocationId.any (fun provider =>
      decide ((utf16 provider).length < 1 ∨ 256 < (utf16 provider).length)) then
    refuse .invalidInvocationIdentity "provider invocation identity is invalid"
  else if state.openStep.isSome ∧ ref.isNone then
    let step := shown state.currentStep
    refuse .unknownStep s!"unknown active step \"{step}\""
  else if args.tool ∉ grantedTools flow state then
    let step := shown state.currentStep
    refuseWith .actionNotGranted s!"action \"{args.tool}\" is not granted at {step}"
      (grantedTools flow state)
  else
    match valueEvidence sha256 (.object args.arguments) with
    | .error message => refuse .invalidArguments message
    | .ok (argumentsHash, argumentsBytes) =>
      if MAX_FLOW_ACTION_ARGUMENT_BYTES < argumentsBytes then
        refuse .actionArgumentsTooLarge
          s!"action arguments exceed the {MAX_FLOW_ACTION_ARGUMENT_BYTES}-byte durable storage limit"
      else
        match replayedIdentity state scope args argumentsHash with
        | some outcome => outcome
        | none =>
          let policy := resolvedPolicy flow ref args.tool
          let mode := (policy.bind FlowActionPolicy.idempotency).getD .none
          match actionIdempotencyKey sha256 scope args.tool mode argumentsHash args.receiptId with
          | .error message => .error (.thrown message)
          | .ok idempotencyKey =>
            admitFlowAction state scope policy args idempotencyKey argumentsHash argumentsBytes now

/-- The first receipt with the given identity. -/
def locateReceipt (state : FlowExecutionState) (receiptId : String) :
    Except Failure (Located FlowActionReceipt) :=
  match locate (fun receipt => decide (receipt.id = receiptId)) state.actionReceipts with
  | none => refuse .unknownReceipt s!"unknown action receipt \"{receiptId}\""
  | some located => .ok located

/-- A revised receipt and the state that holds it. -/
structure ReceiptUpdate where
  state : FlowExecutionState
  receipt : FlowActionReceipt

/-- The state with the located receipt revised. -/
def revisedState (state : FlowExecutionState) (located : Located FlowActionReceipt)
    (receipt : FlowActionReceipt) (now : Instant) : FlowExecutionState :=
  updateState { state with actionReceipts := located.overwrite receipt } now

/-- A revision that also has to fit the storage budget. -/
def revisedWithinBudget (state : FlowExecutionState) (located : Located FlowActionReceipt)
    (receipt : FlowActionReceipt) (now : Instant) : Except Failure ReceiptUpdate :=
  let nextState := revisedState state located receipt now
  (withinBudget nextState).map fun _ => ⟨nextState, receipt⟩

/-- The receipt after it crossed the dispatch boundary. -/
def dispatchedReceipt (current : FlowActionReceipt) (now : Instant) : FlowActionReceipt :=
  { current with
    dispatchStartedAt := some now
    dispatchAttempt := some (current.dispatchAttempt.getD 0 + 1) }

/-- Cross the one-way dispatch boundary. -/
def markFlowActionDispatchStarted (state : FlowExecutionState) (receiptId : String)
    (now : Instant) : Except Failure ReceiptUpdate :=
  match locateReceipt state receiptId with
  | .error failure => .error failure
  | .ok located =>
    let current := located.current
    if current.status ≠ .reserved then
      refuse .receiptNotDispatchable s!"action receipt \"{receiptId}\" is not dispatchable"
    else if current.dispatchStartedAt.isSome then
      refuse .dispatchAlreadyStarted
        s!"action receipt \"{receiptId}\" already crossed the dispatch boundary"
    else
      let receipt := dispatchedReceipt current now
      .ok ⟨revisedState state located receipt now, receipt⟩

/-- Outcomes that a settlement can record. -/
inductive Settlement where
  | succeeded
  | failed
  | indeterminate
deriving DecidableEq

def Settlement.status : Settlement → ReceiptStatus
  | .succeeded => .succeeded
  | .failed => .failed
  | .indeterminate => .indeterminate

/-- A settlement request. An undefined result is an omitted one. -/
structure SettleArgs where
  receiptId : String
  status : Settlement
  result : Value
  error : Option String

/-- The result supplied to a settlement, if any. -/
def SettleArgs.supplied (args : SettleArgs) : Option Value :=
  match args.result with
  | .undefined => none
  | result => some result

/-- Hash and size of an optional result, within the size limit. -/
def resultEvidence (sha256 : String → String) (result : Option Value) :
    Except Failure (Option (String × Nat)) :=
  match result with
  | none => .ok none
  | some value =>
    match valueEvidence sha256 value with
    | .error message => refuse .invalidResult message
    | .ok evidence =>
      if MAX_FLOW_ACTION_RESULT_BYTES < evidence.2 then
        refuse .actionResultTooLarge
          s!"action result exceeds the {MAX_FLOW_ACTION_RESULT_BYTES}-byte durable storage limit"
      else .ok (some evidence)

/-- The size limit on error texts. -/
def errorWithinLimit (error : Option String) : Except Failure Unit :=
  match error with
  | none => .ok ()
  | some message =>
    match flowJsonBytes (.object [("message", .string message)]) with
    | .error thrown => .error (.thrown thrown)
    | .ok bytes =>
      if MAX_FLOW_ACTION_ERROR_BYTES < bytes then
        refuse .actionErrorTooLarge
          s!"action error exceeds the {MAX_FLOW_ACTION_ERROR_BYTES}-byte durable storage limit"
      else .ok ()

/-- The receipt after its settlement. Omitted parts keep what the receipt had. -/
def settledReceipt (current : FlowActionReceipt) (args : SettleArgs)
    (evidence : Option (String × Nat)) (now : Instant) : FlowActionReceipt :=
  { current with
    status := args.status.status
    result := args.supplied.or current.result
    resultHash := (evidence.map Prod.fst).or current.resultHash
    resultBytes := (evidence.map Prod.snd).or current.resultBytes
    error := (args.error.filter (· ≠ "")).or current.error
    settledAt := some now }

/-- Record the outcome of an action. A settled receipt accepts only an exact replay. -/
def settleFlowAction (sha256 : String → String) (state : FlowExecutionState) (args : SettleArgs)
    (now : Instant) : Except Failure ReceiptUpdate :=
  match locateReceipt state args.receiptId with
  | .error failure => .error failure
  | .ok located =>
    match errorWithinLimit args.error with
    | .error failure => .error failure
    | .ok _ =>
      match resultEvidence sha256 args.supplied with
      | .error failure => .error failure
      | .ok evidence =>
        let current := located.current
        if current.status ≠ .reserved then
          if current.status = args.status.status ∧ current.resultHash = evidence.map Prod.fst ∧
              current.error = args.error.filter (· ≠ "") then
            .ok ⟨state, current⟩
          else
            refuse .receiptSettlementConflict
              s!"terminal receipt \"{args.receiptId}\" cannot be rewritten with a different outcome"
        else if args.status ≠ .failed ∧ current.dispatchStartedAt.isNone then
          refuse .dispatchNotStarted
            s!"action receipt \"{args.receiptId}\" has not crossed the durable dispatch boundary"
        else
          revisedWithinBudget state located (settledReceipt current args evidence now) now

/-- An indeterminate receipt that crossed the dispatch boundary. -/
def locateIndeterminate (state : FlowExecutionState) (receiptId : String) :
    Except Failure (Located FlowActionReceipt) :=
  match locateReceipt state receiptId with
  | .error failure => .error failure
  | .ok located =>
    if located.current.status ≠ .indeterminate then
      refuse .receiptNotIndeterminate "only an indeterminate action can be reconciled"
    else if located.current.dispatchStartedAt.isNone then
      refuse .receiptDispatchBoundaryMissing "indeterminate action is missing its dispatch boundary"
    else .ok located

/-- Evidence of a committed result. -/
structure PromoteArgs where
  receiptId : String
  proofId : String
  result : Value

/-- The receipt after a proof committed it. -/
def promotedReceipt (current : FlowActionReceipt) (args : PromoteArgs)
    (evidence : Option (String × Nat)) (now : Instant) : FlowActionReceipt :=
  { current with
    status := .succeeded
    result := some args.result
    resultHash := evidence.map Prod.fst
    resultBytes := evidence.map Prod.snd
    reconciliationProofId := some args.proofId
    settledAt := some now }

/-- Promote an ambiguous action on exact read-back proof. -/
def promoteIndeterminateFlowAction (sha256 : String → String) (state : FlowExecutionState)
    (args : PromoteArgs) (now : Instant) : Except Failure ReceiptUpdate :=
  match locateIndeterminate state args.receiptId with
  | .error failure => .error failure
  | .ok located =>
    match resultEvidence sha256 (some args.result) with
    | .error failure => .error failure
    | .ok evidence =>
      revisedWithinBudget state located (promotedReceipt located.current args evidence now) now

/-- Evidence that an invocation was not committed. -/
structure AbsenceArgs where
  receiptId : String
  proofId : String

/-- The receipt after a proof of its absence. -/
def absentReceipt (current : FlowActionReceipt) (args : AbsenceArgs) (now : Instant) :
    FlowActionReceipt :=
  { current with
    status := .failed
    error := some "authoritative read-back proved this invocation was not committed"
    reconciliationProofId := some args.proofId
    settledAt := some now }

/-- Resolve an ambiguous action as failed on proof of its absence. -/
def proveIndeterminateFlowActionAbsent (state : FlowExecutionState) (args : AbsenceArgs)
    (now : Instant) : Except Failure ReceiptUpdate :=
  match locateIndeterminate state args.receiptId with
  | .error failure => .error failure
  | .ok located =>
    if args.proofId = "" then
      refuse .invalidReconciliationProof "authoritative absence requires a proof identity"
    else
      let receipt := absentReceipt located.current args now
      .ok ⟨revisedState state located receipt now, receipt⟩

/-- A reserved receipt among the stale ones that crossed the dispatch boundary. -/
def isStaleDispatch (receiptIds : List String) (receipt : FlowActionReceipt) : Bool :=
  receiptIds.contains receipt.id && decide (receipt.status = .reserved)
    && receipt.dispatchStartedAt.isSome

/-- A stale dispatched receipt becomes indeterminate; any other stays as it is. -/
def recoveredReceipt (receiptIds : List String) (receipt : FlowActionReceipt) (now : Instant) :
    FlowActionReceipt :=
  if isStaleDispatch receiptIds receipt then
    { receipt with
      status := .indeterminate
      error := some "dispatch owner expired after the action crossed the durable dispatch boundary"
      settledAt := some now }
  else receipt

/-- Crash recovery never redispatches receipts that may have crossed the boundary. -/
def markStaleDispatchedActionsIndeterminate (state : FlowExecutionState)
    (receiptIds : List String) (now : Instant) : FlowExecutionState :=
  if state.actionReceipts.any (isStaleDispatch receiptIds) then
    updateState { state with
        actionReceipts := state.actionReceipts.map fun receipt =>
          recoveredReceipt receiptIds receipt now } now
  else state

end CallCenter.FlowActions
