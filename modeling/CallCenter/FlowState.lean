import CallCenter.Timestamps
import CallCenter.FlowValidation

/-!
# Flow execution state

The durable state of one call: its position in the flow, the outputs of completed
steps, and the receipts of actions. The module holds what the state transitions
share: canonical text and hash of a value, storage accounting, the capability
scope, and the two ways in which a state is revised.

`sha256` stands for the host's digest of a text, in hexadecimal. An operation
that fails returns a `RuntimeError`, or throws where the source lets an exception
of `canonicalJson` escape.
-/

namespace CallCenter.FlowState

open JsonValues FlowValidation Timestamps

def MAX_FLOW_ACTION_RECEIPTS_PER_CALL : Nat := 512
def MAX_FLOW_ACTION_ARGUMENT_BYTES : Nat := 32 * 1024
def MAX_FLOW_ACTION_RESULT_BYTES : Nat := 64 * 1024
def MAX_FLOW_ACTION_ERROR_BYTES : Nat := 16 * 1024
def MAX_FLOW_HOT_STATE_BYTES : Nat := 8 * 1024 * 1024

/-- `FLOW_ACTION_INVOCATION_ID`. -/
def isFlowActionInvocationId (text : String) : Bool :=
  matchesIdentifier isSegmentChar isSegmentChar 23 23 text

/-- A digest of 64 lower-case hexadecimal digits. -/
def isHexDigest (text : String) : Bool :=
  decide (text.toList.length = 64)
    && text.toList.all fun c => decide (48 ≤ c.toNat ∧ c.toNat ≤ 57 ∨ 97 ≤ c.toNat ∧ c.toNat ≤ 102)

/-- Codes of runtime errors. -/
inductive ErrorCode where
  | flowFinished
  | unknownTopic
  | transitionOnlyTopic
  | activeStepIncomplete
  | pendingFlowTransition
  | unknownStep
  | pendingActionEvidence
  | wrongTopic
  | stepNotReachable
  | ancestorStepIncomplete
  | attemptLimit
  | flowEntryLimit
  | staleCapability
  | invalidReceipt
  | invalidInvocationIdentity
  | actionNotGranted
  | invalidArguments
  | actionArgumentsTooLarge
  | receiptIdentityConflict
  | invocationIdentityConflict
  | actionCallLimit
  | flowReceiptQuotaExceeded
  | flowStateStorageQuotaExceeded
  | unknownReceipt
  | receiptNotDispatchable
  | dispatchAlreadyStarted
  | actionErrorTooLarge
  | invalidResult
  | actionResultTooLarge
  | receiptSettlementConflict
  | dispatchNotStarted
  | receiptNotIndeterminate
  | receiptDispatchBoundaryMissing
  | invalidReconciliationProof
  | ambiguousActionEvidence
  | missingActionEvidence
  | missingReceiptOutput
  | receiptOutputType
  | boundOutputMismatch
  | notActiveStep
  | invalidOutputs
  | missingOutputs
  | callNotActive
  | runtimeDigestMissing
  | runtimeDigestMismatch
  | invalidActionIdentity
  | invalidRuntimeDigest
  | receiptLedgerMissing
  | receiptStateMismatch
  | receiptOwnerMismatch
  | dispatchOwnerExpired
  | invalidDeliveryTransition
deriving DecidableEq

/-- The error object returned to the model. -/
structure RuntimeError where
  error : String
  code : ErrorCode
  allowed : Option (List String)
deriving DecidableEq

/-- An operation without a new state: a returned error or an escaped exception. -/
inductive Failure where
  | refused (reason : RuntimeError)
  | thrown (message : String)
deriving DecidableEq

/-- Refuse with an error that lists no alternatives. -/
def refuse {α : Type} (code : ErrorCode) (error : String) : Except Failure α :=
  .error (.refused ⟨error, code, none⟩)

/-- Refuse with an error that lists the paths or tools that are allowed instead. -/
def refuseWith {α : Type} (code : ErrorCode) (error : String) (allowed : List String) :
    Except Failure α :=
  .error (.refused ⟨error, code, some allowed⟩)

/-- A mapped computation succeeds exactly when the computation does. -/
theorem map_ok_iff {ε α β : Type} {result : Except ε α} {change : α → β} {value : β} :
    result.map change = .ok value ↔ ∃ original, result = .ok original ∧ change original = value := by
  cases result with
  | error reason | ok original => simp [Except.map]

/-- The fields of an object in key order; the first field without a text fails. -/
def joinedFields : List (String × Except String String) → Except String (List String)
  | [] => .ok []
  | (key, encoded) :: rest =>
    match encoded with
    | .error message => .error message
    | .ok text => (joinedFields rest).map fun texts => (jsonString key ++ ":" ++ text) :: texts

mutual

/-- The canonical text of a value, independent of the order of object keys. -/
def canonicalJson : Value → Except String String
  | .null => .ok "null"
  | .string value => .ok (jsonString value)
  | .bool value => .ok (if value then "true" else "false")
  | .number (.finite number) => .ok number.text
  | .number _ => .error "action arguments must contain only finite numbers"
  | .array items => (canonicalItems items).map fun texts => "[" ++ commaJoin texts ++ "]"
  | .object fields =>
    (joinedFields (sortFields (canonicalFields fields))).map fun texts =>
      "\x7b" ++ commaJoin texts ++ "\x7d"
  | .undefined => .error "action arguments contain unsupported undefined value"

/-- Canonical texts of array items. -/
def canonicalItems : List Value → Except String (List String)
  | [] => .ok []
  | item :: rest =>
    match canonicalJson item with
    | .error message => .error message
    | .ok text => (canonicalItems rest).map fun texts => text :: texts

/-- Each key with the canonical text of its value; an undefined field is rejected. -/
def canonicalFields : List (String × Value) → List (String × Except String String)
  | [] => []
  | (key, .undefined) :: rest =>
    (key, .error "action arguments must not contain undefined values") :: canonicalFields rest
  | (key, value) :: rest => (key, canonicalJson value) :: canonicalFields rest

end

/-- Length of the canonical text in UTF-8. -/
def flowJsonBytes (value : Value) : Except String Nat :=
  (canonicalJson value).map String.utf8ByteSize

/-- Digest of the canonical text. -/
def hashFlowValue (sha256 : String → String) (value : Value) : Except String String :=
  (canonicalJson value).map sha256

/-- Hash and size of a value, or the message of the exception either computation throws. -/
def valueEvidence (sha256 : String → String) (value : Value) : Except String (String × Nat) :=
  match hashFlowValue sha256 value with
  | .error message => .error message
  | .ok hash => (flowJsonBytes value).map fun bytes => (hash, bytes)

inductive ReceiptStatus where
  | reserved
  | succeeded
  | failed
  | indeterminate
deriving DecidableEq

/-- The text of a status in messages and stored rows. -/
def ReceiptStatus.name : ReceiptStatus → String
  | .reserved => "reserved"
  | .succeeded => "succeeded"
  | .failed => "failed"
  | .indeterminate => "indeterminate"

/-- The embedded receipt of an admitted action. -/
structure FlowActionReceipt where
  id : String
  idempotencyKey : String
  step : String
  tool : String
  capabilityEpoch : Nat
  arguments : Option (List (String × Value))
  argumentsBytes : Option Nat
  argumentsCompacted : Bool
  argumentsHash : String
  invocationId : Option String
  providerInvocationId : Option String
  dispatchStartedAt : Option Instant
  dispatchAttempt : Option Nat
  reconciliationProofId : Option String
  status : ReceiptStatus
  result : Option Value
  resultBytes : Option Nat
  resultCompacted : Bool
  resultHash : Option String
  error : Option String
  reservedAt : Instant
  settledAt : Option Instant

inductive FlowStatus where
  | routing
  | active
  | completed
  | failed
deriving DecidableEq

/-- The text of a flow status. -/
def FlowStatus.name : FlowStatus → String
  | .routing => "routing"
  | .active => "active"
  | .completed => "completed"
  | .failed => "failed"

/-- A completed step at which the call can resume. -/
structure Checkpoint where
  step : String
  time : Instant

/-- The execution state of one call. Its version is always 2. -/
structure FlowExecutionState where
  status : FlowStatus
  nodeId : Option String
  currentStep : Option String
  completedSteps : List String
  stepEntries : Option Nat
  attempts : List (String × Nat)
  outputs : List (String × List (String × Value))
  checkpoints : List Checkpoint
  capabilityEpoch : Nat
  actionReceipts : List FlowActionReceipt
  revision : Nat
  updatedAt : Instant

/-- A field that is present only when it has a value. -/
def optionalField (key : String) (value : Option Value) : List (String × Value) :=
  value.toList.map fun present => (key, present)

/-- A flag that is present only when it is set. -/
def flagField (key : String) (flag : Bool) : List (String × Value) :=
  if flag then [(key, .bool true)] else []

/-- A text or null. -/
def nullableText (text : Option String) : Value := (text.map Value.string).getD .null

/-- The stored form of a receipt. -/
def FlowActionReceipt.toValue (receipt : FlowActionReceipt) : Value :=
  .object ([("id", .string receipt.id), ("idempotencyKey", .string receipt.idempotencyKey),
        ("step", .string receipt.step), ("tool", .string receipt.tool),
        ("capabilityEpoch", .ofNat receipt.capabilityEpoch)]
      ++ optionalField "arguments" (receipt.arguments.map Value.object)
      ++ optionalField "argumentsBytes" (receipt.argumentsBytes.map Value.ofNat)
      ++ flagField "argumentsCompacted" receipt.argumentsCompacted
      ++ [("argumentsHash", .string receipt.argumentsHash)]
      ++ optionalField "invocationId" (receipt.invocationId.map Value.string)
      ++ optionalField "providerInvocationId" (receipt.providerInvocationId.map Value.string)
      ++ optionalField "dispatchStartedAt"
        (receipt.dispatchStartedAt.map fun instant => .string instant.text)
      ++ optionalField "dispatchAttempt" (receipt.dispatchAttempt.map Value.ofNat)
      ++ optionalField "reconciliationProofId" (receipt.reconciliationProofId.map Value.string)
      ++ [("status", .string receipt.status.name)]
      ++ optionalField "result" receipt.result
      ++ optionalField "resultBytes" (receipt.resultBytes.map Value.ofNat)
      ++ flagField "resultCompacted" receipt.resultCompacted
      ++ optionalField "resultHash" (receipt.resultHash.map Value.string)
      ++ optionalField "error" (receipt.error.map Value.string)
      ++ [("reservedAt", .string receipt.reservedAt.text)]
      ++ optionalField "settledAt" (receipt.settledAt.map fun instant => .string instant.text))

/-- The stored form of a checkpoint. -/
def Checkpoint.toValue (checkpoint : Checkpoint) : Value :=
  .object [("step", .string checkpoint.step), ("at", .string checkpoint.time.text)]

/-- The stored form of a state. -/
def FlowExecutionState.toValue (state : FlowExecutionState) : Value :=
  .object ([("version", .ofNat 2), ("status", .string state.status.name),
        ("nodeId", nullableText state.nodeId), ("currentStep", nullableText state.currentStep),
        ("completedSteps", .array (state.completedSteps.map Value.string))]
      ++ optionalField "stepEntries" (state.stepEntries.map Value.ofNat)
      ++ [("attempts", .object (state.attempts.map fun entry => (entry.1, .ofNat entry.2))),
        ("outputs", .object (state.outputs.map fun entry => (entry.1, .object entry.2))),
        ("checkpoints", .array (state.checkpoints.map Checkpoint.toValue)),
        ("capabilityEpoch", .ofNat state.capabilityEpoch),
        ("actionReceipts", .array (state.actionReceipts.map FlowActionReceipt.toValue)),
        ("revision", .ofNat state.revision), ("updatedAt", .string state.updatedAt.text)])

/-- Size of the stored state. -/
def flowStateStorageBytes (state : FlowExecutionState) : Except String Nat :=
  flowJsonBytes state.toValue

/-- A new state within its storage budget, or the budget error. A state that has
no canonical text makes the size computation throw. -/
def withinBudget (state : FlowExecutionState) : Except Failure Unit :=
  if MAX_FLOW_ACTION_RECEIPTS_PER_CALL < state.actionReceipts.length then
    refuse .flowReceiptQuotaExceeded
      s!"flow reached its {MAX_FLOW_ACTION_RECEIPTS_PER_CALL}-receipt durable storage limit"
  else
    match flowStateStorageBytes state with
    | .error message => .error (.thrown message)
    | .ok bytes =>
      if MAX_FLOW_HOT_STATE_BYTES < bytes then
        refuse .flowStateStorageQuotaExceeded
          s!"flow state exceeded its {MAX_FLOW_HOT_STATE_BYTES}-byte durable storage limit"
      else .ok ()

/-- The bytes a receipt already records, or those of the present value. -/
def recordedBytes (recorded : Option Nat) (value : Value) : Except String Nat :=
  match recorded with
  | some bytes => .ok bytes
  | none => flowJsonBytes value

/-- Drop the arguments of a settled receipt, keeping their size and hash. -/
def compactArguments (receipt : FlowActionReceipt) : Except String FlowActionReceipt :=
  match receipt.arguments with
  | none => .ok receipt
  | some fields =>
    (recordedBytes receipt.argumentsBytes (.object fields)).map fun bytes =>
      { receipt with
        arguments := none, argumentsBytes := some bytes, argumentsCompacted := true }

/-- Drop the result of a settled receipt, keeping its size and hash. -/
def compactResult (receipt : FlowActionReceipt) : Except String FlowActionReceipt :=
  match receipt.result with
  | none => .ok receipt
  | some .undefined => .ok { receipt with result := none }
  | some value =>
    (recordedBytes receipt.resultBytes value).map fun bytes =>
      { receipt with result := none, resultBytes := some bytes, resultCompacted := true }

/-- Replay payloads are removed from the settled receipts of a completed step. -/
def compactReceipt (completedStep : String) (receipt : FlowActionReceipt) :
    Except String FlowActionReceipt :=
  if receipt.step ≠ completedStep ∨ (receipt.status ≠ .succeeded ∧ receipt.status ≠ .failed) then
    .ok receipt
  else
    match compactArguments receipt with
    | .error message => .error message
    | .ok compacted => compactResult compacted

def compactCompletedStepReceipts (completedStep : String) :
    List FlowActionReceipt → Except String (List FlowActionReceipt)
  | [] => .ok []
  | receipt :: rest =>
    match compactReceipt completedStep receipt with
    | .error message => .error message
    | .ok compacted =>
      (compactCompletedStepReceipts completedStep rest).map fun others => compacted :: others

/-- The current step while it is not completed; the empty text counts as no step. -/
def FlowExecutionState.openStep (state : FlowExecutionState) : Option String :=
  state.currentStep.filter fun step => decide (step ≠ "") && !state.completedSteps.contains step

/-- The call has ended. -/
def FlowExecutionState.finished (state : FlowExecutionState) : Bool :=
  decide (state.status = .completed ∨ state.status = .failed)

/-- Step and attempt to which a capability grant is bound. -/
structure CapabilityScope where
  step : String
  attempt : Nat
deriving DecidableEq

def flowCapabilityScope (state : FlowExecutionState) : CapabilityScope :=
  match state.openStep with
  | some step => ⟨step, (state.attempts.lookup step).getD 0⟩
  | none =>
    if state.finished then ⟨s!"$flow.{state.status.name}", 0⟩
    else
      match state.nodeId.filter (· ≠ "") with
      | some nodeId => ⟨s!"$flow.{nodeId}", 0⟩
      | none => ⟨"$flow.routing", 0⟩

def createFlowExecutionState (now : Instant) : FlowExecutionState where
  status := .routing
  nodeId := none
  currentStep := none
  completedSteps := []
  stepEntries := some 0
  attempts := []
  outputs := []
  checkpoints := []
  capabilityEpoch := 0
  actionReceipts := []
  revision := 0
  updatedAt := now

/-- A patched state gets the next revision and a new timestamp. -/
def updateState (patched : FlowExecutionState) (now : Instant) : FlowExecutionState :=
  { patched with revision := patched.revision + 1, updatedAt := now }

/-- A change of the capability set also opens the next capability epoch. -/
def updateCapabilities (patched : FlowExecutionState) (now : Instant) : FlowExecutionState :=
  updateState { patched with capabilityEpoch := patched.capabilityEpoch + 1 } now

end CallCenter.FlowState
