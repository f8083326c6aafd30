import CallCenter.Interactions
import CallCenter.PolicyKernel

/-!
# The governed effect coordinator

`execute` reads the authority, decides, reserves an idempotency key, crosses the dispatch
boundary and dispatches; then it settles the receipt, or has the store keep the effect
indeterminate and create a job that reads it back. Store, adapters and clock are the
surroundings: each of their answers is arbitrary and each of them may throw.

A recovery that a guarded block returns is not awaited inside the block, so the block does
not catch what the recovery throws. The blocks below therefore return the program that
continues. Freezing and cloning leave values as they are, except that the arguments are
parsed back from their canonical text.
-/

namespace CallCenter.EffectCoordinator

open JsonValues Guards Interactions PolicySchema PolicyKernel
open FlowState (isHexDigest)
open IsoInstants (canonicalMillis MAX_TIME_MS)

/-! ## Records -/

structure AuthorityBinding where
  stateHeadSha256 : String
  stateRevision : JsNumber
  capabilityEpoch : JsNumber

structure GovernedEffectScope where
  subjectId : String

structure GovernedEffectAuthority extends AuthorityBinding where
  policy : Value
  facts : List PolicyFact
  receipts : List PolicyReceipt
  priorCallCount : JsNumber

structure GovernedEffectProposal where
  scope : GovernedEffectScope
  action : String
  arguments : List (String × Value)
  idempotencyKey : String
  expectedAuthority : AuthorityBinding
  confirmation : Option ConfirmationEvidence

structure GovernedEffectLease extends AuthorityBinding where
  leaseId : String
  action : String
  effect : EffectKind
  argumentsSha256 : String
  proposalDigest : String
  policyDigest : String
  decisionDigest : String
  expiresAt : String

inductive GovernedEffectReceiptStatus where
  | reserved
  | dispatching
  | succeeded
  | failed
  | indeterminate
deriving DecidableEq

structure GovernedEffectReceipt extends AuthorityBinding where
  receiptId : String
  scopeId : String
  invocationId : String
  idempotencyKey : String
  action : String
  effect : EffectKind
  argumentsSha256 : String
  proposalDigest : String
  policyDigest : String
  status : GovernedEffectReceiptStatus
  dispatchAttempts : JsNumber
  dispatchStartedAt : Option String
  resultSha256 : Option String
  errorCode : Option String
  providerVisibleResult : Option (List (String × Value))

structure ReserveAllowedInput where
  proposal : GovernedEffectProposal
  decision : PreDispatchDecision
  leaseExpiresAt : String
  now : String

/-- The last case is a disposition that the store's type does not have. -/
inductive ReserveAllowedResult where
  | reserved (receipt : GovernedEffectReceipt) (lease : GovernedEffectLease) (dispatchOwner : Bool)
  | terminalReplay (receipt : GovernedEffectReceipt)
  | inFlightReplay (receipt : GovernedEffectReceipt)
  | idempotencyConflict (existingArgumentsSha256 : String)
  | staleAuthority (current : AuthorityBinding)
  | repairRequired (repairToken : String)
  | unknown

structure RepairInput where
  scope : GovernedEffectScope
  idempotencyKey : String
  repairToken : String
  now : String

structure BoundaryInput where
  receiptId : String
  lease : GovernedEffectLease
  expectedAuthority : AuthorityBinding
  now : String

inductive DispatchBoundaryResult where
  | started (receipt : GovernedEffectReceipt)
  | staleAuthority (current : AuthorityBinding)
  | leaseExpired (receipt : GovernedEffectReceipt)
  | notOwner (receipt : GovernedEffectReceipt)
  | alreadyCrossed (receipt : GovernedEffectReceipt)

structure DispatchInput where
  receiptId : String
  invocationId : String
  idempotencyKey : String
  arguments : List (String × Value)

inductive EffectDispatchOutcome where
  | completed (result : List (String × Value))
  | authoritativelyAbsent (proofSha256 : String) (errorCode : Option String)
  | indeterminate (errorCode : Option String)

inductive SettlementStatus where
  | succeeded
  | failed
  | indeterminate
deriving DecidableEq

structure SettleInput where
  receiptId : String
  status : SettlementStatus
  resultSha256 : Option String
  proofSha256 : Option String
  providerVisibleResult : Option (List (String × Value))
  errorCode : Option String
  now : String

structure ReconciliationInput where
  receiptId : String
  scope : GovernedEffectScope
  invocationId : String
  idempotencyKey : String
  action : String
  arguments : List (String × Value)
  argumentsSha256 : String
  policy : Value
  preDispatchDecision : PreDispatchDecision
  resultSha256 : Option String
  errorCode : String
  maxClaimAttempts : Nat
  now : String

/-- A job is handed on as the store gives it. -/
structure ReconciliationJob where
  jobId : String

inductive IndeterminateRecoveryResult where
  | indeterminate (receipt : GovernedEffectReceipt) (job : ReconciliationJob)
  | terminal (receipt : GovernedEffectReceipt)

inductive GovernedEffectExecutionResult where
  | denied (decision : PreDispatchDecision)
  | confirmationRequired (decision : PreDispatchDecision)
  | staleAuthority (current : AuthorityBinding) (receipt : Option GovernedEffectReceipt)
  | idempotencyConflict (existingArgumentsSha256 : String)
  | preDispatchFailed (reason : String)
  | inFlight (receipt : GovernedEffectReceipt)
  | succeeded (receipt : GovernedEffectReceipt) (providerVisibleResult : List (String × Value))
  | failed (receipt : GovernedEffectReceipt)
  | indeterminate (receipt : GovernedEffectReceipt) (job : ReconciliationJob)

/-! ## Surroundings -/

inductive EffectAsk where
  | now
  | readAuthority (scope : GovernedEffectScope)
  | reserveAllowed (input : ReserveAllowedInput)
  | repairBeforeDispatch (input : RepairInput)
  | crossDispatchBoundary (input : BoundaryInput)
  | dispatch (input : DispatchInput)
  | settle (input : SettleInput)
  | ensureIndeterminateReconciliation (input : ReconciliationInput)

@[reducible] def EffectAnswer : EffectAsk → Type
  | .now => String
  | .readAuthority _ => GovernedEffectAuthority
  | .reserveAllowed _ => ReserveAllowedResult
  | .repairBeforeDispatch _ => Bool
  | .crossDispatchBoundary _ => DispatchBoundaryResult
  | .dispatch _ => EffectDispatchOutcome
  | .settle _ => GovernedEffectReceipt
  | .ensureIndeterminateReconciliation _ => IndeterminateRecoveryResult

abbrev EffectProgram (α : Type) := Program EffectAsk EffectAnswer String α

abbrev EffectExchange := Exchange EffectAsk EffectAnswer String

def readNow : EffectProgram String := Program.ask EffectAsk.now

/-! ## Times -/

/-- Year, month and day of a day counted from the epoch. -/
def civilOfDays (days : Int) : Int × Nat × Nat :=
  let shifted := days + 719468
  let era := shifted / 146097
  let dayOfEra := (shifted % 146097).toNat
  let yearOfEra := (dayOfEra - dayOfEra / 1460 + dayOfEra / 36524 - dayOfEra / 146096) / 365
  let dayOfYear := dayOfEra - (365 * yearOfEra + yearOfEra / 4 - yearOfEra / 100)
  let month := (5 * dayOfYear + 2) / 153
  let day := dayOfYear - (153 * month + 2) / 5 + 1
  let civilMonth := if month < 10 then month + 3 else month - 9
  (yearOfEra + era * 400 + (if civilMonth ≤ 2 then 1 else 0), civilMonth, day)

def padded (width number : Nat) : String :=
  let digits := Nat.toDigits 10 number
  String.ofList (List.replicate (width - digits.length) '0' ++ digits)

def yearText (year : Int) : String :=
  if 0 ≤ year ∧ year ≤ 9999 then padded 4 year.toNat
  else (if year < 0 then "-" else "+") ++ padded 6 year.natAbs

/-- `toISOString`. -/
def isoInstant (millis : Int) : Except String String :=
  if millis.natAbs ≤ MAX_TIME_MS then
    let (year, month, day) := civilOfDays (millis / 86400000)
    let clock := (millis % 86400000).toNat
    .ok (yearText year ++ "-" ++ padded 2 month ++ "-" ++ padded 2 day ++ "T"
      ++ padded 2 (clock / 3600000) ++ ":" ++ padded 2 (clock / 60000 % 60) ++ ":"
      ++ padded 2 (clock / 1000 % 60) ++ "." ++ padded 3 (clock % 1000) ++ "Z")
  else .error "Invalid time value"

example : isoInstant 1785686399999 = .ok "2026-08-02T15:59:59.999Z"
    ∧ isoInstant (-62198755200001) = .ok "-000002-12-31T23:59:59.999Z" := by decide

def assertCanonicalTime (value label : String) : Except String Int :=
  match canonicalMillis value with
  | some millis => .ok millis
  | none => .error (label ++ " must be canonical ISO-8601")

/-! ## Bindings -/

def sameAuthority (left right : AuthorityBinding) : Bool :=
  left.stateHeadSha256 == right.stateHeadSha256 && sameNumber left.stateRevision right.stateRevision
    && sameNumber left.capabilityEpoch right.capabilityEpoch

/-- The receipt is the one of this proposal and this decision. -/
def receiptMatches (receipt : GovernedEffectReceipt) (proposal : GovernedEffectProposal)
    (decision : PreDispatchDecision) : Bool :=
  receipt.scopeId == proposal.scope.subjectId && receipt.idempotencyKey == proposal.idempotencyKey
    && receipt.action == proposal.action
    && some receipt.effect == decision.effect
    && receipt.argumentsSha256 == decision.argumentsSha256
    && receipt.proposalDigest == decision.proposalDigest
    && receipt.policyDigest == decision.policyDigest
    && receipt.stateHeadSha256 == decision.stateHeadSha256
    && sameNumber receipt.stateRevision decision.stateRevision
    && sameNumber receipt.capabilityEpoch decision.capabilityEpoch

def receiptWellFormed (receipt : GovernedEffectReceipt) : Bool :=
  receipt.receiptId != "" && receipt.invocationId != ""
    && (safeNatural receipt.dispatchAttempts).any fun attempts => decide (attempts ≤ 1)

def dispatchEvidenceConsistent (receipt : GovernedEffectReceipt) : Bool :=
  (safeNatural receipt.dispatchAttempts == some 0) == receipt.dispatchStartedAt.isNone

def assertReceiptBoundToDecision (receipt : GovernedEffectReceipt)
    (proposal : GovernedEffectProposal) (decision : PreDispatchDecision) : Except String Unit := do
  require (receiptMatches receipt proposal decision)
    "governed effect store returned a receipt with mismatched authority or semantics"
  require (receiptWellFormed receipt) "governed effect store returned an invalid receipt"
  require (dispatchEvidenceConsistent receipt)
    "governed effect receipt dispatch evidence is inconsistent"

def MAX_LEASE_TTL_MS : Nat := 60000

def leaseMatches (lease : GovernedEffectLease) (decision : PreDispatchDecision)
    (expiresAtMs nowMs : Int) : Bool :=
  lease.leaseId != "" && lease.action == decision.action && some lease.effect == decision.effect
    && lease.argumentsSha256 == decision.argumentsSha256
    && lease.proposalDigest == decision.proposalDigest
    && lease.policyDigest == decision.policyDigest
    && lease.decisionDigest == decision.decisionDigest
    && lease.stateHeadSha256 == decision.stateHeadSha256
    && sameNumber lease.stateRevision decision.stateRevision
    && sameNumber lease.capabilityEpoch decision.capabilityEpoch
    && decide (nowMs < expiresAtMs ∧ expiresAtMs - nowMs ≤ MAX_LEASE_TTL_MS)

def assertLeaseBoundToDecision (lease : GovernedEffectLease) (decision : PreDispatchDecision)
    (nowMs : Int) : Except String Unit := do
  let expiresAtMs ← assertCanonicalTime lease.expiresAt "effect lease expiry"
  require (leaseMatches lease decision expiresAtMs nowMs)
    "governed effect store returned an invalid or mismatched lease"

def replayResult (receipt : GovernedEffectReceipt) : GovernedEffectExecutionResult :=
  match receipt.status with
  | .succeeded => .succeeded receipt (receipt.providerVisibleResult.getD [])
  | .failed => .failed receipt
  | _ => .inFlight receipt

/-! ## Coordinator -/

/-- The adapters by their action, and the limits of a coordinator. -/
structure GovernedEffectCoordinator where
  adapters : List String
  leaseTtlMs : Nat
  maxReconciliationClaims : Nat

def MAX_IDEMPOTENCY_KEY_BYTES : Nat := 512

/-- The proposal with arguments that are parsed back from their canonical text. -/
def detach (input : GovernedEffectProposal) : Option GovernedEffectProposal :=
  if (Value.object input.arguments).isJson then
    some { input with arguments := sortFields (normalFields input.arguments) }
  else none

def validIdentity (input : GovernedEffectProposal) : Bool :=
  input.scope.subjectId != "" && input.idempotencyKey != ""
    && decide (input.idempotencyKey.utf8ByteSize ≤ MAX_IDEMPOTENCY_KEY_BYTES)

def preDispatchInput (proposal : GovernedEffectProposal) (authority : GovernedEffectAuthority)
    (now : String) : PreDispatchInput where
  policy := authority.policy
  action := proposal.action
  arguments := proposal.arguments
  stateHeadSha256 := authority.stateHeadSha256
  stateRevision := authority.stateRevision
  capabilityEpoch := authority.capabilityEpoch
  facts := authority.facts
  receipts := authority.receipts
  priorCallCount := authority.priorCallCount
  confirmation := proposal.confirmation
  now

def postDispatchInput (latest : GovernedEffectAuthority) (decision : PreDispatchDecision)
    (result : List (String × Value)) : PostDispatchInput where
  policy := latest.policy
  preDispatch := decision
  currentStateHeadSha256 := latest.stateHeadSha256
  currentStateRevision := latest.stateRevision
  currentCapabilityEpoch := latest.capabilityEpoch
  result

/-- What the rest of an execution knows once its action is allowed. -/
structure Execution where
  proposal : GovernedEffectProposal
  authority : GovernedEffectAuthority
  decision : PreDispatchDecision
  now : String
  nowMs : Int

def settle (input : SettleInput) : EffectProgram GovernedEffectReceipt :=
  Program.ask (EffectAsk.settle input)

/-- A failed settlement. -/
def failedSettlement (receipt : GovernedEffectReceipt) (resultSha256 proofSha256 : Option String)
    (errorCode now : String) : SettleInput where
  receiptId := receipt.receiptId
  status := .failed
  resultSha256
  proofSha256
  providerVisibleResult := none
  errorCode := some errorCode
  now

def settleReadFailure (receipt : GovernedEffectReceipt) (errorCode : String) :
    EffectProgram GovernedEffectExecutionResult := do
  let now ← readNow
  let settled ← settle (failedSettlement receipt none none errorCode now)
  return .failed settled

def settleIndeterminate (coordinator : GovernedEffectCoordinator) (execution : Execution)
    (receipt : GovernedEffectReceipt) (errorCode : String) (resultSha256 : Option String) :
    EffectProgram GovernedEffectExecutionResult := do
  let now ← readNow
  let recovery : IndeterminateRecoveryResult ←
    Program.ask (EffectAsk.ensureIndeterminateReconciliation
      { receiptId := receipt.receiptId, scope := execution.proposal.scope
        invocationId := receipt.invocationId, idempotencyKey := execution.proposal.idempotencyKey
        action := execution.proposal.action, arguments := execution.proposal.arguments
        argumentsSha256 := receipt.argumentsSha256, policy := execution.authority.policy
        preDispatchDecision := execution.decision, resultSha256, errorCode
        maxClaimAttempts := coordinator.maxReconciliationClaims, now })
  match recovery with
  | .terminal receipt => return replayResult receipt
  | .indeterminate receipt job => return .indeterminate receipt job

/-- A read that went wrong has failed; any other effect is indeterminate. -/
def settleUnproven (coordinator : GovernedEffectCoordinator) (execution : Execution)
    (receipt : GovernedEffectReceipt) (errorCode : String) :
    EffectProgram GovernedEffectExecutionResult :=
  if execution.decision.effect = some .read then settleReadFailure receipt errorCode
  else settleIndeterminate coordinator execution receipt errorCode none

/-- The guarded block after a dispatch that returned. -/
def settleOutcome (hash : String → String) (coordinator : GovernedEffectCoordinator)
    (execution : Execution) (receipt : GovernedEffectReceipt) (outcome : EffectDispatchOutcome) :
    EffectProgram (EffectProgram GovernedEffectExecutionResult) :=
  match outcome with
  | .authoritativelyAbsent proofSha256 errorCode =>
    if isHexDigest proofSha256 then do
      let now ← readNow
      let settled ← settle (failedSettlement receipt none (some proofSha256)
        (errorCode.getD "authoritatively_absent") now)
      return pure (.failed settled)
    else return settleUnproven coordinator execution receipt "invalid_absence_proof"
  | .indeterminate errorCode =>
    return settleUnproven coordinator execution receipt (errorCode.getD "dispatch_indeterminate")
  | .completed result => do
      let settledAt ← readNow
      let latest : GovernedEffectAuthority ←
        Program.ask (EffectAsk.readAuthority execution.proposal.scope)
      let post ← Program.lift
        (evaluatePostDispatch hash (postDispatchInput latest execution.decision result))
      if post.decision = .accept then
        let visible := post.providerResult.getD []
        let settled ← settle
          { receiptId := receipt.receiptId, status := .succeeded
            resultSha256 := some post.rawResultSha256, proofSha256 := none
            providerVisibleResult := some visible, errorCode := none, now := settledAt }
        return pure (.succeeded settled visible)
      else if execution.decision.effect = some .read then
        let settled ← settle
          (failedSettlement receipt (some post.rawResultSha256) none post.reason settledAt)
        return pure (.failed settled)
      else
        return settleIndeterminate coordinator execution receipt post.reason
          (some post.rawResultSha256)

/-- The dispatch and what follows it. -/
def dispatchEffect (hash : String → String) (coordinator : GovernedEffectCoordinator)
    (execution : Execution) (receipt : GovernedEffectReceipt) :
    EffectProgram GovernedEffectExecutionResult := do
  let outcome : Except String EffectDispatchOutcome ← (Program.ask (EffectAsk.dispatch
    { receiptId := receipt.receiptId, invocationId := receipt.invocationId
      idempotencyKey := execution.proposal.idempotencyKey
      arguments := execution.proposal.arguments })).attempt
  match outcome with
  | .error _ => settleUnproven coordinator execution receipt "dispatch_exception"
  | .ok outcome =>
    match ← (settleOutcome hash coordinator execution receipt outcome).attempt with
    | .ok continuation => continuation
    | .error _ => settleUnproven coordinator execution receipt "post_dispatch_exception"

/-- The receipt of a dispatch that may start, or the result without one. -/
def crossBoundary (execution : Execution) (receipt : GovernedEffectReceipt)
    (lease : GovernedEffectLease) :
    EffectProgram (Except GovernedEffectExecutionResult GovernedEffectReceipt) := do
  let boundaryTime ← readNow
  let _ ← Program.lift (assertCanonicalTime boundaryTime "dispatch boundary time")
  let boundary : DispatchBoundaryResult ← Program.ask (EffectAsk.crossDispatchBoundary
    { receiptId := receipt.receiptId, lease
      expectedAuthority := execution.authority.toAuthorityBinding, now := boundaryTime })
  match boundary with
  | .staleAuthority current => do
      let settled ← settle
        (failedSettlement receipt none none "authority_stale_before_dispatch" boundaryTime)
      return .error (.staleAuthority current (some settled))
  | .leaseExpired _ => do
      let settled ← settle
        (failedSettlement receipt none none "lease_expired_before_dispatch" boundaryTime)
      return .error (.failed settled)
  | .notOwner crossed => return .error (.inFlight crossed)
  | .alreadyCrossed crossed => return .error (.inFlight crossed)
  | .started started => do
      Program.lift (assertReceiptBoundToDecision started execution.proposal execution.decision)
      Program.lift (require (safeNatural started.dispatchAttempts == some 1
          && started.dispatchStartedAt.any (· != ""))
        "dispatch boundary did not persist exactly one dispatch attempt")
      return .ok started

/-- The reservation, after at most one repair. -/
def reserve (coordinator : GovernedEffectCoordinator) (execution : Execution) :
    EffectProgram (Except GovernedEffectExecutionResult ReserveAllowedResult) := do
  let leaseExpiresAt ← Program.lift (isoInstant (execution.nowMs + coordinator.leaseTtlMs))
  let request : ReserveAllowedInput :=
    { proposal := execution.proposal, decision := execution.decision, leaseExpiresAt
      now := execution.now }
  let reservation : ReserveAllowedResult ← Program.ask (EffectAsk.reserveAllowed request)
  match reservation with
  | .repairRequired repairToken => do
      let repaired : Bool ← Program.ask (EffectAsk.repairBeforeDispatch
        { scope := execution.proposal.scope, idempotencyKey := execution.proposal.idempotencyKey
          repairToken, now := execution.now })
      if repaired then
        let again : ReserveAllowedResult ← Program.ask (EffectAsk.reserveAllowed request)
        match again with
        | .repairRequired _ => return .error (.preDispatchFailed "pre_dispatch_repair_exhausted")
        | other => return .ok other
      else return .error (.preDispatchFailed "pre_dispatch_repair_failed")
  | other => return .ok other

/-- What a reservation leads to. -/
def followReservation (hash : String → String) (coordinator : GovernedEffectCoordinator)
    (execution : Execution) (reservation : ReserveAllowedResult) :
    EffectProgram GovernedEffectExecutionResult :=
  match reservation with
  | .staleAuthority current => return .staleAuthority current none
  | .idempotencyConflict existing => return .idempotencyConflict existing
  | .terminalReplay receipt => do
      Program.lift (assertReceiptBoundToDecision receipt execution.proposal execution.decision)
      return replayResult receipt
  | .inFlightReplay receipt => do
      Program.lift (assertReceiptBoundToDecision receipt execution.proposal execution.decision)
      if receipt.status = .indeterminate then
        settleIndeterminate coordinator execution receipt
          (receipt.errorCode.getD "dispatch_indeterminate") receipt.resultSha256
      else return replayResult receipt
  | .repairRequired _ | .unknown =>
    Program.throws "governed effect store returned an unknown reservation disposition"
  | .reserved receipt lease dispatchOwner => do
      Program.lift (assertReceiptBoundToDecision receipt execution.proposal execution.decision)
      Program.lift (assertLeaseBoundToDecision lease execution.decision execution.nowMs)
      if dispatchOwner then
        match ← crossBoundary execution receipt lease with
        | .error result => return result
        | .ok started => dispatchEffect hash coordinator execution started
      else return .inFlight receipt

/-- The execution of a proposal that is decided, or the result without one. -/
def decideProposal (hash : String → String) (proposal : GovernedEffectProposal) :
    EffectProgram (Except GovernedEffectExecutionResult Execution) := do
  let now ← readNow
  let nowMs ← Program.lift (assertCanonicalTime now "coordinator time")
  let authority : GovernedEffectAuthority ← Program.ask (EffectAsk.readAuthority proposal.scope)
  if sameAuthority authority.toAuthorityBinding proposal.expectedAuthority then
    let decision ← Program.lift (evaluatePreDispatch hash (preDispatchInput proposal authority now))
    match decision.decision with
    | .allow => return .ok { proposal, authority, decision, now, nowMs }
    | .requireConfirmation => return .error (.confirmationRequired decision)
    | .deny => return .error (.denied decision)
  else return .error (.staleAuthority authority.toAuthorityBinding none)

def execute (hash : String → String) (coordinator : GovernedEffectCoordinator)
    (input : GovernedEffectProposal) : EffectProgram GovernedEffectExecutionResult := do
  if !validIdentity input then return .preDispatchFailed "invalid_execution_identity"
  else match detach input with
    | none => return .preDispatchFailed "invalid_arguments"
    | some proposal =>
      match ← decideProposal hash proposal with
      | .error result => return result
      | .ok execution =>
        if coordinator.adapters.contains proposal.action then
          match ← reserve coordinator execution with
          | .error result => return result
          | .ok reservation => followReservation hash coordinator execution reservation
        else return .preDispatchFailed "adapter_not_registered"

end CallCenter.EffectCoordinator
