import CallCenter.MissionSchema
import CallCenter.IsoInstants
import CallCenter.HashChains

/-!
# Mission states and their event ledger

The materialised state of a mission, its JSON, and the ledger of events that commits to
it: every event carries the hash of the state it produced and the hash of the event
before it. `appendEvent` is the only way in which a state advances;
`assertStateIntegrity` is the check that every operation makes first.
-/

namespace CallCenter.MissionLedger

open JsonValues FlowState MissionSchema IsoInstants HashChains

inductive GoalStatus where
  | queued
  | active
  | suspended
  | completed
  | abandoned
deriving DecidableEq

def GoalStatus.name : GoalStatus → String
  | .queued => "queued"
  | .active => "active"
  | .suspended => "suspended"
  | .completed => "completed"
  | .abandoned => "abandoned"

structure GoalState where
  status : GoalStatus
  activationCount : Nat

structure MissionFact where
  factId : String
  revision : Nat
  value : Value
  authority : FactAuthority
  evidenceId : String
  recordedAt : String
  supersedesRevision : Option Nat

/-- `opened` is the status `open`. -/
inductive ObligationStatus where
  | opened
  | satisfied
  | waived
deriving DecidableEq

def ObligationStatus.name : ObligationStatus → String
  | .opened => "open"
  | .satisfied => "satisfied"
  | .waived => "waived"

structure MissionObligation where
  obligationId : String
  obligationType : String
  description : String
  owner : ObligationOwner
  blocks : ObligationBlock
  scopeGoalId : Option String
  sourceReceiptId : Option String
  compensationAction : Option String
  status : ObligationStatus
  openedRevision : Nat
  settledRevision : Option Nat
  evidenceId : Option String

inductive ProposalStatus where
  | proposed
  | authorized
  | settled
  | revoked
  | indeterminate
deriving DecidableEq

def ProposalStatus.name : ProposalStatus → String
  | .proposed => "proposed"
  | .authorized => "authorized"
  | .settled => "settled"
  | .revoked => "revoked"
  | .indeterminate => "indeterminate"

structure MissionProposal where
  proposalId : String
  proposalDigest : String
  goalId : String
  action : String
  arguments : List (String × Value)
  argumentsHash : String
  idempotencyKey : String
  risk : ActionRisk
  status : ProposalStatus
  proposedRevision : Nat
  authorizedRevision : Option Nat
  authorizedEpoch : Option Nat
  confirmationEvidenceId : Option String
  compensationObligationId : Option String
  receiptId : Option String

inductive MissionReceiptStatus where
  | succeeded
  | failed
  | indeterminate
  | compensated
deriving DecidableEq

def MissionReceiptStatus.name : MissionReceiptStatus → String
  | .succeeded => "succeeded"
  | .failed => "failed"
  | .indeterminate => "indeterminate"
  | .compensated => "compensated"

/-- A receipt. A missing result is `null`. -/
structure MissionReceipt where
  receiptId : String
  proposalId : String
  goalId : String
  action : String
  argumentsHash : String
  idempotencyKey : String
  status : MissionReceiptStatus
  result : Value
  resultHash : Option String
  settledRevision : Nat

structure MissionEvent where
  sequence : Nat
  revision : Nat
  eventType : String
  recordedAt : String
  payload : Value
  stateHeadHash : String
  previousEventHash : Option String
  eventHash : String

inductive MissionStatus where
  | active
  | completed
  | failed
deriving DecidableEq

def MissionStatus.name : MissionStatus → String
  | .active => "active"
  | .completed => "completed"
  | .failed => "failed"

structure MissionState where
  missionId : String
  missionVersion : String
  definitionHash : String
  status : MissionStatus
  revision : Nat
  capabilityEpoch : Nat
  goals : List (String × GoalState)
  focusStack : List String
  facts : List (String × MissionFact)
  obligations : List MissionObligation
  proposals : List MissionProposal
  receipts : List MissionReceipt
  events : List MissionEvent

/-! ## JSON -/

def nullableCount (count : Option Nat) : Value := (count.map Value.ofNat).getD .null

def GoalState.toValue (goal : GoalState) : Value :=
  .object [("status", .string goal.status.name), ("activation_count", .ofNat goal.activationCount)]

def MissionFact.toValue (fact : MissionFact) : Value :=
  .object [("fact_id", .string fact.factId), ("revision", .ofNat fact.revision),
    ("value", fact.value), ("authority", .string fact.authority.name),
    ("evidence_id", .string fact.evidenceId), ("recorded_at", .string fact.recordedAt),
    ("supersedes_revision", nullableCount fact.supersedesRevision)]

def MissionObligation.toValue (obligation : MissionObligation) : Value :=
  .object [("obligation_id", .string obligation.obligationId),
    ("type", .string obligation.obligationType), ("description", .string obligation.description),
    ("owner", .string obligation.owner.name), ("blocks", .string obligation.blocks.name),
    ("scope_goal_id", nullableText obligation.scopeGoalId),
    ("source_receipt_id", nullableText obligation.sourceReceiptId),
    ("compensation_action", nullableText obligation.compensationAction),
    ("status", .string obligation.status.name),
    ("opened_revision", .ofNat obligation.openedRevision),
    ("settled_revision", nullableCount obligation.settledRevision),
    ("evidence_id", nullableText obligation.evidenceId)]

def MissionProposal.toValue (proposal : MissionProposal) : Value :=
  .object [("proposal_id", .string proposal.proposalId),
    ("proposal_digest", .string proposal.proposalDigest), ("goal_id", .string proposal.goalId),
    ("action", .string proposal.action), ("arguments", .object proposal.arguments),
    ("arguments_hash", .string proposal.argumentsHash),
    ("idempotency_key", .string proposal.idempotencyKey), ("risk", .string proposal.risk.name),
    ("status", .string proposal.status.name),
    ("proposed_revision", .ofNat proposal.proposedRevision),
    ("authorized_revision", nullableCount proposal.authorizedRevision),
    ("authorized_epoch", nullableCount proposal.authorizedEpoch),
    ("confirmation_evidence_id", nullableText proposal.confirmationEvidenceId),
    ("compensation_obligation_id", nullableText proposal.compensationObligationId),
    ("receipt_id", nullableText proposal.receiptId)]

def MissionReceipt.toValue (receipt : MissionReceipt) : Value :=
  .object [("receipt_id", .string receipt.receiptId), ("proposal_id", .string receipt.proposalId),
    ("goal_id", .string receipt.goalId), ("action", .string receipt.action),
    ("arguments_hash", .string receipt.argumentsHash),
    ("idempotency_key", .string receipt.idempotencyKey), ("status", .string receipt.status.name),
    ("result", receipt.result), ("result_hash", nullableText receipt.resultHash),
    ("settled_revision", .ofNat receipt.settledRevision)]

/-- The part of an event that its hash covers. -/
def MissionEvent.body (event : MissionEvent) : Value :=
  .object [("sequence", .ofNat event.sequence), ("revision", .ofNat event.revision),
    ("type", .string event.eventType), ("at", .string event.recordedAt),
    ("payload", event.payload), ("state_head_hash", .string event.stateHeadHash),
    ("previous_event_hash", nullableText event.previousEventHash)]

/-- The state without its events. -/
def MissionState.head (state : MissionState) : Value :=
  .object [("schema_version", .ofNat 1), ("mission_id", .string state.missionId),
    ("mission_version", .string state.missionVersion),
    ("definition_hash", .string state.definitionHash), ("status", .string state.status.name),
    ("revision", .ofNat state.revision), ("capability_epoch", .ofNat state.capabilityEpoch),
    ("goals", .object (state.goals.map fun entry => (entry.1, entry.2.toValue))),
    ("focus_stack", textArray state.focusStack),
    ("facts", .object (state.facts.map fun entry => (entry.1, entry.2.toValue))),
    ("obligations", .array (state.obligations.map MissionObligation.toValue)),
    ("proposals", .array (state.proposals.map MissionProposal.toValue)),
    ("receipts", .array (state.receipts.map MissionReceipt.toValue))]

/-! ## Hashes -/

def EVENT_DOMAIN : String := "harshas-amazing-call-center/mission-event/v1\n"

def PROPOSAL_DOMAIN : String := "harshas-amazing-call-center/mission-proposal/v1\n"

def definitionHash (sha256 : String → String) (definition : MissionDefinition) : String :=
  sha256 ("harshas-amazing-call-center/mission-definition/v1\n" ++ definition.toValue.text)

def stateHeadHash (sha256 : String → String) (state : MissionState) : String :=
  sha256 ("harshas-amazing-call-center/mission-state-head/v1\n" ++ state.head.text)

def eventHashOf (sha256 : String → String) (event : MissionEvent) : String :=
  sha256 (EVENT_DOMAIN ++ event.body.text)

/-! ## The ledger -/

/-- The goal at the top of the stack; the last entry is the top. -/
def currentGoalId (state : MissionState) : Option String := state.focusStack.getLast?

def goalStatus (state : MissionState) (goalId : String) : Option GoalStatus :=
  (state.goals.lookup goalId).map GoalState.status

/-- The event that records the step to a new state. -/
def nextEvent (sha256 : String → String) (state next : MissionState) (eventType : String)
    (payload : Value) (recordedAt : String) : MissionEvent :=
  let body : MissionEvent :=
    { sequence := state.events.length + 1
      revision := next.revision
      eventType
      recordedAt
      payload
      stateHeadHash := stateHeadHash sha256 next
      previousEventHash := state.events.getLast?.map MissionEvent.eventHash
      eventHash := "" }
  { body with eventHash := eventHashOf sha256 body }

/-- Advance to the patched state, with a new revision and, if authority changes, a new
capability epoch. Time must be canonical and may not move backwards. -/
def appendEvent (sha256 : String → String) (state patched : MissionState) (eventType : String)
    (payload : Value) (recordedAt : String) (rotateCapabilities : Bool) :
    Except String MissionState :=
  match canonicalMillis recordedAt with
  | none => .error "mission event time must be a canonical ISO-8601 instant"
  | some timestamp =>
    if (state.events.getLast?.bind fun event => canonicalMillis event.recordedAt).any
        (fun last => decide (timestamp < last)) then
      .error "mission event time cannot move backwards"
    else
      let next : MissionState :=
        { patched with
          revision := state.revision + 1
          capabilityEpoch :=
            if rotateCapabilities then state.capabilityEpoch + 1 else state.capabilityEpoch }
      .ok { next with
        events := state.events ++ [nextEvent sha256 state next eventType payload recordedAt] }

/-- One event of the ledger follows its predecessor and has its own hash. -/
def eventIntact (sha256 : String → String) (index : Nat) (previous : Option String)
    (event : MissionEvent) : Bool :=
  decide (event.sequence = index + 1) && decide (event.revision = index + 1)
    && decide (event.previousEventHash = previous)
    && decide (event.eventHash = eventHashOf sha256 event)

/-- The status of an entry agrees with its place on the stack. -/
def focusAgrees (state : MissionState) (goalId : String) : Bool :=
  if some goalId = currentGoalId state then decide (goalStatus state goalId = some .active)
  else decide (goalStatus state goalId = some .suspended)

/-- The check that every operation makes first. -/
def assertStateIntegrity (sha256 : String → String) (state : MissionState) : Except String Unit :=
  if isHexDigest state.definitionHash = false then
    .error "mission state definition hash is invalid"
  else
    match firstBroken (eventIntact sha256) MissionEvent.eventHash 0 none state.events with
    | some index => .error s!"mission event {index + 1} failed hash-chain verification"
    | none =>
      if state.revision ≠ state.events.length then
        .error "mission revision differs from its event ledger"
      else if state.events.getLast?.map MissionEvent.stateHeadHash ≠
          some (stateHeadHash sha256 state) then
        .error "mission materialized state differs from the final event state head"
      else if state.focusStack.all (focusAgrees state) = false then
        .error "mission focus stack and goal statuses disagree"
      else .ok ()

end CallCenter.MissionLedger
