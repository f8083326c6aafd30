import CallCenter.ConversationEvents
import CallCenter.MissionRuntime

/-!
# Events of a conversation program

A conversation program is an event log over facts, goals, flow checkpoints, obligations,
capability epochs, action reservations, workers and audible responses. The module has the
nineteen payloads, what their schemas check and normalise, their JSON, and the digest that
chains an event to its predecessor.

Parsing trims free texts and fills in one default; everything else passes unchanged.
`canonicalProgramJson` is only ever applied to JSON, and there it is `Value.text`.
-/

namespace CallCenter.ProgramEvents

open JsonValues Timestamps FlowState MissionSchema MissionRuntime
open ConversationEvents (utf8Bytes haveUniqueKeys)

def CONVERSATION_PROGRAM_VERSION : Nat := 1

def CONVERSATION_PROGRAM_GENESIS_SHA256 : String :=
  "0000000000000000000000000000000000000000000000000000000000000000"

def MAX_SAFE_INTEGER : Nat := 9007199254740991

/-! ## Field formats -/

def IdSchema : String → Bool :=
  matchesShape (fun c => isUpper c || isLower c || c.isDigit)
    (fun c => isUpper c || isLower c || c.isDigit || ['.', '_', ':', '/', '-'].contains c) 0 127

/-- The text without blanks at its ends. -/
def trim (text : String) : String :=
  String.ofList (((text.toList.dropWhile isTrimmed).reverse.dropWhile isTrimmed).reverse)

/-- The check of a text that has been trimmed. -/
def TextSchema (text : String) : Bool := lengthWithin 1 4096 text

def Sha256Schema (text : String) : Bool := isHexDigest text

def RevisionSchema (count : Nat) : Bool := decide (count ≤ MAX_SAFE_INTEGER)

def PositiveRevisionSchema (count : Nat) : Bool := decide (0 < count) && RevisionSchema count

/-- Offset of a time zone: a sign, hours and minutes. -/
def isZoneOffset : List Char → Bool
  | [sign, h₁, h₂, ':', n₁, n₂] =>
    (sign = '+' || sign = '-') && [h₁, h₂, n₁, n₂].all Char.isDigit
      && decide (digitsValue [h₁, h₂] ≤ 23) && decide (digitsValue [n₁, n₂] ≤ 59)
  | _ => false

/-- A UTC datetime, or one whose zone letter is replaced by an offset. -/
def TimestampSchema (text : String) : Bool :=
  let zoneless := text.toList.take (text.toList.length - 6)
  isIsoDatetime text
    || isZoneOffset (text.toList.drop (text.toList.length - 6))
      && isIsoDatetime (String.ofList (zoneless ++ ['Z']))

def JsonSchema (value : Value) : Bool := value.isJson && decide (utf8Bytes value.print ≤ 16384)

/-! ## Payloads -/

inductive AuthorityKind where
  | caller
  | tool
  | policy
  | operator
  | system
deriving DecidableEq

def AuthorityKind.name : AuthorityKind → String
  | .caller => "caller"
  | .tool => "tool"
  | .policy => "policy"
  | .operator => "operator"
  | .system => "system"

structure ProgramAuthority where
  kind : AuthorityKind
  evidenceSha256 : String

inductive CheckpointStatus where
  | routing
  | active
  | completed
  | failed
deriving DecidableEq

def CheckpointStatus.name : CheckpointStatus → String
  | .routing => "routing"
  | .active => "active"
  | .completed => "completed"
  | .failed => "failed"

structure FlowCheckpoint where
  goalId : String
  flowId : String
  flowVersion : String
  flowRevision : Nat
  capabilityEpoch : Nat
  status : CheckpointStatus
  nodeId : Option String
  stepPath : Option String
  completedStepCount : Nat
  stateSha256 : String

inductive ObligationOwner where
  | agent
  | caller
  | human
  | system

def ObligationOwner.name : ObligationOwner → String
  | .agent => "agent"
  | .caller => "caller"
  | .human => "human"
  | .system => "system"

inductive ObligationBlocks where
  | goalCompletion
  | programCompletion
  | irreversibleActions

def ObligationBlocks.name : ObligationBlocks → String
  | .goalCompletion => "goal_completion"
  | .programCompletion => "program_completion"
  | .irreversibleActions => "irreversible_actions"

structure ObligationOpening where
  obligationId : String
  obligationType : String
  description : String
  owner : ObligationOwner
  blocks : ObligationBlocks
  goalId : Option String
  sourceId : String

inductive ObligationDisposition where
  | satisfied
  | waived
deriving DecidableEq

def ObligationDisposition.name : ObligationDisposition → String
  | .satisfied => "satisfied"
  | .waived => "waived"

structure ActionReservation where
  reservationId : String
  goalId : String
  action : String
  argumentsSha256 : String
  idempotencyKey : String
  capabilityEpoch : Nat
  authorityRevision : Nat

inductive ReceiptStatus where
  | succeeded
  | failed
  | indeterminate
  | compensated
deriving DecidableEq

def ReceiptStatus.name : ReceiptStatus → String
  | .succeeded => "succeeded"
  | .failed => "failed"
  | .indeterminate => "indeterminate"
  | .compensated => "compensated"

structure ActionReceipt where
  receiptId : String
  reservationId : String
  status : ReceiptStatus
  resultSha256 : Option String
  evidenceSha256 : String

structure FactDependency where
  key : String
  revision : Nat

/-- A spawned worker. Its last field may be left out. -/
structure WorkerSpawn where
  workerId : String
  goalId : String
  purpose : String
  capabilityEpoch : Nat
  dependencies : List FactDependency
  requiredForGoalCompletion : Option Bool

structure WorkerDelivery where
  deliveryId : String
  workerId : String
  goalId : String
  capabilityEpoch : Nat
  dependencyFactRevisions : List FactDependency
  resultSha256 : String

inductive ConversationProgramEventPayload where
  | factAsserted (key : String) (value : Value) (authority : ProgramAuthority)
  | factCorrected (key : String) (value : Value) (expectedFactRevision : Nat)
      (authority : ProgramAuthority)
  | goalOpened (goalId description : String)
  | goalFocused (goalId : String)
  | goalSuspended (goalId reason : String)
  | goalCompleted (goalId : String)
  | flowCheckpointRecorded (checkpoint : FlowCheckpoint)
  | obligationOpened (opening : ObligationOpening)
  | obligationSettled (obligationId : String) (disposition : ObligationDisposition)
      (evidenceSha256 : String)
  | capabilityEpochAdvanced (expectedEpoch epoch : Nat) (capabilities : List String)
      (reason : String)
  | actionReserved (reservation : ActionReservation)
  | actionReceiptRecorded (receipt : ActionReceipt)
  | workerSpawned (spawn : WorkerSpawn)
  | workerDeliveryRecorded (delivery : WorkerDelivery)
  | workerCancelled (workerId reason : String)
  | audibilityResponseRegistered (responseId : String) (generatedThroughMs : Nat)
      (contentSha256 evidenceSha256 : String)
  | audibilityReleasedThrough (responseId : String) (throughMs : Nat) (evidenceSha256 : String)
  | audibilityHeardThrough (responseId : String) (throughMs : Nat) (evidenceSha256 : String)
  | audibilityInterrupted (responseId : String) (heardThroughMs : Nat)
      (reason evidenceSha256 : String)

/-! ## Schemas -/

def ProgramAuthoritySchema (authority : ProgramAuthority) : Bool :=
  Sha256Schema authority.evidenceSha256

/-- The refinements: a routing checkpoint has neither node nor step, an active one has a
node, and a terminal one no step. -/
def FlowCheckpointRecordedSchema (checkpoint : FlowCheckpoint) : Bool :=
  IdSchema checkpoint.goalId && IdSchema checkpoint.flowId
    && lengthWithin 1 128 checkpoint.flowVersion && RevisionSchema checkpoint.flowRevision
    && RevisionSchema checkpoint.capabilityEpoch && checkpoint.nodeId.all IdSchema
    && checkpoint.stepPath.all (lengthWithin 1 1024)
    && RevisionSchema checkpoint.completedStepCount && Sha256Schema checkpoint.stateSha256
    && match checkpoint.status with
      | .routing => checkpoint.nodeId.isNone && checkpoint.stepPath.isNone
      | .active => checkpoint.nodeId.isSome
      | .completed | .failed => checkpoint.stepPath.isNone

def ObligationOpenedSchema (opening : ObligationOpening) : Bool :=
  IdSchema opening.obligationId && IdSchema opening.obligationType
    && TextSchema opening.description && opening.goalId.all IdSchema && IdSchema opening.sourceId

def CapabilityEpochAdvancedSchema (expectedEpoch epoch : Nat) (capabilities : List String)
    (reason : String) : Bool :=
  RevisionSchema expectedEpoch && PositiveRevisionSchema epoch && capabilities.all IdSchema
    && countWithin 0 1024 capabilities && TextSchema reason && haveUniqueKeys id capabilities

def ActionReservedSchema (reservation : ActionReservation) : Bool :=
  IdSchema reservation.reservationId && IdSchema reservation.goalId && IdSchema reservation.action
    && Sha256Schema reservation.argumentsSha256 && lengthWithin 1 256 reservation.idempotencyKey
    && RevisionSchema reservation.capabilityEpoch && RevisionSchema reservation.authorityRevision

/-- A receipt has a result exactly if the effect was committed. -/
def ActionReceiptRecordedSchema (receipt : ActionReceipt) : Bool :=
  IdSchema receipt.receiptId && IdSchema receipt.reservationId
    && receipt.resultSha256.all Sha256Schema && Sha256Schema receipt.evidenceSha256
    && decide ((receipt.status = .succeeded ∨ receipt.status = .compensated) ↔
      receipt.resultSha256.isSome = true)

def FactDependencySchema (dependency : FactDependency) : Bool :=
  IdSchema dependency.key && PositiveRevisionSchema dependency.revision

def WorkerSpawnedSchema (spawn : WorkerSpawn) : Bool :=
  IdSchema spawn.workerId && IdSchema spawn.goalId && TextSchema spawn.purpose
    && RevisionSchema spawn.capabilityEpoch && spawn.dependencies.all FactDependencySchema
    && countWithin 0 64 spawn.dependencies && haveUniqueKeys FactDependency.key spawn.dependencies

def WorkerDeliveryRecordedSchema (delivery : WorkerDelivery) : Bool :=
  IdSchema delivery.deliveryId && IdSchema delivery.workerId && IdSchema delivery.goalId
    && RevisionSchema delivery.capabilityEpoch
    && delivery.dependencyFactRevisions.all FactDependencySchema
    && countWithin 0 64 delivery.dependencyFactRevisions && Sha256Schema delivery.resultSha256
    && haveUniqueKeys FactDependency.key delivery.dependencyFactRevisions

/-- The checks of a payload that has been normalised. -/
def ConversationProgramEventPayloadSchema : ConversationProgramEventPayload → Bool
  | .factAsserted key value authority =>
    IdSchema key && JsonSchema value && ProgramAuthoritySchema authority
  | .factCorrected key value expectedFactRevision authority =>
    IdSchema key && JsonSchema value && PositiveRevisionSchema expectedFactRevision
      && ProgramAuthoritySchema authority
  | .goalOpened goalId description => IdSchema goalId && TextSchema description
  | .goalFocused goalId => IdSchema goalId
  | .goalSuspended goalId reason => IdSchema goalId && TextSchema reason
  | .goalCompleted goalId => IdSchema goalId
  | .flowCheckpointRecorded checkpoint => FlowCheckpointRecordedSchema checkpoint
  | .obligationOpened opening => ObligationOpenedSchema opening
  | .obligationSettled obligationId _ evidenceSha256 =>
    IdSchema obligationId && Sha256Schema evidenceSha256
  | .capabilityEpochAdvanced expectedEpoch epoch capabilities reason =>
    CapabilityEpochAdvancedSchema expectedEpoch epoch capabilities reason
  | .actionReserved reservation => ActionReservedSchema reservation
  | .actionReceiptRecorded receipt => ActionReceiptRecordedSchema receipt
  | .workerSpawned spawn => WorkerSpawnedSchema spawn
  | .workerDeliveryRecorded delivery => WorkerDeliveryRecordedSchema delivery
  | .workerCancelled workerId reason => IdSchema workerId && TextSchema reason
  | .audibilityResponseRegistered responseId generatedThroughMs contentSha256 evidenceSha256 =>
    IdSchema responseId && PositiveRevisionSchema generatedThroughMs
      && Sha256Schema contentSha256 && Sha256Schema evidenceSha256
  | .audibilityReleasedThrough responseId throughMs evidenceSha256 =>
    IdSchema responseId && RevisionSchema throughMs && Sha256Schema evidenceSha256
  | .audibilityHeardThrough responseId throughMs evidenceSha256 =>
    IdSchema responseId && RevisionSchema throughMs && Sha256Schema evidenceSha256
  | .audibilityInterrupted responseId heardThroughMs reason evidenceSha256 =>
    IdSchema responseId && RevisionSchema heardThroughMs && TextSchema reason
      && Sha256Schema evidenceSha256

/-- What parsing makes of a payload: texts are trimmed and the default of a worker is filled
in. -/
def ConversationProgramEventPayload.normalized :
    ConversationProgramEventPayload → ConversationProgramEventPayload
  | .goalOpened goalId description => .goalOpened goalId (trim description)
  | .goalSuspended goalId reason => .goalSuspended goalId (trim reason)
  | .obligationOpened opening =>
    .obligationOpened { opening with description := trim opening.description }
  | .capabilityEpochAdvanced expectedEpoch epoch capabilities reason =>
    .capabilityEpochAdvanced expectedEpoch epoch capabilities (trim reason)
  | .workerSpawned spawn =>
    .workerSpawned { spawn with
      purpose := trim spawn.purpose
      requiredForGoalCompletion := some (spawn.requiredForGoalCompletion.getD false) }
  | .workerCancelled workerId reason => .workerCancelled workerId (trim reason)
  | .audibilityInterrupted responseId heardThroughMs reason evidenceSha256 =>
    .audibilityInterrupted responseId heardThroughMs (trim reason) evidenceSha256
  | payload => payload

/-! ## JSON -/

def ProgramAuthority.toValue (authority : ProgramAuthority) : Value :=
  .object [("kind", .string authority.kind.name),
    ("evidenceSha256", .string authority.evidenceSha256)]

def FactDependency.toValue (dependency : FactDependency) : Value :=
  .object [("key", .string dependency.key), ("revision", .ofNat dependency.revision)]

def dependencyArray (dependencies : List FactDependency) : Value :=
  .array (dependencies.map FactDependency.toValue)

/-- The fields of a payload besides its type. -/
def ConversationProgramEventPayload.fields : ConversationProgramEventPayload → List (String × Value)
  | .factAsserted key value authority =>
    [("key", .string key), ("value", value), ("authority", authority.toValue)]
  | .factCorrected key value expectedFactRevision authority =>
    [("key", .string key), ("value", value),
      ("expectedFactRevision", .ofNat expectedFactRevision), ("authority", authority.toValue)]
  | .goalOpened goalId description =>
    [("goalId", .string goalId), ("description", .string description)]
  | .goalFocused goalId => [("goalId", .string goalId)]
  | .goalSuspended goalId reason => [("goalId", .string goalId), ("reason", .string reason)]
  | .goalCompleted goalId => [("goalId", .string goalId)]
  | .flowCheckpointRecorded checkpoint =>
    [("goalId", .string checkpoint.goalId), ("flowId", .string checkpoint.flowId),
      ("flowVersion", .string checkpoint.flowVersion),
      ("flowRevision", .ofNat checkpoint.flowRevision),
      ("capabilityEpoch", .ofNat checkpoint.capabilityEpoch),
      ("status", .string checkpoint.status.name), ("nodeId", nullableText checkpoint.nodeId),
      ("stepPath", nullableText checkpoint.stepPath),
      ("completedStepCount", .ofNat checkpoint.completedStepCount),
      ("stateSha256", .string checkpoint.stateSha256)]
  | .obligationOpened opening =>
    [("obligationId", .string opening.obligationId),
      ("obligationType", .string opening.obligationType),
      ("description", .string opening.description), ("owner", .string opening.owner.name),
      ("blocks", .string opening.blocks.name), ("goalId", nullableText opening.goalId),
      ("sourceId", .string opening.sourceId)]
  | .obligationSettled obligationId disposition evidenceSha256 =>
    [("obligationId", .string obligationId), ("disposition", .string disposition.name),
      ("evidenceSha256", .string evidenceSha256)]
  | .capabilityEpochAdvanced expectedEpoch epoch capabilities reason =>
    [("expectedEpoch", .ofNat expectedEpoch), ("epoch", .ofNat epoch),
      ("capabilities", textArray capabilities), ("reason", .string reason)]
  | .actionReserved reservation =>
    [("reservationId", .string reservation.reservationId),
      ("goalId", .string reservation.goalId), ("action", .string reservation.action),
      ("argumentsSha256", .string reservation.argumentsSha256),
      ("idempotencyKey", .string reservation.idempotencyKey),
      ("capabilityEpoch", .ofNat reservation.capabilityEpoch),
      ("authorityRevision", .ofNat reservation.authorityRevision)]
  | .actionReceiptRecorded receipt =>
    [("receiptId", .string receipt.receiptId), ("reservationId", .string receipt.reservationId),
      ("status", .string receipt.status.name),
      ("resultSha256", nullableText receipt.resultSha256),
      ("evidenceSha256", .string receipt.evidenceSha256)]
  | .workerSpawned spawn =>
    [("workerId", .string spawn.workerId), ("goalId", .string spawn.goalId),
      ("purpose", .string spawn.purpose), ("capabilityEpoch", .ofNat spawn.capabilityEpoch),
      ("dependencies", dependencyArray spawn.dependencies)]
      ++ MissionSchema.optionalField "requiredForGoalCompletion"
        (spawn.requiredForGoalCompletion.map Value.bool)
  | .workerDeliveryRecorded delivery =>
    [("deliveryId", .string delivery.deliveryId), ("workerId", .string delivery.workerId),
      ("goalId", .string delivery.goalId), ("capabilityEpoch", .ofNat delivery.capabilityEpoch),
      ("dependencyFactRevisions", dependencyArray delivery.dependencyFactRevisions),
      ("resultSha256", .string delivery.resultSha256)]
  | .workerCancelled workerId reason =>
    [("workerId", .string workerId), ("reason", .string reason)]
  | .audibilityResponseRegistered responseId generatedThroughMs contentSha256 evidenceSha256 =>
    [("responseId", .string responseId), ("generatedThroughMs", .ofNat generatedThroughMs),
      ("contentSha256", .string contentSha256), ("evidenceSha256", .string evidenceSha256)]
  | .audibilityReleasedThrough responseId throughMs evidenceSha256
  | .audibilityHeardThrough responseId throughMs evidenceSha256 =>
    [("responseId", .string responseId), ("throughMs", .ofNat throughMs),
      ("evidenceSha256", .string evidenceSha256)]
  | .audibilityInterrupted responseId heardThroughMs reason evidenceSha256 =>
    [("responseId", .string responseId), ("heardThroughMs", .ofNat heardThroughMs),
      ("reason", .string reason), ("evidenceSha256", .string evidenceSha256)]

def ConversationProgramEventPayload.type : ConversationProgramEventPayload → String
  | .factAsserted .. => "fact.asserted"
  | .factCorrected .. => "fact.corrected"
  | .goalOpened .. => "goal.opened"
  | .goalFocused .. => "goal.focused"
  | .goalSuspended .. => "goal.suspended"
  | .goalCompleted .. => "goal.completed"
  | .flowCheckpointRecorded .. => "flow.checkpoint_recorded"
  | .obligationOpened .. => "obligation.opened"
  | .obligationSettled .. => "obligation.settled"
  | .capabilityEpochAdvanced .. => "capability_epoch.advanced"
  | .actionReserved .. => "action.reserved"
  | .actionReceiptRecorded .. => "action.receipt_recorded"
  | .workerSpawned .. => "worker.spawned"
  | .workerDeliveryRecorded .. => "worker.delivery_recorded"
  | .workerCancelled .. => "worker.cancelled"
  | .audibilityResponseRegistered .. => "audibility.response_registered"
  | .audibilityReleasedThrough .. => "audibility.released_through"
  | .audibilityHeardThrough .. => "audibility.heard_through"
  | .audibilityInterrupted .. => "audibility.interrupted"

def ConversationProgramEventPayload.toValue (payload : ConversationProgramEventPayload) : Value :=
  .object (("type", .string payload.type) :: payload.fields)

/-! ## Events -/

structure ConversationProgramEventDraft where
  eventId : String
  expectedRevision : Nat
  occurredAt : String
  payload : ConversationProgramEventPayload

structure ConversationProgramEvent where
  schemaVersion : Nat
  programId : String
  sequence : Nat
  previousSha256 : String
  eventId : String
  expectedRevision : Nat
  occurredAt : String
  payload : ConversationProgramEventPayload
  eventSha256 : String

/-- The part of an event that its author supplied. -/
def ConversationProgramEvent.draft (event : ConversationProgramEvent) :
    ConversationProgramEventDraft :=
  ⟨event.eventId, event.expectedRevision, event.occurredAt, event.payload⟩

def ConversationProgramEventDraft.normalized (draft : ConversationProgramEventDraft) :
    ConversationProgramEventDraft :=
  { draft with payload := draft.payload.normalized }

def ConversationProgramEvent.normalized (event : ConversationProgramEvent) :
    ConversationProgramEvent :=
  { event with payload := event.payload.normalized }

def ConversationProgramEventDraftSchema (draft : ConversationProgramEventDraft) : Bool :=
  IdSchema draft.eventId && RevisionSchema draft.expectedRevision
    && TimestampSchema draft.occurredAt && ConversationProgramEventPayloadSchema draft.payload

def ConversationProgramEventSchema (event : ConversationProgramEvent) : Bool :=
  ConversationProgramEventDraftSchema event.draft
    && decide (event.schemaVersion = CONVERSATION_PROGRAM_VERSION) && IdSchema event.programId
    && PositiveRevisionSchema event.sequence && Sha256Schema event.previousSha256
    && Sha256Schema event.eventSha256

def ConversationProgramEventDraft.toValue (draft : ConversationProgramEventDraft) : Value :=
  .object [("eventId", .string draft.eventId), ("expectedRevision", .ofNat draft.expectedRevision),
    ("occurredAt", .string draft.occurredAt), ("payload", draft.payload.toValue)]

/-- The fields that the digest of an event covers. -/
def ConversationProgramEvent.unsignedFields (event : ConversationProgramEvent) :
    List (String × Value) :=
  [("schemaVersion", .ofNat event.schemaVersion), ("programId", .string event.programId),
    ("sequence", .ofNat event.sequence), ("previousSha256", .string event.previousSha256),
    ("eventId", .string event.eventId), ("expectedRevision", .ofNat event.expectedRevision),
    ("occurredAt", .string event.occurredAt), ("payload", event.payload.toValue)]

def ConversationProgramEvent.toValue (event : ConversationProgramEvent) : Value :=
  .object (event.unsignedFields ++ [("eventSha256", .string event.eventSha256)])

/-- The digest of a value under the name of its domain. -/
def domainDigest (sha256 : String → String) (domain : String) (value : Value) : String :=
  sha256 (domain ++ "\n" ++ value.text)

def eventDigest (sha256 : String → String) (event : ConversationProgramEvent) : String :=
  domainDigest sha256 "hacc/conversation-program-event/v1" (.object event.unsignedFields)

structure ConversationProgramLog where
  schemaVersion : Nat
  programId : String
  events : List ConversationProgramEvent

end CallCenter.ProgramEvents
