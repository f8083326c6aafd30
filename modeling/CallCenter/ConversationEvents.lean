import CallCenter.MissionSchema
import CallCenter.Guards

/-!
# Events of a conversation

The event log of a conversation holds fifteen kinds of payload. Facts, goals,
commitments, policies and flow checkpoints are authoritative; what workers and models
contribute is advisory. The module has the payloads with the bounds that their schema
checks, their JSON, and the hash that chains an event to its predecessor.

`canonicalJson` is only ever applied to values that a schema has accepted, and on those it
is `Value.text`.
-/

namespace CallCenter.ConversationEvents

open JsonValues FlowState MissionSchema

def CONVERSATION_KERNEL_VERSION : Nat := 1

def GENESIS_HASH : String := "0000000000000000000000000000000000000000000000000000000000000000"

def MAX_EVENT_BYTES : Nat := 32768
def MAX_JSON_VALUE_BYTES : Nat := 4096
def MAX_ID_LENGTH : Nat := 128
def MAX_TEXT_LENGTH : Nat := 4096
def MAX_FACTS_PER_DELIVERY : Nat := 32
def MAX_ADVISORIES_PER_DELIVERY : Nat := 16
def MAX_DEPENDENCIES_PER_WORKER : Nat := 64
def MAX_UNRESOLVED_FLOW_ACTIONS : Nat := 64
def MAX_INVARIANTS : Nat := 64

/-! ## Field formats -/

def utf8Bytes (text : String) : Nat := text.utf8ByteSize

mutual

/-- Bounded JSON, at a depth of at most 8. -/
def isJsonValue : Value → Nat → Bool
  | .undefined, _ => false
  | .null, depth => decide (depth ≤ 8)
  | .bool _, depth => decide (depth ≤ 8)
  | .string _, depth => decide (depth ≤ 8)
  | .number (.finite _), depth => decide (depth ≤ 8)
  | .number _, _ => false
  | .array items, depth =>
    decide (depth ≤ 8) && decide (items.length ≤ 128) && itemsAreBounded items (depth + 1)
  | .object fields, depth =>
    decide (depth ≤ 8) && decide (fields.length ≤ 128) && fieldsAreBounded fields (depth + 1)

def itemsAreBounded : List Value → Nat → Bool
  | [], _ => true
  | item :: rest, depth => isJsonValue item depth && itemsAreBounded rest depth

def fieldsAreBounded : List (String × Value) → Nat → Bool
  | [], _ => true
  | (key, value) :: rest, depth =>
    decide ((utf16 key).length ≤ MAX_ID_LENGTH) && isJsonValue value depth
      && fieldsAreBounded rest depth

end

def JsonValueSchema (value : Value) : Bool :=
  isJsonValue value 0 && decide (utf8Bytes value.text ≤ MAX_JSON_VALUE_BYTES)

def IdSchema : String → Bool :=
  matchesShape (fun c => isUpper c || isLower c || c.isDigit)
    (fun c => isUpper c || isLower c || c.isDigit || ['.', '_', ':', '/', '-'].contains c) 0 127

def TextSchema (text : String) : Bool := lengthWithin 1 MAX_TEXT_LENGTH text

def NonNegativeIntegerSchema (count : Nat) : Bool := decide (count ≤ 9007199254740991)

def PositiveIntegerSchema (count : Nat) : Bool := decide (0 < count) && NonNegativeIntegerSchema count

def HashSchema (text : String) : Bool := isHexDigest text

/-- No two items have the same key. -/
def haveUniqueKeys {α : Type} (keyOf : α → String) (items : List α) : Bool :=
  decide (items.map keyOf).Nodup

/-! ## Payloads -/

inductive AuthorityKind where
  | systemOfRecord
  | humanVerified
  | cryptographicAttestation
deriving DecidableEq

def AuthorityKind.name : AuthorityKind → String
  | .systemOfRecord => "system_of_record"
  | .humanVerified => "human_verified"
  | .cryptographicAttestation => "cryptographic_attestation"

structure AuthorityStamp where
  kind : AuthorityKind
  issuer : String
  evidenceId : String
  issuedAtMs : Nat

structure PolicyInvariant where
  invariantId : String
  text : String

inductive CheckpointStatus where
  | routing
  | active
  | completed
  | failed
deriving DecidableEq

def CheckpointStatus.name : CheckpointStatus → String
  | .routing => "routing"
  | .active => "active"
  | .completed => "completed"
  | .failed => "failed"

structure FlowCheckpoint where
  goalId : String
  runtimeDigest : String
  flowRevision : Nat
  capabilityEpoch : Nat
  status : CheckpointStatus
  nodeId : Option String
  currentStep : Option String
  completedStepCount : Nat
  unresolvedActionIds : List String
  stateDigest : String

structure FactDependency where
  key : String
  revision : Nat

structure WorkerSpawn where
  workerId : String
  goalId : String
  purpose : String
  policyEpoch : Nat
  dependencies : List FactDependency

/-- How a worker ends without a result. -/
inductive FinishStatus where
  | failed
  | cancelled
  | indeterminate
deriving DecidableEq

def FinishStatus.name : FinishStatus → String
  | .failed => "failed"
  | .cancelled => "cancelled"
  | .indeterminate => "indeterminate"

structure WorkerFact where
  key : String
  value : Value
  evidenceId : String

structure WorkerAdvisory where
  episodeId : String
  text : String

structure WorkerResult where
  deliveryId : String
  workerId : String
  goalId : String
  policyEpoch : Nat
  dependencyFactRevisions : List FactDependency
  facts : List WorkerFact
  advisories : List WorkerAdvisory

inductive ConversationEventPayload where
  | factAsserted (key : String) (value : Value) (revision : Nat) (authority : AuthorityStamp)
  | factCorrected (key : String) (value : Value) (expectedRevision revision : Nat)
      (authority : AuthorityStamp)
  | goalActivated (goalId description : String)
  | goalCompleted (goalId : String)
  | goalSuspended (goalId reason : String)
  | goalResumed (goalId : String)
  | commitmentOpened (commitmentId goalId description : String)
  | commitmentResolved (commitmentId resolution : String)
  | policyAdvanced (epoch : Nat) (invariants : List PolicyInvariant)
  | flowCheckpointRecorded (checkpoint : FlowCheckpoint)
  | workerSpawned (spawn : WorkerSpawn)
  | workerCancelled (workerId reason : String)
  | workerFinished (workerId : String) (status : FinishStatus) (reasonCode evidenceSha256 : String)
  | workerResultDelivered (result : WorkerResult)
  | advisoryRecorded (episodeId summary : String)

/-! ## Schemas -/

def AuthorityStampSchema (stamp : AuthorityStamp) : Bool :=
  IdSchema stamp.issuer && IdSchema stamp.evidenceId && NonNegativeIntegerSchema stamp.issuedAtMs

def InvariantSchema (item : PolicyInvariant) : Bool :=
  IdSchema item.invariantId && TextSchema item.text

def FactDependencySchema (dependency : FactDependency) : Bool :=
  IdSchema dependency.key && PositiveIntegerSchema dependency.revision

/-- The refinements: a routing checkpoint has neither node nor step, an active one has a
node, and a terminal one no step. -/
def FlowCheckpointSchema (checkpoint : FlowCheckpoint) : Bool :=
  IdSchema checkpoint.goalId && HashSchema checkpoint.runtimeDigest
    && NonNegativeIntegerSchema checkpoint.flowRevision
    && NonNegativeIntegerSchema checkpoint.capabilityEpoch
    && checkpoint.nodeId.all TextSchema && checkpoint.currentStep.all TextSchema
    && NonNegativeIntegerSchema checkpoint.completedStepCount
    && checkpoint.unresolvedActionIds.all IdSchema
    && countWithin 0 MAX_UNRESOLVED_FLOW_ACTIONS checkpoint.unresolvedActionIds
    && HashSchema checkpoint.stateDigest
    && haveUniqueKeys id checkpoint.unresolvedActionIds
    && match checkpoint.status with
      | .routing => checkpoint.nodeId.isNone && checkpoint.currentStep.isNone
      | .active => checkpoint.nodeId.isSome
      | .completed | .failed => checkpoint.currentStep.isNone

def WorkerSpawnSchema (spawn : WorkerSpawn) : Bool :=
  IdSchema spawn.workerId && IdSchema spawn.goalId && TextSchema spawn.purpose
    && NonNegativeIntegerSchema spawn.policyEpoch
    && spawn.dependencies.all FactDependencySchema
    && countWithin 0 MAX_DEPENDENCIES_PER_WORKER spawn.dependencies
    && haveUniqueKeys FactDependency.key spawn.dependencies

def WorkerFactSchema (fact : WorkerFact) : Bool :=
  IdSchema fact.key && JsonValueSchema fact.value && IdSchema fact.evidenceId

def WorkerAdvisorySchema (advisory : WorkerAdvisory) : Bool :=
  IdSchema advisory.episodeId && TextSchema advisory.text

def WorkerResultSchema (result : WorkerResult) : Bool :=
  IdSchema result.deliveryId && IdSchema result.workerId && IdSchema result.goalId
    && NonNegativeIntegerSchema result.policyEpoch
    && result.dependencyFactRevisions.all FactDependencySchema
    && countWithin 0 MAX_DEPENDENCIES_PER_WORKER result.dependencyFactRevisions
    && result.facts.all WorkerFactSchema && countWithin 0 MAX_FACTS_PER_DELIVERY result.facts
    && result.advisories.all WorkerAdvisorySchema
    && countWithin 0 MAX_ADVISORIES_PER_DELIVERY result.advisories
    && haveUniqueKeys FactDependency.key result.dependencyFactRevisions
    && haveUniqueKeys WorkerFact.key result.facts
    && haveUniqueKeys WorkerAdvisory.episodeId result.advisories

def ConversationEventPayloadSchema : ConversationEventPayload → Bool
  | .factAsserted key value revision authority =>
    IdSchema key && JsonValueSchema value && decide (revision = 1) && AuthorityStampSchema authority
  | .factCorrected key value expectedRevision revision authority =>
    IdSchema key && JsonValueSchema value && PositiveIntegerSchema expectedRevision
      && PositiveIntegerSchema revision && AuthorityStampSchema authority
  | .goalActivated goalId description => IdSchema goalId && TextSchema description
  | .goalCompleted goalId => IdSchema goalId
  | .goalSuspended goalId reason => IdSchema goalId && TextSchema reason
  | .goalResumed goalId => IdSchema goalId
  | .commitmentOpened commitmentId goalId description =>
    IdSchema commitmentId && IdSchema goalId && TextSchema description
  | .commitmentResolved commitmentId resolution => IdSchema commitmentId && TextSchema resolution
  | .policyAdvanced epoch invariants =>
    PositiveIntegerSchema epoch && invariants.all InvariantSchema
      && countWithin 0 MAX_INVARIANTS invariants
      && haveUniqueKeys PolicyInvariant.invariantId invariants
  | .flowCheckpointRecorded checkpoint => FlowCheckpointSchema checkpoint
  | .workerSpawned spawn => WorkerSpawnSchema spawn
  | .workerCancelled workerId reason => IdSchema workerId && TextSchema reason
  | .workerFinished workerId _ reasonCode evidenceSha256 =>
    IdSchema workerId && IdSchema reasonCode && HashSchema evidenceSha256
  | .workerResultDelivered result => WorkerResultSchema result
  | .advisoryRecorded episodeId summary => IdSchema episodeId && TextSchema summary

/-! ## JSON -/

def AuthorityStamp.toValue (stamp : AuthorityStamp) : Value :=
  .object [("kind", .string stamp.kind.name), ("issuer", .string stamp.issuer),
    ("evidenceId", .string stamp.evidenceId), ("issuedAtMs", .ofNat stamp.issuedAtMs)]

def PolicyInvariant.toValue (item : PolicyInvariant) : Value :=
  .object [("invariantId", .string item.invariantId), ("text", .string item.text)]

def FactDependency.toValue (dependency : FactDependency) : Value :=
  .object [("key", .string dependency.key), ("revision", .ofNat dependency.revision)]

def WorkerFact.toValue (fact : WorkerFact) : Value :=
  .object [("key", .string fact.key), ("value", fact.value),
    ("evidenceId", .string fact.evidenceId)]

def WorkerAdvisory.toValue (advisory : WorkerAdvisory) : Value :=
  .object [("episodeId", .string advisory.episodeId), ("text", .string advisory.text)]

/-- The fields of a checkpoint. -/
def FlowCheckpoint.fields (checkpoint : FlowCheckpoint) : List (String × Value) :=
  [("goalId", .string checkpoint.goalId), ("runtimeDigest", .string checkpoint.runtimeDigest),
    ("flowRevision", .ofNat checkpoint.flowRevision),
    ("capabilityEpoch", .ofNat checkpoint.capabilityEpoch),
    ("status", .string checkpoint.status.name), ("nodeId", nullableText checkpoint.nodeId),
    ("currentStep", nullableText checkpoint.currentStep),
    ("completedStepCount", .ofNat checkpoint.completedStepCount),
    ("unresolvedActionIds", textArray checkpoint.unresolvedActionIds),
    ("stateDigest", .string checkpoint.stateDigest)]

def ConversationEventPayload.toValue : ConversationEventPayload → Value
  | .factAsserted key value revision authority =>
    .object [("type", .string "fact.asserted"), ("key", .string key), ("value", value),
      ("revision", .ofNat revision), ("authority", authority.toValue)]
  | .factCorrected key value expectedRevision revision authority =>
    .object [("type", .string "fact.corrected"), ("key", .string key), ("value", value),
      ("expectedRevision", .ofNat expectedRevision), ("revision", .ofNat revision),
      ("authority", authority.toValue)]
  | .goalActivated goalId description =>
    .object [("type", .string "goal.activated"), ("goalId", .string goalId),
      ("description", .string description)]
  | .goalCompleted goalId =>
    .object [("type", .string "goal.completed"), ("goalId", .string goalId)]
  | .goalSuspended goalId reason =>
    .object [("type", .string "goal.suspended"), ("goalId", .string goalId),
      ("reason", .string reason)]
  | .goalResumed goalId =>
    .object [("type", .string "goal.resumed"), ("goalId", .string goalId)]
  | .commitmentOpened commitmentId goalId description =>
    .object [("type", .string "commitment.opened"), ("commitmentId", .string commitmentId),
      ("goalId", .string goalId), ("description", .string description)]
  | .commitmentResolved commitmentId resolution =>
    .object [("type", .string "commitment.resolved"), ("commitmentId", .string commitmentId),
      ("resolution", .string resolution)]
  | .policyAdvanced epoch invariants =>
    .object [("type", .string "policy.advanced"), ("epoch", .ofNat epoch),
      ("invariants", .array (invariants.map PolicyInvariant.toValue))]
  | .flowCheckpointRecorded checkpoint =>
    .object (("type", .string "flow.checkpoint_recorded") :: checkpoint.fields)
  | .workerSpawned spawn =>
    .object [("type", .string "worker.spawned"), ("workerId", .string spawn.workerId),
      ("goalId", .string spawn.goalId), ("purpose", .string spawn.purpose),
      ("policyEpoch", .ofNat spawn.policyEpoch),
      ("dependencies", .array (spawn.dependencies.map FactDependency.toValue))]
  | .workerCancelled workerId reason =>
    .object [("type", .string "worker.cancelled"), ("workerId", .string workerId),
      ("reason", .string reason)]
  | .workerFinished workerId status reasonCode evidenceSha256 =>
    .object [("type", .string "worker.finished"), ("workerId", .string workerId),
      ("status", .string status.name), ("reasonCode", .string reasonCode),
      ("evidenceSha256", .string evidenceSha256)]
  | .workerResultDelivered result =>
    .object [("type", .string "worker.result_delivered"),
      ("deliveryId", .string result.deliveryId), ("workerId", .string result.workerId),
      ("goalId", .string result.goalId), ("policyEpoch", .ofNat result.policyEpoch),
      ("dependencyFactRevisions",
        .array (result.dependencyFactRevisions.map FactDependency.toValue)),
      ("facts", .array (result.facts.map WorkerFact.toValue)),
      ("advisories", .array (result.advisories.map WorkerAdvisory.toValue))]
  | .advisoryRecorded episodeId summary =>
    .object [("type", .string "advisory.recorded"), ("episodeId", .string episodeId),
      ("summary", .string summary)]

/-! ## Events -/

structure ConversationEventDraft where
  eventId : String
  occurredAtMs : Nat
  payload : ConversationEventPayload

structure ConversationEvent where
  version : Nat
  conversationId : String
  sequence : Nat
  previousHash : String
  eventId : String
  occurredAtMs : Nat
  payload : ConversationEventPayload
  hash : String

/-- The part of an event that its author supplied. -/
def ConversationEvent.draft (event : ConversationEvent) : ConversationEventDraft :=
  ⟨event.eventId, event.occurredAtMs, event.payload⟩

def ConversationEventDraftSchema (draft : ConversationEventDraft) : Bool :=
  IdSchema draft.eventId && NonNegativeIntegerSchema draft.occurredAtMs
    && ConversationEventPayloadSchema draft.payload

def ConversationEventSchema (event : ConversationEvent) : Bool :=
  ConversationEventDraftSchema event.draft
    && decide (event.version = CONVERSATION_KERNEL_VERSION) && IdSchema event.conversationId
    && PositiveIntegerSchema event.sequence && HashSchema event.previousHash
    && HashSchema event.hash

def ConversationEventDraft.toValue (draft : ConversationEventDraft) : Value :=
  .object [("eventId", .string draft.eventId), ("occurredAtMs", .ofNat draft.occurredAtMs),
    ("payload", draft.payload.toValue)]

/-- The fields that the hash of an event covers. -/
def ConversationEvent.unsignedFields (event : ConversationEvent) : List (String × Value) :=
  [("version", .ofNat event.version), ("conversationId", .string event.conversationId),
    ("sequence", .ofNat event.sequence), ("previousHash", .string event.previousHash),
    ("eventId", .string event.eventId), ("occurredAtMs", .ofNat event.occurredAtMs),
    ("payload", event.payload.toValue)]

def ConversationEvent.unsigned (event : ConversationEvent) : Value := .object event.unsignedFields

def ConversationEvent.toValue (event : ConversationEvent) : Value :=
  .object (event.unsignedFields ++ [("hash", .string event.hash)])

def eventHash (sha256 : String → String) (event : ConversationEvent) : String :=
  sha256 event.unsigned.text

structure ConversationLog where
  version : Nat
  conversationId : String
  events : List ConversationEvent

end CallCenter.ConversationEvents
