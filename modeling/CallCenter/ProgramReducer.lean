import CallCenter.ProgramEvents
import CallCenter.Replays

/-!
# The conversation program

`applyEvent` applies one event to the state of a program or throws. A log is valid if its
events are well formed, linked by their digests and applicable one after another;
`foldConversationProgram` replays a valid log and `appendConversationProgramEvents`
extends one draft by draft.

Validation reads the parsed form of every event. Folding and appending replay the events
as the log holds them.
-/

namespace CallCenter.ProgramReducer

open JsonValues ObjectFields Guards Replays ProgramEvents
open ConversationEvents (utf8Bytes)

def MAX_EVENT_BYTES : Nat := 32768

/-! ## State -/

structure ProgramFact where
  key : String
  value : Value
  revision : Nat
  authority : ProgramAuthority
  sequence : Nat

inductive ProgramGoalStatus where
  | queued
  | focused
  | suspended
  | completed
deriving DecidableEq

structure ProgramGoal where
  goalId : String
  description : String
  status : ProgramGoalStatus
  openedSequence : Nat
  focusCount : Nat
  suspensionReason : Option String

structure ProgramFlowCheckpoint extends FlowCheckpoint where
  sequence : Nat

inductive ObligationStatus where
  | opened
  | satisfied
  | waived
deriving DecidableEq

structure ProgramObligation extends ObligationOpening where
  status : ObligationStatus
  openedSequence : Nat
  settledSequence : Option Nat
  evidenceSha256 : Option String

inductive ReservationStatus where
  | reserved
  | revoked
  | succeeded
  | failed
  | indeterminate
  | compensated
deriving DecidableEq

structure ProgramActionReservation extends ActionReservation where
  reservedSequence : Nat
  status : ReservationStatus
  receiptId : Option String

structure ProgramActionReceipt extends ActionReceipt where
  sequence : Nat

inductive WorkerStatus where
  | running
  | delivered
  | superseded
  | cancelled
deriving DecidableEq

structure ProgramWorker where
  workerId : String
  goalId : String
  purpose : String
  capabilityEpoch : Nat
  dependencies : List FactDependency
  requiredForGoalCompletion : Bool
  spawnedSequence : Nat
  status : WorkerStatus

inductive DeliveryDisposition where
  | accepted
  | rejected

structure ProgramWorkerDelivery where
  deliveryId : String
  workerId : String
  goalId : String
  resultSha256 : String
  disposition : DeliveryDisposition
  reason : Option String
  sequence : Nat

structure MutableAudibility where
  responseId : String
  generatedThroughMs : Nat
  releasedThroughMs : Nat
  heardThroughMs : Nat
  interrupted : Bool
  interruptionReason : Option String
  contentSha256 : String
  generationEvidenceSha256 : String
  releaseEvidenceSha256 : Option String
  heardEvidenceSha256 : Option String
  interruptionEvidenceSha256 : Option String
  sequence : Nat

/-- The state while events are applied. Maps keep the order of insertion. -/
structure MutableProjection where
  facts : List (String × ProgramFact)
  goals : List (String × ProgramGoal)
  focusedGoalId : Option String
  flowCheckpoints : List (String × ProgramFlowCheckpoint)
  obligations : List (String × ProgramObligation)
  capabilityEpoch : Nat
  capabilityGoalId : Option String
  capabilities : List String
  reservations : List (String × ProgramActionReservation)
  idempotencyKeys : List (String × String)
  receipts : List (String × ProgramActionReceipt)
  workers : List (String × ProgramWorker)
  deliveries : List (String × ProgramWorkerDelivery)
  audibility : List (String × MutableAudibility)

def emptyProjection : MutableProjection where
  facts := []
  goals := []
  focusedGoalId := none
  flowCheckpoints := []
  obligations := []
  capabilityEpoch := 0
  capabilityGoalId := none
  capabilities := []
  reservations := []
  idempotencyKeys := []
  receipts := []
  workers := []
  deliveries := []
  audibility := []

/-! ## Helpers -/

/-- Throw about what was found. -/
def refuse {α : Type} (found : Option α) (message : α → String) : Except String Unit :=
  match found with
  | none => .ok ()
  | some item => .error (message item)

/-- Texts in the order of their code units. -/
def sortIds (ids : List String) : List String :=
  ids.insertionSort fun left right => unitsLe (utf16 left) (utf16 right) = true

/-- Records in the order of their identities. -/
def sortBy {α : Type} (key : α → String) (items : List α) : List α :=
  items.insertionSort fun left right => unitsLe (utf16 (key left)) (utf16 (key right)) = true

def dependenciesText (items : List FactDependency) : String :=
  (dependencyArray (sortBy FactDependency.key items)).text

def dependenciesEqual (left right : List FactDependency) : Bool :=
  decide (dependenciesText left = dependenciesText right)

section Apply
variable (state : MutableProjection) (sequence : Nat)

def requireFocusedGoal (goalId purpose : String) : Except String ProgramGoal :=
  match state.goals.lookup goalId with
  | none => .error s!"{purpose} requires focused goal {goalId}"
  | some goal => do
      require (decide (goal.status = .focused) && decide (state.focusedGoalId = some goalId))
        s!"{purpose} requires focused goal {goalId}"
      return goal

def revoke (reservation : ProgramActionReservation) : ProgramActionReservation :=
  if reservation.status = .reserved then { reservation with status := .revoked } else reservation

def revokeReservedActions : MutableProjection :=
  { state with reservations := mapValues revoke state.reservations }

def invalidateCapabilityFrontier : MutableProjection :=
  { revokeReservedActions state with
    capabilityEpoch := state.capabilityEpoch + 1
    capabilityGoalId := none
    capabilities := [] }

def invalidateActiveFrontierForFactMutation : MutableProjection :=
  if state.capabilityGoalId.isSome || !state.capabilities.isEmpty then
    invalidateCapabilityFrontier state
  else state

def supersede (key : String) (worker : ProgramWorker) : ProgramWorker :=
  if (worker.status = .running ∨ worker.status = .delivered) ∧
      worker.dependencies.any (fun dependency => decide (dependency.key = key)) = true then
    { worker with status := .superseded }
  else worker

def supersedeWorkersDependingOnFact (key : String) : MutableProjection :=
  { state with workers := mapValues (supersede key) state.workers }

/-! ## Facts and goals -/

def assertFact (key : String) (value : Value) (authority : ProgramAuthority) :
    Except String MutableProjection := do
  require (!hasField state.facts key) s!"fact {key} already exists; correct it instead"
  return invalidateActiveFrontierForFactMutation
    { state with facts := setField state.facts key ⟨key, value, 1, authority, sequence⟩ }

def correctFact (key : String) (value : Value) (expectedFactRevision : Nat)
    (authority : ProgramAuthority) : Except String MutableProjection :=
  match state.facts.lookup key with
  | none => .error s!"cannot correct missing fact {key}"
  | some current => do
      require (decide (expectedFactRevision = current.revision)) s!"fact {key} correction is stale"
      return invalidateActiveFrontierForFactMutation (supersedeWorkersDependingOnFact { state with
          facts := setField state.facts key ⟨key, value, current.revision + 1, authority, sequence⟩ }
        key)

def openGoal (goalId description : String) : Except String MutableProjection := do
  require (!hasField state.goals goalId) s!"goal {goalId} already exists"
  return { state with
    goals := setField state.goals goalId ⟨goalId, description, .queued, sequence, 0, none⟩ }

/-- The goal that had the focus is suspended in favour of another one. -/
def suspendPrevious (goalId : String) : Except String (List (String × ProgramGoal)) :=
  match state.focusedGoalId.filter (· ≠ "") with
  | none => .ok state.goals
  | some previousId =>
    match state.goals.lookup previousId with
    | none => .error "Cannot set properties of undefined (setting 'status')"
    | some previous => .ok (setField state.goals previousId { previous with
          status := .suspended, suspensionReason := some s!"focus_replaced:{goalId}" })

def focusGoal (goalId : String) : Except String MutableProjection :=
  match state.goals.lookup goalId with
  | none => .error s!"goal {goalId} is not focusable"
  | some target => do
      require (decide (target.status = .queued ∨ target.status = .suspended))
        s!"goal {goalId} is not focusable"
      let goals ← suspendPrevious state goalId
      return invalidateCapabilityFrontier { state with
          goals := setField goals goalId { target with
              status := .focused, focusCount := target.focusCount + 1, suspensionReason := none }
          focusedGoalId := some goalId }

/-- The focused goal gives up the focus. -/
def leaveFocus (goal : ProgramGoal) (goalId : String) (status : ProgramGoalStatus)
    (suspensionReason : Option String) : MutableProjection :=
  invalidateCapabilityFrontier { state with
      goals := setField state.goals goalId { goal with status, suspensionReason }
      focusedGoalId := none }

def suspendGoal (goalId reason : String) : Except String MutableProjection := do
  let goal ← requireFocusedGoal state goalId "goal suspension"
  return leaveFocus state goal goalId .suspended (some reason)

/-! ## Completion -/

def blocks (goalId : String) (obligation : ProgramObligation) : Bool :=
  decide (obligation.status = .opened)
    && (obligation.goalId.isNone || decide (obligation.goalId = some goalId))

def unresolvedFor (goalId : String) (reservation : ProgramActionReservation) : Bool :=
  decide (reservation.goalId = goalId)
    && (decide (reservation.status = .reserved) || decide (reservation.status = .indeterminate))

def incompleteFor (goalId : String) (worker : ProgramWorker) : Bool :=
  decide (worker.goalId = goalId) && worker.requiredForGoalCompletion
    && decide (worker.status ≠ .delivered)

/-- A checkpoint lets its goal complete only if it reports success at the current epoch. -/
def requireTerminalSuccess (goalId : String) : Except String Unit :=
  match state.flowCheckpoints.lookup goalId with
  | none => .ok ()
  | some checkpoint => do
      require (decide (checkpoint.status = .completed))
        s!"goal {goalId} has a non-terminal-success flow checkpoint"
      require (decide (checkpoint.capabilityEpoch = state.capabilityEpoch))
        s!"goal {goalId} flow checkpoint capability epoch is stale"

def completeGoal (goalId : String) : Except String MutableProjection := do
  let goal ← requireFocusedGoal state goalId "goal completion"
  refuse ((state.obligations.map Prod.snd).find? (blocks goalId)) fun blocker =>
    s!"goal {goalId} is blocked by obligation {blocker.obligationId}"
  requireTerminalSuccess state goalId
  refuse ((state.reservations.map Prod.snd).find? (unresolvedFor goalId)) fun reservation =>
    s!"goal {goalId} has unresolved effect {reservation.reservationId}"
  refuse ((state.workers.map Prod.snd).find? (incompleteFor goalId)) fun worker =>
    s!"goal {goalId} has incomplete required worker {worker.workerId}"
  return leaveFocus state goal goalId .completed none

/-- A checkpoint may follow the current one of its goal. -/
def requireAdvance (current : ProgramFlowCheckpoint) (checkpoint : FlowCheckpoint) :
    Except String Unit := do
  require (decide (current.status ≠ .completed ∧ current.status ≠ .failed))
    "terminal flow checkpoint cannot advance"
  require (decide (current.flowId = checkpoint.flowId ∧ current.flowVersion = checkpoint.flowVersion))
    "flow identity cannot change within a goal"
  require (decide (current.flowRevision < checkpoint.flowRevision)) "flow revision must increase"

def recordCheckpoint (checkpoint : FlowCheckpoint) : Except String MutableProjection := do
  let _ ← requireFocusedGoal state checkpoint.goalId "flow checkpoint"
  require (decide (checkpoint.capabilityEpoch = state.capabilityEpoch))
    "flow checkpoint capability epoch is stale"
  match state.flowCheckpoints.lookup checkpoint.goalId with
  | none => .ok ()
  | some current => requireAdvance current checkpoint
  return { state with
    flowCheckpoints :=
      setField state.flowCheckpoints checkpoint.goalId { checkpoint with sequence } }

/-! ## Obligations -/

def openObligation (opening : ObligationOpening) : Except String MutableProjection := do
  require (!hasField state.obligations opening.obligationId)
    s!"obligation {opening.obligationId} already exists"
  let named := opening.goalId.getD "null"
  require (opening.goalId.all fun goalId => hasField state.goals goalId)
    s!"obligation references missing goal {named}"
  return { state with
    obligations := setField state.obligations opening.obligationId { opening with
        status := .opened, openedSequence := sequence, settledSequence := none,
        evidenceSha256 := none } }

def settledAs : ObligationDisposition → ObligationStatus
  | .satisfied => .satisfied
  | .waived => .waived

def settleObligation (obligationId : String) (disposition : ObligationDisposition)
    (evidenceSha256 : String) : Except String MutableProjection :=
  match state.obligations.lookup obligationId with
  | none => .error s!"obligation {obligationId} is not open"
  | some obligation => do
      require (decide (obligation.status = .opened)) s!"obligation {obligationId} is not open"
      return { state with
        obligations := setField state.obligations obligationId { obligation with
            status := settledAs disposition, settledSequence := some sequence,
            evidenceSha256 := some evidenceSha256 } }

/-! ## Capabilities and actions -/

def advanceCapabilityEpoch (expectedEpoch epoch : Nat) (capabilities : List String) :
    Except String MutableProjection := do
  require state.focusedGoalId.isSome "capabilities require a focused goal"
  require (decide (expectedEpoch = state.capabilityEpoch ∧ epoch = state.capabilityEpoch + 1))
    "capability epoch is stale or non-contiguous"
  return { revokeReservedActions state with
    capabilityEpoch := epoch
    capabilityGoalId := state.focusedGoalId
    capabilities := sortIds capabilities }

def reserveAction (expectedRevision : Nat) (reservation : ActionReservation) :
    Except String MutableProjection := do
  let _ ← requireFocusedGoal state reservation.goalId "action reservation"
  require (decide (reservation.authorityRevision = expectedRevision))
    "action reservation authority revision is stale"
  require (decide (reservation.capabilityEpoch = state.capabilityEpoch))
    "action reservation capability epoch is stale"
  require (decide (state.capabilityGoalId = some reservation.goalId))
    "action capability frontier belongs to another goal"
  require (state.capabilities.contains reservation.action)
    s!"action {reservation.action} is not currently capable"
  require (!hasField state.reservations reservation.reservationId)
    s!"reservation {reservation.reservationId} already exists"
  refuse ((state.idempotencyKeys.lookup reservation.idempotencyKey).filter (· ≠ "")) fun prior =>
    s!"idempotency key already belongs to reservation {prior}"
  return { state with
    reservations := setField state.reservations reservation.reservationId
      { reservation with reservedSequence := sequence, status := .reserved, receiptId := none }
    idempotencyKeys :=
      setField state.idempotencyKeys reservation.idempotencyKey reservation.reservationId }

def settledStatus : ReceiptStatus → ReservationStatus
  | .succeeded => .succeeded
  | .failed => .failed
  | .indeterminate => .indeterminate
  | .compensated => .compensated

def recordReceipt (receipt : ActionReceipt) : Except String MutableProjection := do
  require (!hasField state.receipts receipt.receiptId) s!"receipt {receipt.receiptId} already exists"
  match state.reservations.lookup receipt.reservationId with
  | none => .error s!"reservation {receipt.reservationId} is not unsettled"
  | some reservation => do
      require (decide (reservation.status = .reserved))
        s!"reservation {receipt.reservationId} is not unsettled"
      return { state with
        reservations := setField state.reservations receipt.reservationId { reservation with
            status := settledStatus receipt.status, receiptId := some receipt.receiptId }
        receipts := setField state.receipts receipt.receiptId { receipt with sequence } }

/-! ## Workers -/

/-- The fact has the revision that the dependency names. -/
def isCurrent (facts : List (String × ProgramFact)) (dependency : FactDependency) : Bool :=
  decide ((facts.lookup dependency.key).map ProgramFact.revision = some dependency.revision)

def spawnWorker (spawn : WorkerSpawn) : Except String MutableProjection := do
  let _ ← requireFocusedGoal state spawn.goalId "worker spawn"
  require (!hasField state.workers spawn.workerId) s!"worker {spawn.workerId} already exists"
  require (decide (spawn.capabilityEpoch = state.capabilityEpoch)) "worker capability epoch is stale"
  require (decide (state.capabilityGoalId = some spawn.goalId))
    "worker capability frontier belongs to another goal"
  refuse (spawn.dependencies.find? fun dependency => !isCurrent state.facts dependency)
    fun dependency => s!"worker dependency {dependency.key} is stale"
  return { state with
    workers := setField state.workers spawn.workerId
      { workerId := spawn.workerId
        goalId := spawn.goalId
        purpose := spawn.purpose
        capabilityEpoch := spawn.capabilityEpoch
        dependencies := spawn.dependencies
        requiredForGoalCompletion := spawn.requiredForGoalCompletion.getD false
        spawnedSequence := sequence
        status := .running } }

/-- Why a delivery is rejected, if it is. -/
def rejectionReason (worker : Option ProgramWorker) (delivery : WorkerDelivery) : Option String :=
  match worker with
  | none => some "worker is missing or no longer running"
  | some worker =>
    if worker.status ≠ .running then some "worker is missing or no longer running"
    else if delivery.goalId ≠ worker.goalId then some "goal binding changed"
    else if (state.goals.lookup worker.goalId).map ProgramGoal.status ≠ some .focused ∨
        state.focusedGoalId ≠ some worker.goalId then
      some "worker goal is no longer focused"
    else if delivery.capabilityEpoch ≠ worker.capabilityEpoch ∨
        delivery.capabilityEpoch ≠ state.capabilityEpoch then
      some "capability epoch changed"
    else if state.capabilityGoalId ≠ some delivery.goalId then
      some "capability frontier belongs to another goal"
    else if dependenciesEqual delivery.dependencyFactRevisions worker.dependencies = false then
      some "dependency declaration changed"
    else if worker.dependencies.any (fun dependency => !isCurrent state.facts dependency) then
      some "dependency fact revision changed"
    else none

def dispositionOf (reason : Option String) : DeliveryDisposition :=
  if reason.isNone then .accepted else .rejected

def deliveredAs : DeliveryDisposition → WorkerStatus
  | .accepted => .delivered
  | .rejected => .superseded

/-- The status of a known worker follows the disposition, whatever it was before. -/
def recordDelivery (delivery : WorkerDelivery) : Except String MutableProjection := do
  require (!hasField state.deliveries delivery.deliveryId)
    s!"delivery {delivery.deliveryId} already exists"
  let worker := state.workers.lookup delivery.workerId
  let reason := rejectionReason state worker delivery
  let disposition := dispositionOf reason
  return { state with
    deliveries := setField state.deliveries delivery.deliveryId
      ⟨delivery.deliveryId, delivery.workerId, delivery.goalId, delivery.resultSha256, disposition,
        reason, sequence⟩
    workers :=
      match worker with
      | none => state.workers
      | some worker => setField state.workers delivery.workerId
          { worker with status := deliveredAs disposition } }

def cancelWorker (workerId : String) : Except String MutableProjection :=
  match state.workers.lookup workerId with
  | none => .error s!"worker {workerId} is not running"
  | some worker => do
      require (decide (worker.status = .running)) s!"worker {workerId} is not running"
      return { state with
        workers := setField state.workers workerId { worker with status := .cancelled } }

/-! ## Audible responses -/

def registerResponse (responseId : String) (generatedThroughMs : Nat)
    (contentSha256 evidenceSha256 : String) : Except String MutableProjection := do
  require (!hasField state.audibility responseId) s!"response {responseId} already exists"
  return { state with
    audibility := setField state.audibility responseId
      { responseId
        generatedThroughMs
        releasedThroughMs := 0
        heardThroughMs := 0
        interrupted := false
        interruptionReason := none
        contentSha256
        generationEvidenceSha256 := evidenceSha256
        releaseEvidenceSha256 := none
        heardEvidenceSha256 := none
        interruptionEvidenceSha256 := none
        sequence } }

/-- A registered response that is not interrupted. -/
def requireResponse (responseId interrupted : String) : Except String MutableAudibility :=
  match state.audibility.lookup responseId with
  | none => .error s!"response {responseId} is not registered"
  | some response => do
      require (!response.interrupted) interrupted
      return response

def releaseThrough (responseId : String) (throughMs : Nat) (evidenceSha256 : String) :
    Except String MutableProjection := do
  let response ← requireResponse state responseId "interrupted response cannot release more audio"
  require (decide (response.releasedThroughMs ≤ throughMs ∧ throughMs ≤ response.generatedThroughMs))
    "released audio boundary is non-monotonic or exceeds generation"
  return { state with
    audibility := setField state.audibility responseId { response with
        releasedThroughMs := throughMs, releaseEvidenceSha256 := some evidenceSha256, sequence } }

def hearThrough (responseId : String) (throughMs : Nat) (evidenceSha256 : String) :
    Except String MutableProjection := do
  let response ←
    requireResponse state responseId "interrupted response cannot advance caller playback"
  require (decide (response.heardThroughMs ≤ throughMs ∧ throughMs ≤ response.releasedThroughMs))
    "heard audio boundary is non-monotonic or exceeds released audio"
  return { state with
    audibility := setField state.audibility responseId { response with
        heardThroughMs := throughMs, heardEvidenceSha256 := some evidenceSha256, sequence } }

def interruptResponse (responseId : String) (heardThroughMs : Nat)
    (reason evidenceSha256 : String) : Except String MutableProjection := do
  let response ← requireResponse state responseId "response is already interrupted"
  require (decide (response.heardThroughMs ≤ heardThroughMs ∧
      heardThroughMs ≤ response.releasedThroughMs))
    "interruption heard boundary must be within released audio"
  return { state with
    audibility := setField state.audibility responseId { response with
        heardThroughMs
        heardEvidenceSha256 := some evidenceSha256
        interrupted := true
        interruptionReason := some reason
        interruptionEvidenceSha256 := some evidenceSha256
        sequence } }

end Apply

/-- The payload of an event, applied at its position. -/
def applyPayload (state : MutableProjection) (sequence expectedRevision : Nat) :
    ConversationProgramEventPayload → Except String MutableProjection
  | .factAsserted key value authority => assertFact state sequence key value authority
  | .factCorrected key value expectedFactRevision authority =>
    correctFact state sequence key value expectedFactRevision authority
  | .goalOpened goalId description => openGoal state sequence goalId description
  | .goalFocused goalId => focusGoal state goalId
  | .goalSuspended goalId reason => suspendGoal state goalId reason
  | .goalCompleted goalId => completeGoal state goalId
  | .flowCheckpointRecorded checkpoint => recordCheckpoint state sequence checkpoint
  | .obligationOpened opening => openObligation state sequence opening
  | .obligationSettled obligationId disposition evidenceSha256 =>
    settleObligation state sequence obligationId disposition evidenceSha256
  | .capabilityEpochAdvanced expectedEpoch epoch capabilities _ =>
    advanceCapabilityEpoch state expectedEpoch epoch capabilities
  | .actionReserved reservation => reserveAction state sequence expectedRevision reservation
  | .actionReceiptRecorded receipt => recordReceipt state sequence receipt
  | .workerSpawned spawn => spawnWorker state sequence spawn
  | .workerDeliveryRecorded delivery => recordDelivery state sequence delivery
  | .workerCancelled workerId _ => cancelWorker state workerId
  | .audibilityResponseRegistered responseId generatedThroughMs contentSha256 evidenceSha256 =>
    registerResponse state sequence responseId generatedThroughMs contentSha256 evidenceSha256
  | .audibilityReleasedThrough responseId throughMs evidenceSha256 =>
    releaseThrough state sequence responseId throughMs evidenceSha256
  | .audibilityHeardThrough responseId throughMs evidenceSha256 =>
    hearThrough state sequence responseId throughMs evidenceSha256
  | .audibilityInterrupted responseId heardThroughMs reason evidenceSha256 =>
    interruptResponse state sequence responseId heardThroughMs reason evidenceSha256

def applyEvent (state : MutableProjection) (event : ConversationProgramEvent) :
    Except String MutableProjection := do
  require (decide (event.expectedRevision + 1 = event.sequence))
    s!"event {event.eventId} has a stale program revision"
  applyPayload state event.sequence event.expectedRevision event.payload

/-- The state that a list of events leads to. -/
def replayEvents (events : List ConversationProgramEvent) : Except String MutableProjection :=
  replay applyEvent emptyProjection events

/-! ## The log -/

variable (sha256 : String → String)

/-- The checks of one event after another, each in its parsed form. -/
def validateFrom (programId : String) : Nat → String → List String → MutableProjection →
    List ConversationProgramEvent → Except String Unit
  | _, _, _, _, [] => .ok ()
  | index, previousSha256, seen, state, candidate :: rest => do
      let event := candidate.normalized
      require (ConversationProgramEventSchema event) "invalid conversation program event"
      require (decide (event.programId = programId))
        s!"event {event.eventId} belongs to another program"
      require (decide (event.sequence = index + 1))
        s!"event {event.eventId} has a non-contiguous sequence"
      require (decide (event.previousSha256 = previousSha256))
        s!"event {event.eventId} breaks the hash chain"
      require (!seen.contains event.eventId) s!"duplicate event id {event.eventId}"
      require (decide (eventDigest sha256 event = event.eventSha256))
        s!"event {event.eventId} has an invalid digest"
      let next ← applyEvent state event
      validateFrom programId (index + 1) event.eventSha256 (event.eventId :: seen) next rest

def validateConversationProgramLog (log : ConversationProgramLog) : Except String Unit := do
  require (decide (log.schemaVersion = CONVERSATION_PROGRAM_VERSION))
    "unsupported conversation program version"
  require (IdSchema log.programId) "invalid program id"
  validateFrom sha256 log.programId 0 CONVERSATION_PROGRAM_GENESIS_SHA256 [] emptyProjection
    log.events

/-- The digest of the last event. -/
def logHead (events : List ConversationProgramEvent) : String :=
  (events.getLast?.map ConversationProgramEvent.eventSha256).getD
    CONVERSATION_PROGRAM_GENESIS_SHA256

/-- The event that a parsed draft becomes at the end of the log. -/
def signEvent (programId : String) (events : List ConversationProgramEvent)
    (draft : ConversationProgramEventDraft) : ConversationProgramEvent :=
  let unsigned : ConversationProgramEvent :=
    { schemaVersion := CONVERSATION_PROGRAM_VERSION
      programId
      sequence := events.length + 1
      previousSha256 := logHead events
      eventId := draft.eventId
      expectedRevision := draft.expectedRevision
      occurredAt := draft.occurredAt
      payload := draft.payload
      eventSha256 := "" }
  { unsigned with eventSha256 := eventDigest sha256 unsigned }

/-- A log while drafts are appended to it. -/
structure Extension where
  state : MutableProjection
  events : List ConversationProgramEvent
  appended : Bool

def appendDraft (programId : String) (extension : Extension)
    (input : ConversationProgramEventDraft) : Except String Extension := do
  let draft := input.normalized
  require (ConversationProgramEventDraftSchema draft) "invalid conversation program event draft"
  match extension.events.find? fun event => event.eventId = draft.eventId with
  | some existing => do
      require (decide (existing.draft.toValue.text = draft.toValue.text))
        s!"conflicting replay for event {draft.eventId}"
      return extension
  | none => do
      require (decide (draft.expectedRevision = extension.events.length))
        s!"stale program revision: expected {extension.events.length}, received {draft.expectedRevision}"
      let event := (signEvent sha256 programId extension.events draft).normalized
      require (ConversationProgramEventSchema event) "invalid conversation program event"
      require (decide (utf8Bytes event.toValue.text ≤ MAX_EVENT_BYTES))
        s!"event {event.eventId} exceeds {MAX_EVENT_BYTES} bytes"
      let next ← applyEvent extension.state event
      return ⟨next, extension.events ++ [event], true⟩

def appendConversationProgramEvents (log : ConversationProgramLog)
    (drafts : List ConversationProgramEventDraft) : Except String ConversationProgramLog := do
  validateConversationProgramLog sha256 log
  let state ← replayEvents log.events
  let extension ← replay (appendDraft sha256 log.programId) ⟨state, log.events, false⟩ drafts
  return if extension.appended then
    ⟨CONVERSATION_PROGRAM_VERSION, log.programId, extension.events⟩ else log

def appendConversationProgramEvent (log : ConversationProgramLog)
    (draft : ConversationProgramEventDraft) : Except String ConversationProgramLog :=
  appendConversationProgramEvents sha256 log [draft]

/-! ## Folding -/

structure ProgramAudibilityFact extends MutableAudibility where
  unheardMs : Nat
  fullyHeard : Bool

def audibilityFact (response : MutableAudibility) : ProgramAudibilityFact :=
  { response with
    unheardMs := response.generatedThroughMs - response.heardThroughMs
    fullyHeard := decide (response.heardThroughMs = response.generatedThroughMs) }

structure ConversationProgramProjection where
  programId : String
  revision : Nat
  headSha256 : String
  facts : List ProgramFact
  goals : List ProgramGoal
  focusedGoal : Option ProgramGoal
  flowCheckpoints : List ProgramFlowCheckpoint
  obligations : List ProgramObligation
  capabilityEpoch : Nat
  capabilityGoalId : Option String
  capabilities : List String
  actionReservations : List ProgramActionReservation
  actionReceipts : List ProgramActionReceipt
  workers : List ProgramWorker
  workerDeliveries : List ProgramWorkerDelivery
  audibilityFacts : List ProgramAudibilityFact

/-- The projection that callers read. -/
def project (log : ConversationProgramLog) (state : MutableProjection) :
    ConversationProgramProjection :=
  let goals := sortBy ProgramGoal.goalId (state.goals.map Prod.snd)
  { programId := log.programId
    revision := log.events.length
    headSha256 := logHead log.events
    facts := sortBy ProgramFact.key (state.facts.map Prod.snd)
    goals
    focusedGoal := (state.focusedGoalId.filter (· ≠ "")).bind fun goalId =>
      goals.find? fun goal => goal.goalId = goalId
    flowCheckpoints := sortBy (·.goalId) (state.flowCheckpoints.map Prod.snd)
    obligations := sortBy (·.obligationId) (state.obligations.map Prod.snd)
    capabilityEpoch := state.capabilityEpoch
    capabilityGoalId := state.capabilityGoalId
    capabilities := state.capabilities
    actionReservations := sortBy (·.reservationId) (state.reservations.map Prod.snd)
    actionReceipts := sortBy (·.receiptId) (state.receipts.map Prod.snd)
    workers := sortBy ProgramWorker.workerId (state.workers.map Prod.snd)
    workerDeliveries := sortBy ProgramWorkerDelivery.deliveryId (state.deliveries.map Prod.snd)
    audibilityFacts := (sortBy MutableAudibility.responseId (state.audibility.map Prod.snd)).map
      audibilityFact }

def foldConversationProgram (log : ConversationProgramLog) :
    Except String ConversationProgramProjection := do
  validateConversationProgramLog sha256 log
  let state ← replayEvents log.events
  return project log state

end CallCenter.ProgramReducer
