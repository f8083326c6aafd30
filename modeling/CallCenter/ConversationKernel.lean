import CallCenter.ConversationEvents
import CallCenter.Replays

/-!
# The conversation kernel

Durable state of a conversation is rebuilt from its log: `applyEvent` applies one event to
the state, or throws if the event does not fit it, and `foldConversation` replays the whole
log after its hash chain has been checked. `appendConversationEvents` validates and
replays a log once and then extends it draft by draft; a draft that is already in the log
is skipped if it is the same and refused otherwise.
-/

namespace CallCenter.ConversationKernel

open JsonValues ObjectFields Guards Replays ConversationEvents

def MAX_ACTIVE_WORKERS_PER_GOAL : Nat := 8

/-! ## State -/

structure AuthoritativeFact where
  key : String
  value : Value
  revision : Nat
  authority : AuthorityStamp
  sequence : Nat

inductive ConversationGoalStatus where
  | active
  | completed
  | suspended
deriving DecidableEq

structure ConversationGoal where
  goalId : String
  description : String
  activatedSequence : Nat
  status : ConversationGoalStatus

structure ConversationCommitment where
  commitmentId : String
  goalId : String
  description : String
  openedSequence : Nat
  resolution : Option String
  resolvedSequence : Option Nat

structure ConversationPolicy where
  epoch : Nat
  invariants : List PolicyInvariant

structure FlowCheckpointRecord where
  checkpoint : FlowCheckpoint
  sequence : Nat

inductive WorkerStatus where
  | running
  | completed
  | cancelled
  | failed
  | indeterminate
  | superseded
deriving DecidableEq

def WorkerStatus.name : WorkerStatus → String
  | .running => "running"
  | .completed => "completed"
  | .cancelled => "cancelled"
  | .failed => "failed"
  | .indeterminate => "indeterminate"
  | .superseded => "superseded"

structure WorkerRecord where
  workerId : String
  goalId : String
  purpose : String
  policyEpoch : Nat
  dependencies : List FactDependency
  spawnedSequence : Nat
  status : WorkerStatus

inductive DeliveryStatus where
  | accepted
  | deferred
  | rejected
  | duplicate
deriving DecidableEq

structure WorkerDeliveryRecord where
  deliveryId : String
  workerId : String
  eventId : String
  status : DeliveryStatus
  reason : Option String
  appliedSequence : Option Nat
  logicalHash : String

/-- What was decided about a delivery, with the hash of its content. -/
structure LogicalDelivery where
  hash : String
  status : DeliveryStatus

structure AcceptedWorkerFact where
  key : String
  value : Value
  evidenceId : String
  workerId : String
  deliveryId : String
  goalId : String
  policyEpoch : Nat
  dependencyFactRevisions : List FactDependency
  acceptedSequence : Nat

inductive AdvisorySource where
  | model
  | worker

def AdvisorySource.name : AdvisorySource → String
  | .model => "model"
  | .worker => "worker"

structure AdvisoryEpisode where
  episodeId : String
  text : String
  source : AdvisorySource
  sequence : Nat

/-- The state while events are applied. Maps keep the order of insertion. -/
structure MutableState where
  facts : List (String × AuthoritativeFact)
  goals : List (String × ConversationGoal)
  currentGoalId : Option String
  commitments : List (String × ConversationCommitment)
  policy : ConversationPolicy
  flowCheckpoints : List (String × FlowCheckpointRecord)
  workers : List (String × WorkerRecord)
  deliveries : List WorkerDeliveryRecord
  logicalDeliveries : List (String × LogicalDelivery)
  acceptedWorkerFacts : List AcceptedWorkerFact
  advisories : List AdvisoryEpisode

def emptyMutableState : MutableState where
  facts := []
  goals := []
  currentGoalId := none
  commitments := []
  policy := ⟨0, []⟩
  flowCheckpoints := []
  workers := []
  deliveries := []
  logicalDeliveries := []
  acceptedWorkerFacts := []
  advisories := []

/-! ## Facts, goals, commitments and policies -/

section Apply
variable (state : MutableState) (sequence : Nat)

def assertFact (key : String) (value : Value) (authority : AuthorityStamp) :
    Except String MutableState := do
  require (!hasField state.facts key) s!"fact {key} already exists; use fact.corrected"
  return { state with facts := setField state.facts key ⟨key, value, 1, authority, sequence⟩ }

def correctFact (key : String) (value : Value) (expectedRevision revision : Nat)
    (authority : AuthorityStamp) : Except String MutableState :=
  match state.facts.lookup key with
  | none => .error s!"cannot correct missing fact {key}"
  | some prior => do
      require (decide (prior.revision = expectedRevision ∧ revision = prior.revision + 1))
        s!"fact {key} correction revision is stale or non-contiguous"
      return { state with
        facts := setField state.facts key ⟨key, value, revision, authority, sequence⟩ }

/-- An active goal that is left for another one is suspended. -/
def suspendCurrent (goals : List (String × ConversationGoal)) (current : Option String) :
    List (String × ConversationGoal) :=
  match current.filter (· ≠ "") with
  | none => goals
  | some goalId =>
    match goals.lookup goalId with
    | none => goals
    | some prior =>
      if prior.status = .active then setField goals goalId { prior with status := .suspended }
      else goals

def activateGoal (goalId description : String) : Except String MutableState := do
  require (!hasField state.goals goalId) s!"goal {goalId} already exists"
  return { state with
    goals := setField (suspendCurrent state.goals state.currentGoalId) goalId
      ⟨goalId, description, sequence, .active⟩
    currentGoalId := some goalId }

/-- The current goal is completed or suspended. -/
def leaveGoal (goalId : String) (status : ConversationGoalStatus) : Except String MutableState :=
  match state.goals.lookup goalId with
  | none => .error s!"goal {goalId} is not the active goal"
  | some goal => do
      require (decide (goal.status = .active ∧ state.currentGoalId = some goalId))
        s!"goal {goalId} is not the active goal"
      return { state with
        goals := setField state.goals goalId { goal with status }
        currentGoalId := none }

def resumeGoal (goalId : String) : Except String MutableState :=
  match state.goals.lookup goalId with
  | none => .error s!"goal {goalId} is not suspended"
  | some goal => do
      require (decide (goal.status = .suspended)) s!"goal {goalId} is not suspended"
      require (state.currentGoalId.filter (· ≠ "")).isNone
        s!"cannot resume goal {goalId} while another goal is active"
      return { state with
        goals := setField state.goals goalId { goal with status := .active }
        currentGoalId := some goalId }

def openCommitment (commitmentId goalId description : String) : Except String MutableState := do
  require (!hasField state.commitments commitmentId) s!"commitment {commitmentId} already exists"
  require (hasField state.goals goalId) s!"commitment references missing goal {goalId}"
  return { state with
    commitments := setField state.commitments commitmentId
      ⟨commitmentId, goalId, description, sequence, none, none⟩ }

def resolveCommitment (commitmentId resolution : String) : Except String MutableState :=
  match state.commitments.lookup commitmentId with
  | none => .error s!"commitment {commitmentId} is not open"
  | some commitment => do
      require commitment.resolution.isNone s!"commitment {commitmentId} is not open"
      return { state with
        commitments := setField state.commitments commitmentId
          { commitment with resolution := some resolution, resolvedSequence := some sequence } }

def advancePolicy (epoch : Nat) (invariants : List PolicyInvariant) :
    Except String MutableState := do
  require (decide (epoch = state.policy.epoch + 1)) "policy epoch must advance exactly once"
  return { state with policy := ⟨epoch, invariants⟩ }

/-- A checkpoint may follow the earlier one of its goal. -/
def requireAdvance (prior checkpoint : FlowCheckpoint) : Except String Unit := do
  require (decide (prior.status ≠ .completed ∧ prior.status ≠ .failed))
    "terminal flow checkpoint cannot advance"
  require (decide (checkpoint.runtimeDigest = prior.runtimeDigest))
    "flow runtime digest cannot change within a goal"
  require (decide (prior.flowRevision < checkpoint.flowRevision))
    "flow revision must advance monotonically"
  require (decide (prior.capabilityEpoch ≤ checkpoint.capabilityEpoch))
    "flow capability epoch cannot move backwards"

def recordCheckpoint (checkpoint : FlowCheckpoint) : Except String MutableState := do
  require (decide (some checkpoint.goalId = state.currentGoalId))
    "flow checkpoint must bind to the current goal"
  match state.flowCheckpoints.lookup checkpoint.goalId with
  | none => .ok ()
  | some prior => requireAdvance prior.checkpoint checkpoint
  return { state with
    flowCheckpoints := setField state.flowCheckpoints checkpoint.goalId ⟨checkpoint, sequence⟩ }

/-! ## Workers -/

/-- The worker runs for the goal. -/
def runsFor (goalId : String) (worker : WorkerRecord) : Bool :=
  decide (worker.goalId = goalId) && decide (worker.status = .running)

/-- The fact has the revision that the dependency names. -/
def isCurrent (facts : List (String × AuthoritativeFact)) (dependency : FactDependency) : Bool :=
  decide ((facts.lookup dependency.key).map AuthoritativeFact.revision = some dependency.revision)

/-- The first dependency that is not current throws. -/
def requireCurrent (facts : List (String × AuthoritativeFact)) :
    List FactDependency → Except String Unit
  | [] => .ok ()
  | dependency :: rest => do
      require (isCurrent facts dependency) s!"worker dependency {dependency.key} is not current"
      requireCurrent facts rest

def spawnWorker (spawn : WorkerSpawn) : Except String MutableState := do
  require (!hasField state.workers spawn.workerId) s!"worker {spawn.workerId} already exists"
  require (decide (state.currentGoalId = some spawn.goalId)) "worker must bind to the current goal"
  require (decide (spawn.policyEpoch = state.policy.epoch))
    "worker must bind to the current policy epoch"
  require (decide (((state.workers.map Prod.snd).filter (runsFor spawn.goalId)).length
      < MAX_ACTIVE_WORKERS_PER_GOAL))
    s!"goal cannot have more than {MAX_ACTIVE_WORKERS_PER_GOAL} active workers"
  requireCurrent state.facts spawn.dependencies
  return { state with
    workers := setField state.workers spawn.workerId
      ⟨spawn.workerId, spawn.goalId, spawn.purpose, spawn.policyEpoch, spawn.dependencies,
        sequence, .running⟩ }

/-- A running worker ends without a result. -/
def endWorker (workerId : String) (status : WorkerStatus) : Except String MutableState :=
  match state.workers.lookup workerId with
  | none => .error s!"worker {workerId} is not running"
  | some worker => do
      require (decide (worker.status = .running)) s!"worker {workerId} is not running"
      return { state with workers := setField state.workers workerId { worker with status } }

def finishedAs : FinishStatus → WorkerStatus
  | .failed => .failed
  | .cancelled => .cancelled
  | .indeterminate => .indeterminate

/-! ## Deliveries -/

def normalizeDependencies (items : List FactDependency) : List FactDependency :=
  items.insertionSort fun left right => unitsLe (utf16 left.key) (utf16 right.key) = true

def dependenciesText (items : List FactDependency) : String :=
  (Value.array ((normalizeDependencies items).map FactDependency.toValue)).text

def dependenciesMatch (expected actual : List FactDependency) : Bool :=
  decide (dependenciesText expected = dependenciesText actual)

/-- Whether the result of a worker is applied now, later or never, and why not. -/
def decideDelivery (worker : Option WorkerRecord) (result : WorkerResult) :
    DeliveryStatus × Option String :=
  match worker with
  | none => (.rejected, some "worker is missing or not running")
  | some worker =>
    if worker.status ≠ .running then (.rejected, some "worker is missing or not running")
    else if result.goalId ≠ worker.goalId then
      (.rejected, some "delivery goal differs from its worker contract")
    else if (state.goals.lookup worker.goalId).map ConversationGoal.status = some .suspended then
      (.deferred, some "worker goal is suspended")
    else if some result.goalId ≠ state.currentGoalId then
      (.rejected, some "worker goal is no longer active")
    else if result.policyEpoch ≠ worker.policyEpoch ∨ result.policyEpoch ≠ state.policy.epoch then
      (.rejected, some "policy epoch changed while worker was running")
    else if dependenciesMatch result.dependencyFactRevisions worker.dependencies = false then
      (.rejected, some "delivery dependency declaration differs from spawn contract")
    else if worker.dependencies.any (fun dependency => !isCurrent state.facts dependency) then
      (.rejected, some "an authoritative dependency fact changed while worker was running")
    else (.accepted, none)

/-- A fact of an accepted result. -/
def acceptFact (result : WorkerResult) (fact : WorkerFact) : AcceptedWorkerFact :=
  { key := fact.key
    value := fact.value
    evidenceId := fact.evidenceId
    workerId := result.workerId
    deliveryId := result.deliveryId
    goalId := result.goalId
    policyEpoch := result.policyEpoch
    dependencyFactRevisions := result.dependencyFactRevisions
    acceptedSequence := sequence }

def deliveryRecord (eventId : String) (result : WorkerResult) (logicalHash : String)
    (decision : DeliveryStatus × Option String) : WorkerDeliveryRecord :=
  { deliveryId := result.deliveryId
    workerId := result.workerId
    eventId
    status := decision.1
    reason := decision.2
    appliedSequence := if decision.1 = .accepted then some sequence else none
    logicalHash }

/-- Decide a delivery that has no terminal decision yet and carry the decision out. -/
def settleDelivery (eventId : String) (result : WorkerResult) (logicalHash : String) :
    MutableState :=
  let worker := state.workers.lookup result.workerId
  let decision := decideDelivery state worker result
  let recorded :=
    { state with
      logicalDeliveries :=
        setField state.logicalDeliveries result.deliveryId ⟨logicalHash, decision.1⟩
      deliveries := state.deliveries ++
        [deliveryRecord sequence eventId result logicalHash decision] }
  match decision.1, worker with
  | .accepted, some worker =>
    { recorded with
      workers := setField state.workers result.workerId { worker with status := .completed }
      acceptedWorkerFacts :=
        state.acceptedWorkerFacts ++ result.facts.map (acceptFact sequence result)
      advisories := state.advisories ++ result.advisories.map fun advisory =>
        ⟨advisory.episodeId, advisory.text, .worker, sequence⟩ }
  | .rejected, some worker =>
    if worker.status = .running then
      { recorded with
        workers := setField state.workers result.workerId { worker with status := .superseded } }
    else recorded
  | _, _ => recorded

def logicalHashOf (sha256 : String → String) (result : WorkerResult) : String :=
  sha256 (ConversationEventPayload.workerResultDelivered result).toValue.text

/-- A delivery that was decided for good is a duplicate; its content may never change. -/
def deliverResult (sha256 : String → String) (eventId : String) (result : WorkerResult) :
    Except String MutableState :=
  let logicalHash := logicalHashOf sha256 result
  match state.logicalDeliveries.lookup result.deliveryId with
  | none => .ok (settleDelivery state sequence eventId result logicalHash)
  | some prior =>
    if prior.hash ≠ logicalHash then
      .error s!"delivery {result.deliveryId} replay changed content"
    else if prior.status ≠ .deferred then
      .ok { state with
        deliveries := state.deliveries ++ [deliveryRecord sequence eventId result logicalHash
            (.duplicate, some "logical delivery already reached a terminal decision")] }
    else .ok (settleDelivery state sequence eventId result logicalHash)

def recordAdvisory (episodeId summary : String) : MutableState :=
  { state with advisories := state.advisories ++ [⟨episodeId, summary, .model, sequence⟩] }

end Apply

variable (sha256 : String → String)

def applyEvent (state : MutableState) (event : ConversationEvent) : Except String MutableState :=
  match event.payload with
  | .factAsserted key value _ authority => assertFact state event.sequence key value authority
  | .factCorrected key value expectedRevision revision authority =>
    correctFact state event.sequence key value expectedRevision revision authority
  | .goalActivated goalId description => activateGoal state event.sequence goalId description
  | .goalCompleted goalId => leaveGoal state goalId .completed
  | .goalSuspended goalId _ => leaveGoal state goalId .suspended
  | .goalResumed goalId => resumeGoal state goalId
  | .commitmentOpened commitmentId goalId description =>
    openCommitment state event.sequence commitmentId goalId description
  | .commitmentResolved commitmentId resolution =>
    resolveCommitment state event.sequence commitmentId resolution
  | .policyAdvanced epoch invariants => advancePolicy state epoch invariants
  | .flowCheckpointRecorded checkpoint => recordCheckpoint state event.sequence checkpoint
  | .workerSpawned spawn => spawnWorker state event.sequence spawn
  | .workerCancelled workerId _ => endWorker state workerId .cancelled
  | .workerFinished workerId status _ _ => endWorker state workerId (finishedAs status)
  | .workerResultDelivered result => deliverResult state event.sequence sha256 event.eventId result
  | .advisoryRecorded episodeId summary =>
    .ok (recordAdvisory state event.sequence episodeId summary)

/-- The state that a list of events leads to. -/
def replayEvents (events : List ConversationEvent) : Except String MutableState :=
  replay (applyEvent sha256) emptyMutableState events

/-! ## The log -/

def createConversationLog (conversationId : String) : Except String ConversationLog := do
  require (IdSchema conversationId) "invalid conversation id"
  return ⟨CONVERSATION_KERNEL_VERSION, conversationId, []⟩

/-- The checks of one event after another. -/
def validateFrom (conversationId : String) : Nat → String → List String →
    List ConversationEvent → Except String Unit
  | _, _, _, [] => .ok ()
  | index, previousHash, eventIds, event :: rest => do
      require (ConversationEventSchema event) "invalid conversation event"
      require (decide (event.conversationId = conversationId))
        s!"event {event.eventId} belongs to another conversation"
      require (decide (event.sequence = index + 1))
        s!"event {event.eventId} has a non-contiguous sequence"
      require (decide (event.previousHash = previousHash))
        s!"event {event.eventId} breaks the hash chain"
      require (!eventIds.contains event.eventId)
        s!"duplicate event id {event.eventId} exists in the log"
      require (decide (eventHash sha256 event = event.hash))
        s!"event {event.eventId} has an invalid hash"
      validateFrom conversationId (index + 1) event.hash (event.eventId :: eventIds) rest

def validateConversationLog (log : ConversationLog) : Except String Unit := do
  require (decide (log.version = CONVERSATION_KERNEL_VERSION)) "unsupported conversation log version"
  require (IdSchema log.conversationId) "invalid conversation id"
  validateFrom sha256 log.conversationId 0 GENESIS_HASH [] log.events

/-- The hash of the last event. -/
def logHead (events : List ConversationEvent) : String :=
  (events.getLast?.map ConversationEvent.hash).getD GENESIS_HASH

/-- The event that a draft becomes at the end of the log. -/
def signEvent (conversationId : String) (events : List ConversationEvent)
    (draft : ConversationEventDraft) : ConversationEvent :=
  let unsigned : ConversationEvent :=
    { version := CONVERSATION_KERNEL_VERSION
      conversationId
      sequence := events.length + 1
      previousHash := logHead events
      eventId := draft.eventId
      occurredAtMs := draft.occurredAtMs
      payload := draft.payload
      hash := "" }
  { unsigned with hash := eventHash sha256 unsigned }

/-- A log while drafts are appended to it. -/
structure Extension where
  state : MutableState
  events : List ConversationEvent
  appended : Bool

def appendDraft (conversationId : String) (extension : Extension)
    (draft : ConversationEventDraft) : Except String Extension := do
  require (ConversationEventDraftSchema draft) "invalid conversation event draft"
  match extension.events.find? fun event => event.eventId = draft.eventId with
  | some existing => do
      require (decide (existing.draft.toValue.text = draft.toValue.text))
        s!"conflicting replay for event {draft.eventId}"
      return extension
  | none => do
      let event := signEvent sha256 conversationId extension.events draft
      require (ConversationEventSchema event) "invalid conversation event"
      require (decide (utf8Bytes event.toValue.text ≤ MAX_EVENT_BYTES))
        s!"event exceeds {MAX_EVENT_BYTES} bytes"
      let next ← applyEvent sha256 extension.state event
      return ⟨next, extension.events ++ [event], true⟩

def appendConversationEvents (log : ConversationLog) (inputs : List ConversationEventDraft) :
    Except String ConversationLog := do
  validateConversationLog sha256 log
  let state ← replayEvents sha256 log.events
  let extension ← replay (appendDraft sha256 log.conversationId) ⟨state, log.events, false⟩ inputs
  return if extension.appended then { log with events := extension.events } else log

def appendConversationEvent (log : ConversationLog) (input : ConversationEventDraft) :
    Except String ConversationLog :=
  appendConversationEvents sha256 log [input]

/-! ## Folding -/

structure ConversationState where
  facts : List AuthoritativeFact
  goals : List ConversationGoal
  currentGoal : Option ConversationGoal
  commitments : List ConversationCommitment
  policy : ConversationPolicy
  flowCheckpoints : List FlowCheckpointRecord
  currentFlowCheckpoint : Option FlowCheckpointRecord
  workers : List WorkerRecord
  deliveries : List WorkerDeliveryRecord
  acceptedWorkerFacts : List AcceptedWorkerFact
  advisories : List AdvisoryEpisode
  headHash : String
  eventCount : Nat

/-- The values of a map in the order of their identities. -/
def sortById {α : Type} (idOf : α → String) (entries : List (String × α)) : List α :=
  (entries.map Prod.snd).insertionSort fun left right =>
    unitsLe (utf16 (idOf left)) (utf16 (idOf right)) = true

def checkpointGoal (record : FlowCheckpointRecord) : String := record.checkpoint.goalId

/-- The state that callers read. -/
def conversationState (log : ConversationLog) (state : MutableState) : ConversationState :=
  let goals := sortById ConversationGoal.goalId state.goals
  let flowCheckpoints := sortById checkpointGoal state.flowCheckpoints
  let current := state.currentGoalId.filter (· ≠ "")
  { facts := sortById AuthoritativeFact.key state.facts
    goals
    currentGoal := current.bind fun goalId => goals.find? fun goal => goal.goalId = goalId
    commitments := sortById ConversationCommitment.commitmentId state.commitments
    policy := state.policy
    flowCheckpoints
    currentFlowCheckpoint := current.bind fun goalId =>
      flowCheckpoints.find? fun record => checkpointGoal record = goalId
    workers := sortById WorkerRecord.workerId state.workers
    deliveries := state.deliveries
    acceptedWorkerFacts := state.acceptedWorkerFacts
    advisories := state.advisories
    headHash := logHead log.events
    eventCount := log.events.length }

def foldConversation (log : ConversationLog) : Except String ConversationState := do
  validateConversationLog sha256 log
  let state ← replayEvents sha256 log.events
  return conversationState log state

end CallCenter.ConversationKernel
