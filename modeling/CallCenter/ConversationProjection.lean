import CallCenter.ConversationKernel
import CallCenter.Utf16Texts

/-!
# The context that a model sees

`projectConversationContext` turns a folded state into JSON of at most a given number of
bytes. Control state goes in whole or the projection fails; accepted worker facts and
advisories are then added in the order of their priority, each only if it still fits.

The budget is a natural number: the source refuses every number that is not a safe integer.
-/

namespace CallCenter.ConversationProjection

open JsonValues ObjectFields Guards ConversationEvents ConversationKernel Utf16Texts

def MAX_PROJECTED_TERMINAL_WORKERS_PER_GOAL : Nat := 8
def MAX_PROJECTED_WORKER_PURPOSE_BYTES : Nat := 256
def MIN_CONTEXT_BYTES : Nat := 256
def MAX_CONTEXT_BYTES : Nat := 65536

/-! ## Bounded texts -/

/-- The binary search for the longest slice that fits. -/
def searchLength (fits : Nat → Bool) (lower upper : Nat) : Nat :=
  if lower < upper then
    let middle := (lower + upper + 1) / 2
    if fits middle then searchLength fits middle upper else searchLength fits lower (middle - 1)
  else lower
termination_by upper - lower

def boundedUtf8Text (value : String) (maximumBytes : Nat) : String :=
  if utf8Bytes value ≤ maximumBytes then value
  else
    let units := utf16 value
    let length := searchLength
      (fun middle => decide (encodedBytes (units.take middle) ≤ maximumBytes)) 0 units.length
    String.ofList (decodeUnits (dropTrailingHigh (units.take length)))

/-! ## Sections -/

structure ProjectedFact where
  key : String
  value : Value
  revision : Nat

structure ProjectedGoal where
  goalId : String
  description : String

structure ProjectedCommitment where
  commitmentId : String
  goalId : String
  description : String

structure ProjectedWorker where
  workerId : String
  purpose : String
  status : WorkerStatus

structure ProjectedWorkerFact where
  key : String
  value : Value
  evidenceId : String
  workerId : String

structure ProjectedEpisode where
  episodeId : String
  text : String
  source : AdvisorySource

structure ContextProjection where
  policyEpoch : Nat
  invariants : List PolicyInvariant
  authoritativeFacts : List ProjectedFact
  currentGoal : Option ProjectedGoal
  currentFlowCheckpoint : Option FlowCheckpoint
  openCommitments : List ProjectedCommitment
  currentGoalWorkers : List ProjectedWorker
  omittedTerminalWorkerCount : Nat
  acceptedWorkerFacts : List ProjectedWorkerFact
  recentAdvisoryEpisodes : List ProjectedEpisode

structure ProjectedContext where
  value : ContextProjection
  serialized : String
  byteLength : Nat

/-- How a projection fails. -/
inductive ProjectionError where
  | failed (message : String)
  | contextOverflow (byteBudget requiredControlBytes : Nat)

/-! ## JSON -/

def UNTRUSTED_ADVISORY : Value := .string "untrusted_advisory"

def ProjectedFact.toValue (fact : ProjectedFact) : Value :=
  .object [("key", .string fact.key), ("value", fact.value), ("revision", .ofNat fact.revision)]

def ProjectedGoal.toValue (goal : ProjectedGoal) : Value :=
  .object [("goalId", .string goal.goalId), ("description", .string goal.description)]

def ProjectedCommitment.toValue (commitment : ProjectedCommitment) : Value :=
  .object [("commitmentId", .string commitment.commitmentId), ("goalId", .string commitment.goalId),
    ("description", .string commitment.description)]

def ProjectedWorker.toValue (worker : ProjectedWorker) : Value :=
  .object [("workerId", .string worker.workerId), ("purpose", .string worker.purpose),
    ("status", .string worker.status.name), ("purposeTrust", UNTRUSTED_ADVISORY)]

def ProjectedWorkerFact.toValue (fact : ProjectedWorkerFact) : Value :=
  .object [("key", .string fact.key), ("value", fact.value),
    ("evidenceId", .string fact.evidenceId), ("workerId", .string fact.workerId),
    ("valueTrust", UNTRUSTED_ADVISORY), ("citationTrust", UNTRUSTED_ADVISORY)]

def ProjectedEpisode.toValue (episode : ProjectedEpisode) : Value :=
  .object [("episodeId", .string episode.episodeId), ("text", .string episode.text),
    ("source", .string episode.source.name), ("textTrust", UNTRUSTED_ADVISORY)]

def ContextProjection.toValue (projection : ContextProjection) : Value :=
  .object [("schemaVersion", .ofNat 1), ("policyEpoch", .ofNat projection.policyEpoch),
    ("invariants", .array (projection.invariants.map PolicyInvariant.toValue)),
    ("authoritativeFacts", .array (projection.authoritativeFacts.map ProjectedFact.toValue)),
    ("currentGoal", (projection.currentGoal.map ProjectedGoal.toValue).getD .null),
    ("currentFlowCheckpoint", (projection.currentFlowCheckpoint.map fun checkpoint =>
        Value.object checkpoint.fields).getD .null),
    ("openCommitments", .array (projection.openCommitments.map ProjectedCommitment.toValue)),
    ("currentGoalWorkers", .array (projection.currentGoalWorkers.map ProjectedWorker.toValue)),
    ("omittedTerminalWorkerCount", .ofNat projection.omittedTerminalWorkerCount),
    ("acceptedWorkerFacts",
      .array (projection.acceptedWorkerFacts.map ProjectedWorkerFact.toValue)),
    ("recentAdvisoryEpisodes",
      .array (projection.recentAdvisoryEpisodes.map ProjectedEpisode.toValue))]

def projectionBytes (projection : ContextProjection) : Nat := utf8Bytes projection.toValue.text

/-! ## Orders -/

section Orders
variable {α : Type} (sequenceOf : α → Nat) (idOf : α → String)

/-- By sequence, then by identity. -/
def oldestFirst (left right : α) : Bool :=
  decide (sequenceOf left < sequenceOf right)
    || (decide (sequenceOf left = sequenceOf right)
      && unitsLe (utf16 (idOf left)) (utf16 (idOf right)))

/-- By descending sequence, then by identity. -/
def newestFirst (left right : α) : Bool :=
  decide (sequenceOf right < sequenceOf left)
    || (decide (sequenceOf left = sequenceOf right)
      && unitsLe (utf16 (idOf left)) (utf16 (idOf right)))

end Orders

/-! ## Control state -/

section Projection
variable (state : ConversationState)

/-- The projection before anything is added. -/
def envelope : ContextProjection where
  policyEpoch := state.policy.epoch
  invariants := []
  authoritativeFacts := []
  currentGoal := none
  currentFlowCheckpoint := none
  openCommitments := []
  currentGoalWorkers := []
  omittedTerminalWorkerCount := 0
  acceptedWorkerFacts := []
  recentAdvisoryEpisodes := []

def projectFact (fact : AuthoritativeFact) : ProjectedFact := ⟨fact.key, fact.value, fact.revision⟩

def projectGoal (goal : ConversationGoal) : ProjectedGoal := ⟨goal.goalId, goal.description⟩

def projectCommitment (commitment : ConversationCommitment) : ProjectedCommitment :=
  ⟨commitment.commitmentId, commitment.goalId, commitment.description⟩

def projectWorker (worker : WorkerRecord) : ProjectedWorker :=
  ⟨worker.workerId, boundedUtf8Text worker.purpose MAX_PROJECTED_WORKER_PURPOSE_BYTES,
    worker.status⟩

def openCommitments : List ConversationCommitment :=
  (state.commitments.filter fun commitment => commitment.resolution.isNone).insertionSort
    fun left right => oldestFirst ConversationCommitment.openedSequence
      ConversationCommitment.commitmentId left right = true

/-- The workers of the current goal. -/
def goalWorkers : List WorkerRecord :=
  match state.currentGoal with
  | none => []
  | some goal => state.workers.filter fun worker => decide (worker.goalId = goal.goalId)

def activeWorkers : List WorkerRecord :=
  (goalWorkers state).filter fun worker => decide (worker.status = .running)

def terminalWorkers : List WorkerRecord :=
  ((goalWorkers state).filter fun worker => decide (worker.status ≠ .running)).insertionSort
    fun left right => newestFirst WorkerRecord.spawnedSequence WorkerRecord.workerId left right =
      true

/-- The projection with all of the control state. -/
def mandatorySection : ContextProjection :=
  { envelope state with
    invariants := state.policy.invariants
    authoritativeFacts := state.facts.map projectFact
    currentGoal := state.currentGoal.map projectGoal
    currentFlowCheckpoint := state.currentFlowCheckpoint.map FlowCheckpointRecord.checkpoint
    openCommitments := (openCommitments state).map projectCommitment
    currentGoalWorkers := (activeWorkers state ++
      (terminalWorkers state).take MAX_PROJECTED_TERMINAL_WORKERS_PER_GOAL).map projectWorker
    omittedTerminalWorkerCount :=
      (terminalWorkers state).length - MAX_PROJECTED_TERMINAL_WORKERS_PER_GOAL }

/-! ## Optional items -/

/-- The fact was accepted for the current goal, policy and facts. -/
def remainsCurrent (fact : AcceptedWorkerFact) : Bool :=
  decide (some fact.goalId = state.currentGoal.map ConversationGoal.goalId)
    && decide (fact.policyEpoch = state.policy.epoch)
    && fact.dependencyFactRevisions.all fun dependency =>
      decide ((state.facts.find? fun authoritative => authoritative.key = dependency.key).map
        AuthoritativeFact.revision = some dependency.revision)

/-- The last current fact of each key. -/
def latestWorkerFactByKey : List (String × AcceptedWorkerFact) :=
  lastByKey (remainsCurrent state) AcceptedWorkerFact.key state.acceptedWorkerFacts

def prioritizedWorkerFacts : List AcceptedWorkerFact :=
  ((latestWorkerFactByKey state).map Prod.snd).insertionSort fun left right =>
    newestFirst AcceptedWorkerFact.acceptedSequence AcceptedWorkerFact.key left right = true

def prioritizedAdvisories : List AdvisoryEpisode :=
  state.advisories.insertionSort fun left right =>
    newestFirst AdvisoryEpisode.sequence AdvisoryEpisode.episodeId left right = true

def projectWorkerFact (fact : AcceptedWorkerFact) : ProjectedWorkerFact :=
  ⟨fact.key, fact.value, fact.evidenceId, fact.workerId⟩

def projectEpisode (episode : AdvisoryEpisode) : ProjectedEpisode :=
  ⟨episode.episodeId, episode.text, episode.source⟩

/-- A mutation is kept if the projection still fits. -/
def tryOptionalMutation (byteBudget : Nat) (projection mutated : ContextProjection) :
    ContextProjection :=
  if byteBudget < projectionBytes mutated then projection else mutated

def tryWorkerFact (byteBudget : Nat) (projection : ContextProjection) (item : ProjectedWorkerFact) :
    ContextProjection :=
  tryOptionalMutation byteBudget projection
    { projection with acceptedWorkerFacts := projection.acceptedWorkerFacts ++ [item] }

def tryEpisode (byteBudget : Nat) (projection : ContextProjection) (item : ProjectedEpisode) :
    ContextProjection :=
  tryOptionalMutation byteBudget projection
    { projection with recentAdvisoryEpisodes := projection.recentAdvisoryEpisodes ++ [item] }

/-- Worker facts are offered before advisories. -/
def addOptional (byteBudget : Nat) (projection : ContextProjection) : ContextProjection :=
  ((prioritizedAdvisories state).map projectEpisode).foldl (tryEpisode byteBudget)
    (((prioritizedWorkerFacts state).map projectWorkerFact).foldl (tryWorkerFact byteBudget)
      projection)

def projectConversationContext (byteBudget : Nat) : Except ProjectionError ProjectedContext := do
  require (decide (MIN_CONTEXT_BYTES ≤ byteBudget) && decide (byteBudget ≤ MAX_CONTEXT_BYTES))
    (.failed ("context byte budget must be an integer from " ++
      s!"{MIN_CONTEXT_BYTES} to {MAX_CONTEXT_BYTES}"))
  require (decide (projectionBytes (envelope state) ≤ byteBudget))
    (.failed "context byte budget is too small for the kernel envelope")
  require (decide ((activeWorkers state).length ≤ MAX_ACTIVE_WORKERS_PER_GOAL))
    (.failed "conversation state exceeds the active worker invariant")
  let requiredControlBytes := projectionBytes (mandatorySection state)
  require (decide (requiredControlBytes ≤ byteBudget))
    (.contextOverflow byteBudget requiredControlBytes)
  let projection := addOptional state byteBudget (mandatorySection state)
  let serialized := projection.toValue.text
  return ⟨projection, serialized, utf8Bytes serialized⟩

end Projection

end CallCenter.ConversationProjection
