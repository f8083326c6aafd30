import CallCenter.ProgramReducer

/-!
# What one event of a program can do

`PayloadApplies` says, once for each kind of payload, which conditions an applied payload
has met and which state it leaves. Properties of programs are proved from it; where an
event has to be shown applicable, the equivalence of its own function is used.
-/

namespace CallCenter.ProgramTransitions

open JsonValues ObjectFields Guards ProgramEvents ProgramReducer

/-- The goal has the focus. -/
structure HoldsFocus (state : MutableProjection) (goalId : String) (goal : ProgramGoal) : Prop where
  found : state.goals.lookup goalId = some goal
  focused : goal.status = .focused
  current : state.focusedGoalId = some goalId

/-- Nothing keeps the goal from completing. -/
structure Completable (state : MutableProjection) (goalId : String) : Prop where
  unblocked : ∀ field ∈ state.obligations, blocks goalId field.2 = false
  succeeded : ∀ checkpoint, state.flowCheckpoints.lookup goalId = some checkpoint →
    checkpoint.status = .completed ∧ checkpoint.capabilityEpoch = state.capabilityEpoch
  resolved : ∀ field ∈ state.reservations, unresolvedFor goalId field.2 = false
  delivered : ∀ field ∈ state.workers, incompleteFor goalId field.2 = false

/-- The checkpoint may be recorded. -/
structure Recordable (state : MutableProjection) (checkpoint : FlowCheckpoint) : Prop where
  epoch : checkpoint.capabilityEpoch = state.capabilityEpoch
  advances : ∀ current, state.flowCheckpoints.lookup checkpoint.goalId = some current →
    current.status ≠ .completed ∧ current.status ≠ .failed ∧
      current.flowId = checkpoint.flowId ∧ current.flowVersion = checkpoint.flowVersion ∧
      current.flowRevision < checkpoint.flowRevision

/-- The action may be reserved. -/
structure Reservable (state : MutableProjection) (expectedRevision : Nat)
    (reservation : ActionReservation) : Prop where
  authority : reservation.authorityRevision = expectedRevision
  epoch : reservation.capabilityEpoch = state.capabilityEpoch
  frontier : state.capabilityGoalId = some reservation.goalId
  capable : reservation.action ∈ state.capabilities
  fresh : state.reservations.lookup reservation.reservationId = none
  unused : (state.idempotencyKeys.lookup reservation.idempotencyKey).filter (· ≠ "") = none

/-- The worker may be spawned. -/
structure Spawnable (state : MutableProjection) (spawn : WorkerSpawn) : Prop where
  fresh : state.workers.lookup spawn.workerId = none
  epoch : spawn.capabilityEpoch = state.capabilityEpoch
  frontier : state.capabilityGoalId = some spawn.goalId
  dependencies : ∀ dependency ∈ spawn.dependencies, isCurrent state.facts dependency = true

section Transitions
variable (state : MutableProjection) (sequence : Nat)

/-- The worker that a spawn starts. -/
def spawnedWorker (spawn : WorkerSpawn) : ProgramWorker :=
  { workerId := spawn.workerId
    goalId := spawn.goalId
    purpose := spawn.purpose
    capabilityEpoch := spawn.capabilityEpoch
    dependencies := spawn.dependencies
    requiredForGoalCompletion := spawn.requiredForGoalCompletion.getD false
    spawnedSequence := sequence
    status := .running }

/-- The response that a registration starts. -/
def registeredResponse (responseId : String) (generatedThroughMs : Nat)
    (contentSha256 evidenceSha256 : String) : MutableAudibility :=
  { responseId
    generatedThroughMs
    releasedThroughMs := 0
    heardThroughMs := 0
    interrupted := false
    interruptionReason := none
    contentSha256
    generationEvidenceSha256 := evidenceSha256
    releaseEvidenceSha256 := none
    heardEvidenceSha256 := none
    interruptionEvidenceSha256 := none
    sequence }

/-- The state with another table of audible responses. -/
def withResponse (responseId : String) (response : MutableAudibility) : MutableProjection :=
  { state with audibility := setField state.audibility responseId response }

/-- A registered response without interruption. -/
structure Playing (responseId : String) (response : MutableAudibility) : Prop where
  found : state.audibility.lookup responseId = some response
  uninterrupted : response.interrupted = false

/-- How a delivery is decided. -/
def decisionOf (delivery : WorkerDelivery) : Option String :=
  rejectionReason state (state.workers.lookup delivery.workerId) delivery

/-- The workers after a delivery. -/
def workersAfter (delivery : WorkerDelivery) : List (String × ProgramWorker) :=
  match state.workers.lookup delivery.workerId with
  | none => state.workers
  | some worker => setField state.workers delivery.workerId
      { worker with status := deliveredAs (dispositionOf (decisionOf state delivery)) }

/-- The state that a payload leads to, with the conditions under which it is applied. -/
inductive PayloadApplies (expectedRevision : Nat) :
    ConversationProgramEventPayload → MutableProjection → Prop where
  | factAsserted (key : String) (value : Value) (authority : ProgramAuthority)
      (fresh : state.facts.lookup key = none) :
      PayloadApplies expectedRevision (.factAsserted key value authority)
        (invalidateActiveFrontierForFactMutation
          { state with facts := setField state.facts key ⟨key, value, 1, authority, sequence⟩ })
  | factCorrected (key : String) (value : Value) (expectedFactRevision : Nat)
      (authority : ProgramAuthority) (current : ProgramFact)
      (found : state.facts.lookup key = some current)
      (expected : expectedFactRevision = current.revision) :
      PayloadApplies expectedRevision (.factCorrected key value expectedFactRevision authority)
        (invalidateActiveFrontierForFactMutation (supersedeWorkersDependingOnFact { state with
            facts :=
              setField state.facts key ⟨key, value, current.revision + 1, authority, sequence⟩ }
          key))
  | goalOpened (goalId description : String) (fresh : state.goals.lookup goalId = none) :
      PayloadApplies expectedRevision (.goalOpened goalId description) { state with
          goals := setField state.goals goalId ⟨goalId, description, .queued, sequence, 0, none⟩ }
  | goalFocused (goalId : String) (target : ProgramGoal) (goals : List (String × ProgramGoal))
      (found : state.goals.lookup goalId = some target)
      (focusable : target.status = .queued ∨ target.status = .suspended)
      (suspended : suspendPrevious state goalId = .ok goals) :
      PayloadApplies expectedRevision (.goalFocused goalId) (invalidateCapabilityFrontier
          { state with
            goals := setField goals goalId { target with
                status := .focused, focusCount := target.focusCount + 1, suspensionReason := none }
            focusedGoalId := some goalId })
  | goalSuspended (goalId reason : String) (goal : ProgramGoal)
      (focus : HoldsFocus state goalId goal) :
      PayloadApplies expectedRevision (.goalSuspended goalId reason)
        (leaveFocus state goal goalId .suspended (some reason))
  | goalCompleted (goalId : String) (goal : ProgramGoal) (focus : HoldsFocus state goalId goal)
      (completable : Completable state goalId) :
      PayloadApplies expectedRevision (.goalCompleted goalId)
        (leaveFocus state goal goalId .completed none)
  | flowCheckpointRecorded (checkpoint : FlowCheckpoint) (goal : ProgramGoal)
      (focus : HoldsFocus state checkpoint.goalId goal)
      (recordable : Recordable state checkpoint) :
      PayloadApplies expectedRevision (.flowCheckpointRecorded checkpoint) { state with
          flowCheckpoints :=
            setField state.flowCheckpoints checkpoint.goalId { checkpoint with sequence } }
  | obligationOpened (opening : ObligationOpening)
      (fresh : state.obligations.lookup opening.obligationId = none)
      (known : opening.goalId.all (fun goalId => hasField state.goals goalId) = true) :
      PayloadApplies expectedRevision (.obligationOpened opening) { state with
          obligations := setField state.obligations opening.obligationId { opening with
              status := .opened, openedSequence := sequence, settledSequence := none,
              evidenceSha256 := none } }
  | obligationSettled (obligationId : String) (disposition : ObligationDisposition)
      (evidenceSha256 : String) (obligation : ProgramObligation)
      (found : state.obligations.lookup obligationId = some obligation)
      (opened : obligation.status = .opened) :
      PayloadApplies expectedRevision (.obligationSettled obligationId disposition evidenceSha256)
        { state with
          obligations := setField state.obligations obligationId { obligation with
              status := settledAs disposition, settledSequence := some sequence,
              evidenceSha256 := some evidenceSha256 } }
  | capabilityEpochAdvanced (expectedEpoch epoch : Nat) (capabilities : List String)
      (reason goalId : String) (current : state.focusedGoalId = some goalId)
      (expected : expectedEpoch = state.capabilityEpoch)
      (contiguous : epoch = state.capabilityEpoch + 1) :
      PayloadApplies expectedRevision
        (.capabilityEpochAdvanced expectedEpoch epoch capabilities reason)
        { revokeReservedActions state with
          capabilityEpoch := epoch
          capabilityGoalId := some goalId
          capabilities := sortIds capabilities }
  | actionReserved (reservation : ActionReservation) (goal : ProgramGoal)
      (focus : HoldsFocus state reservation.goalId goal)
      (reservable : Reservable state expectedRevision reservation) :
      PayloadApplies expectedRevision (.actionReserved reservation) { state with
          reservations := setField state.reservations reservation.reservationId { reservation with
              reservedSequence := sequence, status := .reserved, receiptId := none }
          idempotencyKeys :=
            setField state.idempotencyKeys reservation.idempotencyKey reservation.reservationId }
  | actionReceiptRecorded (receipt : ActionReceipt) (reservation : ProgramActionReservation)
      (fresh : state.receipts.lookup receipt.receiptId = none)
      (found : state.reservations.lookup receipt.reservationId = some reservation)
      (reserved : reservation.status = .reserved) :
      PayloadApplies expectedRevision (.actionReceiptRecorded receipt) { state with
          reservations := setField state.reservations receipt.reservationId { reservation with
              status := settledStatus receipt.status, receiptId := some receipt.receiptId }
          receipts := setField state.receipts receipt.receiptId { receipt with sequence } }
  | workerSpawned (spawn : WorkerSpawn) (goal : ProgramGoal)
      (focus : HoldsFocus state spawn.goalId goal) (spawnable : Spawnable state spawn) :
      PayloadApplies expectedRevision (.workerSpawned spawn) { state with
          workers := setField state.workers spawn.workerId (spawnedWorker sequence spawn) }
  | workerDeliveryRecorded (delivery : WorkerDelivery)
      (fresh : state.deliveries.lookup delivery.deliveryId = none) :
      PayloadApplies expectedRevision (.workerDeliveryRecorded delivery) { state with
          deliveries := setField state.deliveries delivery.deliveryId
            ⟨delivery.deliveryId, delivery.workerId, delivery.goalId, delivery.resultSha256,
              dispositionOf (decisionOf state delivery), decisionOf state delivery, sequence⟩
          workers := workersAfter state delivery }
  | workerCancelled (workerId reason : String) (worker : ProgramWorker)
      (found : state.workers.lookup workerId = some worker) (running : worker.status = .running) :
      PayloadApplies expectedRevision (.workerCancelled workerId reason) { state with
          workers := setField state.workers workerId { worker with status := .cancelled } }
  | audibilityResponseRegistered (responseId : String) (generatedThroughMs : Nat)
      (contentSha256 evidenceSha256 : String)
      (fresh : state.audibility.lookup responseId = none) :
      PayloadApplies expectedRevision
        (.audibilityResponseRegistered responseId generatedThroughMs contentSha256 evidenceSha256)
        (withResponse state responseId
          (registeredResponse sequence responseId generatedThroughMs contentSha256 evidenceSha256))
  | audibilityReleasedThrough (responseId : String) (throughMs : Nat) (evidenceSha256 : String)
      (response : MutableAudibility) (playing : Playing state responseId response)
      (within : response.releasedThroughMs ≤ throughMs ∧ throughMs ≤ response.generatedThroughMs) :
      PayloadApplies expectedRevision
        (.audibilityReleasedThrough responseId throughMs evidenceSha256)
        (withResponse state responseId { response with
            releasedThroughMs := throughMs, releaseEvidenceSha256 := some evidenceSha256, sequence })
  | audibilityHeardThrough (responseId : String) (throughMs : Nat) (evidenceSha256 : String)
      (response : MutableAudibility) (playing : Playing state responseId response)
      (within : response.heardThroughMs ≤ throughMs ∧ throughMs ≤ response.releasedThroughMs) :
      PayloadApplies expectedRevision (.audibilityHeardThrough responseId throughMs evidenceSha256)
        (withResponse state responseId { response with
            heardThroughMs := throughMs, heardEvidenceSha256 := some evidenceSha256, sequence })
  | audibilityInterrupted (responseId : String) (heardThroughMs : Nat)
      (reason evidenceSha256 : String) (response : MutableAudibility)
      (playing : Playing state responseId response)
      (within : response.heardThroughMs ≤ heardThroughMs ∧
        heardThroughMs ≤ response.releasedThroughMs) :
      PayloadApplies expectedRevision
        (.audibilityInterrupted responseId heardThroughMs reason evidenceSha256)
        (withResponse state responseId { response with
            heardThroughMs
            heardEvidenceSha256 := some evidenceSha256
            interrupted := true
            interruptionReason := some reason
            interruptionEvidenceSha256 := some evidenceSha256
            sequence })

end Transitions

section Inversion
variable {state next : MutableProjection} {sequence expectedRevision : Nat}

variable {α : Type}

@[simp] theorem refuse_ok_iff (found : Option α) (message : α → String) (done : Unit) :
    refuse found message = .ok done ↔ found = none := by
  cases found with
  | none | some item => simp [refuse]

@[simp] theorem hasField_eq_false_iff (fields : List (String × α)) (key : String) :
    hasField fields key = false ↔ fields.lookup key = none := by
  simp [hasField]

theorem requireFocusedGoal_ok_iff (goalId purpose : String) (goal : ProgramGoal) :
    requireFocusedGoal state goalId purpose = .ok goal ↔ HoldsFocus state goalId goal := by
  unfold requireFocusedGoal
  constructor
  · intro returned
    split at returned
    · cases returned
    · next known found =>
      simp only [guarded_ok_iff, Bool.and_eq_true, decide_eq_true_eq, pure_ok_iff] at returned
      obtain ⟨⟨focused, current⟩, rfl⟩ := returned
      exact ⟨found, focused, current⟩
  · intro focus
    simp only [focus.found, guarded_ok_iff, Bool.and_eq_true, decide_eq_true_eq, pure_ok_iff]
    exact ⟨⟨focus.focused, focus.current⟩, trivial⟩

theorem requireTerminalSuccess_ok_iff (goalId : String) (done : Unit) :
    requireTerminalSuccess state goalId = .ok done ↔
      ∀ checkpoint, state.flowCheckpoints.lookup goalId = some checkpoint →
        checkpoint.status = .completed ∧ checkpoint.capabilityEpoch = state.capabilityEpoch := by
  unfold requireTerminalSuccess
  cases state.flowCheckpoints.lookup goalId with
  | none | some checkpoint => simp

theorem completeGoal_ok_iff (goalId : String) : completeGoal state goalId = .ok next ↔
      ∃ goal, HoldsFocus state goalId goal ∧ Completable state goalId ∧
        leaveFocus state goal goalId .completed none = next := by
  simp only [completeGoal, bind_ok_iff, requireFocusedGoal_ok_iff, refuse_ok_iff,
    requireTerminalSuccess_ok_iff, exists_const, pure_ok_iff, List.find?_eq_none,
    List.forall_mem_map, Bool.not_eq_true]
  constructor
  · rintro ⟨goal, focus, unblocked, succeeded, resolved, delivered, changed⟩
    exact ⟨goal, focus, ⟨unblocked, succeeded, resolved, delivered⟩, changed⟩
  · rintro ⟨goal, focus, ⟨unblocked, succeeded, resolved, delivered⟩, changed⟩
    exact ⟨goal, focus, unblocked, succeeded, resolved, delivered, changed⟩

theorem requireResponse_ok_iff (responseId interrupted : String) (response : MutableAudibility) :
    requireResponse state responseId interrupted = .ok response ↔
      Playing state responseId response := by
  unfold requireResponse
  constructor
  · intro returned
    split at returned
    · cases returned
    · next known found =>
      simp only [guarded_ok_iff, Bool.not_eq_true', pure_ok_iff] at returned
      obtain ⟨uninterrupted, rfl⟩ := returned
      exact ⟨found, uninterrupted⟩
  · intro playing
    simp only [playing.found, guarded_ok_iff, Bool.not_eq_true', pure_ok_iff]
    exact ⟨playing.uninterrupted, trivial⟩

/-- The relation covers what the code does. -/
theorem applyPayload_applies {payload : ConversationProgramEventPayload}
    (applied : applyPayload state sequence expectedRevision payload = .ok next) :
    PayloadApplies state sequence expectedRevision payload next := by
  cases payload with simp only [applyPayload, assertFact, openGoal, suspendGoal, recordCheckpoint,
      openObligation, advanceCapabilityEpoch, reserveAction, recordReceipt, spawnWorker,
      recordDelivery, registerResponse, releaseThrough, hearThrough, interruptResponse, bind_ok_iff,
      require_ok_iff, exists_const, requireFocusedGoal_ok_iff, requireResponse_ok_iff, refuse_ok_iff,
      Bool.not_eq_true', Bool.not_eq_false, hasField_eq_false_iff, List.contains_eq_mem,
      List.find?_eq_none, decide_eq_true_eq, pure_ok_iff] at applied
  | factAsserted | goalOpened | workerDeliveryRecorded | audibilityResponseRegistered =>
    obtain ⟨fresh, rfl⟩ := applied
    constructor
    exact fresh
  | factCorrected | obligationSettled | workerCancelled =>
    simp only [correctFact, settleObligation, cancelWorker] at applied
    split at applied
    · cases applied
    · next found =>
      simp only [guarded_ok_iff, decide_eq_true_eq, pure_ok_iff] at applied
      obtain ⟨expected, rfl⟩ := applied
      constructor
      · exact found
      · exact expected
  | goalFocused goalId =>
    unfold focusGoal at applied
    split at applied
    · cases applied
    · next target found =>
      simp only [bind_ok_iff, require_ok_iff, exists_const, decide_eq_true_eq, pure_ok_iff]
        at applied
      obtain ⟨focusable, goals, suspended, rfl⟩ := applied
      exact .goalFocused goalId target goals found focusable suspended
  | goalSuspended goalId reason =>
    obtain ⟨goal, focus, rfl⟩ := applied
    exact .goalSuspended goalId reason goal focus
  | goalCompleted goalId =>
    obtain ⟨goal, focus, completable, rfl⟩ := (completeGoal_ok_iff goalId).mp applied
    exact .goalCompleted goalId goal focus completable
  | flowCheckpointRecorded checkpoint =>
    obtain ⟨goal, focus, epoch, applied⟩ := applied
    cases known : state.flowCheckpoints.lookup checkpoint.goalId with
    | none =>
      simp only [known, pure_ok_iff, bind_ok_iff, exists_const, true_and] at applied
      subst applied
      exact .flowCheckpointRecorded checkpoint goal focus ⟨epoch, by simp [known]⟩
    | some current =>
      simp only [known, bind_ok_iff, pure_ok_iff] at applied
      obtain ⟨_, advances, rfl⟩ := applied
      refine .flowCheckpointRecorded checkpoint goal focus ⟨epoch, ?_⟩
      intro other found
      cases known.symm.trans found
      simpa [requireAdvance, and_assoc] using advances
  | obligationOpened opening =>
    obtain ⟨fresh, known, rfl⟩ := applied
    exact .obligationOpened opening fresh known
  | capabilityEpochAdvanced expectedEpoch epoch capabilities reason =>
    obtain ⟨focused, ⟨expected, contiguous⟩, rfl⟩ := applied
    obtain ⟨goalId, current⟩ := Option.isSome_iff_exists.mp focused
    rw [current]
    exact .capabilityEpochAdvanced expectedEpoch epoch capabilities reason goalId current expected
      contiguous
  | actionReserved reservation =>
    obtain ⟨goal, focus, authority, epoch, frontier, capable, fresh, unused, rfl⟩ := applied
    exact .actionReserved reservation goal focus
      ⟨authority, epoch, frontier, capable, fresh, unused⟩
  | actionReceiptRecorded receipt =>
    obtain ⟨fresh, applied⟩ := applied
    split at applied
    · cases applied
    · next reservation found =>
      simp only [guarded_ok_iff, decide_eq_true_eq, pure_ok_iff] at applied
      obtain ⟨reserved, rfl⟩ := applied
      exact .actionReceiptRecorded receipt reservation fresh found reserved
  | workerSpawned spawn =>
    obtain ⟨goal, focus, fresh, epoch, frontier, dependencies, rfl⟩ := applied
    exact .workerSpawned spawn goal focus ⟨fresh, epoch, frontier, dependencies⟩
  | audibilityReleasedThrough | audibilityHeardThrough | audibilityInterrupted =>
    obtain ⟨response, playing, within, rfl⟩ := applied
    constructor
    · exact playing
    · exact within

/-- An applied event stands at the revision that it expects. -/
theorem applyEvent_ok_iff (event : ConversationProgramEvent) : applyEvent state event = .ok next ↔
      event.expectedRevision + 1 = event.sequence ∧
        applyPayload state event.sequence event.expectedRevision event.payload = .ok next := by
  simp only [applyEvent, guarded_ok_iff, decide_eq_true_eq]

theorem applyEvent_applies {event : ConversationProgramEvent}
    (applied : applyEvent state event = .ok next) :
    PayloadApplies state event.sequence event.expectedRevision event.payload next :=
  applyPayload_applies ((applyEvent_ok_iff event).mp applied).2

end Inversion

/-! ## Frontier -/

section Frontier
variable (state : MutableProjection)

/-- The frontier belongs to a goal or holds capabilities. -/
def FrontierActive : Prop := state.capabilityGoalId ≠ none ∨ state.capabilities ≠ []

/-- A fact mutation withdraws an active frontier and leaves an inactive one alone. -/
theorem invalidateActive_cases : (FrontierActive state ∧
        invalidateActiveFrontierForFactMutation state = invalidateCapabilityFrontier state) ∨
      (¬ FrontierActive state ∧ invalidateActiveFrontierForFactMutation state = state) := by
  unfold invalidateActiveFrontierForFactMutation FrontierActive
  by_cases active : state.capabilityGoalId ≠ none ∨ state.capabilities ≠ []
  · left
    refine ⟨active, if_pos ?_⟩
    simpa [Option.ne_none_iff_isSome] using active
  · right
    refine ⟨active, if_neg ?_⟩
    simpa [Option.ne_none_iff_isSome] using active

/-- What a withdrawal leaves alone, a fact mutation leaves alone. -/
theorem mutation_keeps {β : Type} (view : MutableProjection → β)
    (kept : ∀ before, view (invalidateCapabilityFrontier before) = view before) :
    view (invalidateActiveFrontierForFactMutation state) = view state := by
  rcases invalidateActive_cases state with ⟨-, changed⟩ | ⟨-, unchanged⟩
  · rw [changed]
    exact kept state
  · rw [unchanged]

end Frontier

end CallCenter.ProgramTransitions
