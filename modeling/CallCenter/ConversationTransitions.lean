import CallCenter.ConversationKernel

/-!
# What one event can do

`EventApplies` says, once for each kind of payload, which conditions an event that was
applied has met and which state it leaves. `applyEvent_applies` derives it from the code;
properties of folded conversations are proved from it.
-/

namespace CallCenter.ConversationTransitions

open JsonValues ObjectFields Guards ConversationEvents ConversationKernel

/-- Why a delivery is accepted. -/
structure Acceptable (state : MutableState) (worker : WorkerRecord) (result : WorkerResult) :
    Prop where
  running : worker.status = .running
  goal : result.goalId = worker.goalId
  current : state.currentGoalId = some result.goalId
  contract : result.policyEpoch = worker.policyEpoch
  epoch : result.policyEpoch = state.policy.epoch
  dependencies : ∀ dependency ∈ worker.dependencies, isCurrent state.facts dependency = true

section Transitions
variable (sha256 : String → String) (state : MutableState) (sequence : Nat) (eventId : String)

/-- The decision about a delivery is recorded. -/
def recordDecision (result : WorkerResult) (decision : DeliveryStatus × Option String) :
    MutableState :=
  { state with
    logicalDeliveries := setField state.logicalDeliveries result.deliveryId
      ⟨logicalHashOf sha256 result, decision.1⟩
    deliveries := state.deliveries ++
      [deliveryRecord sequence eventId result (logicalHashOf sha256 result) decision] }

/-- The delivery has not been decided for good. -/
def Undecided (result : WorkerResult) : Prop :=
  ∀ prior, state.logicalDeliveries.lookup result.deliveryId = some prior → prior.status = .deferred

/-- The state that a payload leads to, with the conditions under which it is applied. -/
inductive EventApplies : ConversationEventPayload → MutableState → Prop where
  | factAsserted (key : String) (value : Value) (revision : Nat) (authority : AuthorityStamp)
      (fresh : state.facts.lookup key = none) :
      EventApplies (.factAsserted key value revision authority)
        { state with facts := setField state.facts key ⟨key, value, 1, authority, sequence⟩ }
  | factCorrected (key : String) (value : Value) (expectedRevision revision : Nat)
      (authority : AuthorityStamp) (prior : AuthoritativeFact)
      (found : state.facts.lookup key = some prior) (expected : prior.revision = expectedRevision)
      (next : revision = prior.revision + 1) :
      EventApplies (.factCorrected key value expectedRevision revision authority) { state with
          facts := setField state.facts key ⟨key, value, revision, authority, sequence⟩ }
  | goalActivated (goalId description : String) (fresh : state.goals.lookup goalId = none) :
      EventApplies (.goalActivated goalId description) { state with
          goals := setField (suspendCurrent state.goals state.currentGoalId) goalId
            ⟨goalId, description, sequence, .active⟩
          currentGoalId := some goalId }
  | goalCompleted (goalId : String) (goal : ConversationGoal)
      (found : state.goals.lookup goalId = some goal) (active : goal.status = .active)
      (current : state.currentGoalId = some goalId) :
      EventApplies (.goalCompleted goalId) { state with
          goals := setField state.goals goalId { goal with status := .completed }
          currentGoalId := none }
  | goalSuspended (goalId reason : String) (goal : ConversationGoal)
      (found : state.goals.lookup goalId = some goal) (active : goal.status = .active)
      (current : state.currentGoalId = some goalId) :
      EventApplies (.goalSuspended goalId reason) { state with
          goals := setField state.goals goalId { goal with status := .suspended }
          currentGoalId := none }
  | goalResumed (goalId : String) (goal : ConversationGoal)
      (found : state.goals.lookup goalId = some goal) (suspended : goal.status = .suspended)
      (idle : state.currentGoalId.filter (· ≠ "") = none) :
      EventApplies (.goalResumed goalId) { state with
          goals := setField state.goals goalId { goal with status := .active }
          currentGoalId := some goalId }
  | commitmentOpened (commitmentId goalId description : String)
      (fresh : state.commitments.lookup commitmentId = none)
      (known : hasField state.goals goalId = true) :
      EventApplies (.commitmentOpened commitmentId goalId description) { state with
          commitments := setField state.commitments commitmentId
            ⟨commitmentId, goalId, description, sequence, none, none⟩ }
  | commitmentResolved (commitmentId resolution : String) (commitment : ConversationCommitment)
      (found : state.commitments.lookup commitmentId = some commitment)
      (unresolved : commitment.resolution = none) :
      EventApplies (.commitmentResolved commitmentId resolution) { state with
          commitments := setField state.commitments commitmentId
            { commitment with resolution := some resolution, resolvedSequence := some sequence } }
  | policyAdvanced (epoch : Nat) (invariants : List PolicyInvariant)
      (next : epoch = state.policy.epoch + 1) :
      EventApplies (.policyAdvanced epoch invariants) { state with policy := ⟨epoch, invariants⟩ }
  | flowCheckpointRecorded (checkpoint : FlowCheckpoint)
      (current : some checkpoint.goalId = state.currentGoalId)
      (advances : ∀ prior, state.flowCheckpoints.lookup checkpoint.goalId = some prior →
        requireAdvance prior.checkpoint checkpoint = .ok ()) :
      EventApplies (.flowCheckpointRecorded checkpoint) { state with
          flowCheckpoints :=
            setField state.flowCheckpoints checkpoint.goalId ⟨checkpoint, sequence⟩ }
  | workerSpawned (spawn : WorkerSpawn) (fresh : state.workers.lookup spawn.workerId = none)
      (current : state.currentGoalId = some spawn.goalId)
      (epoch : spawn.policyEpoch = state.policy.epoch)
      (room : ((state.workers.map Prod.snd).filter (runsFor spawn.goalId)).length
        < MAX_ACTIVE_WORKERS_PER_GOAL)
      (dependencies : ∀ dependency ∈ spawn.dependencies, isCurrent state.facts dependency = true) :
      EventApplies (.workerSpawned spawn) { state with
          workers := setField state.workers spawn.workerId
            ⟨spawn.workerId, spawn.goalId, spawn.purpose, spawn.policyEpoch, spawn.dependencies,
              sequence, .running⟩ }
  | workerCancelled (workerId reason : String) (worker : WorkerRecord)
      (found : state.workers.lookup workerId = some worker) (running : worker.status = .running) :
      EventApplies (.workerCancelled workerId reason) { state with
          workers := setField state.workers workerId { worker with status := .cancelled } }
  | workerFinished (workerId : String) (status : FinishStatus) (reasonCode evidenceSha256 : String)
      (worker : WorkerRecord) (found : state.workers.lookup workerId = some worker)
      (running : worker.status = .running) :
      EventApplies (.workerFinished workerId status reasonCode evidenceSha256) { state with
          workers := setField state.workers workerId { worker with status := finishedAs status } }
  | resultDuplicated (result : WorkerResult) (prior : LogicalDelivery)
      (found : state.logicalDeliveries.lookup result.deliveryId = some prior)
      (decided : prior.status ≠ .deferred) :
      EventApplies (.workerResultDelivered result) { state with
          deliveries := state.deliveries ++
            [deliveryRecord sequence eventId result (logicalHashOf sha256 result)
              (.duplicate, some "logical delivery already reached a terminal decision")] }
  | resultAccepted (result : WorkerResult) (worker : WorkerRecord)
      (undecided : Undecided state result)
      (found : state.workers.lookup result.workerId = some worker)
      (acceptable : Acceptable state worker result) :
      EventApplies (.workerResultDelivered result)
        { recordDecision sha256 state sequence eventId result (.accepted, none) with
          workers := setField state.workers result.workerId { worker with status := .completed }
          acceptedWorkerFacts :=
            state.acceptedWorkerFacts ++ result.facts.map (acceptFact sequence result)
          advisories := state.advisories ++ result.advisories.map fun advisory =>
            ⟨advisory.episodeId, advisory.text, .worker, sequence⟩ }
  | resultRejected (result : WorkerResult) (reason : Option String) (worker : WorkerRecord)
      (undecided : Undecided state result)
      (found : state.workers.lookup result.workerId = some worker)
      (running : worker.status = .running) :
      EventApplies (.workerResultDelivered result)
        { recordDecision sha256 state sequence eventId result (.rejected, reason) with
          workers := setField state.workers result.workerId { worker with status := .superseded } }
  | resultUnapplied (result : WorkerResult) (decision : DeliveryStatus × Option String)
      (undecided : Undecided state result)
      (unapplied : decision.1 = .deferred ∨ decision.1 = .rejected) :
      EventApplies (.workerResultDelivered result)
        (recordDecision sha256 state sequence eventId result decision)
  | advisoryRecorded (episodeId summary : String) :
      EventApplies (.advisoryRecorded episodeId summary)
        { state with advisories := state.advisories ++ [⟨episodeId, summary, .model, sequence⟩] }

end Transitions

section Inversion
variable {sha256 : String → String} {state next : MutableState} {sequence : Nat}
  {eventId : String}

theorem lookup_of_hasField_false {α : Type} {fields : List (String × α)} {key : String}
    (absent : hasField fields key = false) : fields.lookup key = none := by
  simpa [hasField] using absent

theorem requireCurrent_ok {facts : List (String × AuthoritativeFact)}
    {dependencies : List FactDependency} {done : Unit}
    (passed : requireCurrent facts dependencies = .ok done) :
    ∀ dependency ∈ dependencies, isCurrent facts dependency = true := by
  induction dependencies with
  | nil => simp
  | cons first rest ih =>
    simp only [requireCurrent, guarded_ok_iff] at passed
    exact List.forall_mem_cons.mpr ⟨passed.1, ih passed.2⟩

theorem leaveGoal_ok {goalId : String} {status : ConversationGoalStatus}
    (left : leaveGoal state goalId status = .ok next) :
    ∃ goal, state.goals.lookup goalId = some goal ∧ goal.status = .active ∧
      state.currentGoalId = some goalId ∧
      { state with
        goals := setField state.goals goalId { goal with status }
        currentGoalId := none } = next := by
  unfold leaveGoal at left
  split at left
  · cases left
  · next goal found =>
    simp only [guarded_ok_iff, decide_eq_true_eq, pure_ok_iff] at left
    obtain ⟨⟨active, current⟩, changed⟩ := left
    exact ⟨goal, found, active, current, changed⟩

theorem endWorker_ok {workerId : String} {status : WorkerStatus}
    (ended : endWorker state workerId status = .ok next) :
    ∃ worker, state.workers.lookup workerId = some worker ∧ worker.status = .running ∧
      { state with workers := setField state.workers workerId { worker with status } } = next := by
  unfold endWorker at ended
  split at ended
  · cases ended
  · next worker found =>
    simp only [guarded_ok_iff, decide_eq_true_eq, pure_ok_iff] at ended
    obtain ⟨running, changed⟩ := ended
    exact ⟨worker, found, running, changed⟩

theorem recordCheckpoint_ok {checkpoint : FlowCheckpoint}
    (recorded : recordCheckpoint state sequence checkpoint = .ok next) :
    some checkpoint.goalId = state.currentGoalId ∧
      (∀ prior, state.flowCheckpoints.lookup checkpoint.goalId = some prior →
        requireAdvance prior.checkpoint checkpoint = .ok ()) ∧
      { state with
        flowCheckpoints :=
          setField state.flowCheckpoints checkpoint.goalId ⟨checkpoint, sequence⟩ } = next := by
  simp only [recordCheckpoint, guarded_ok_iff, decide_eq_true_eq] at recorded
  obtain ⟨current, recorded⟩ := recorded
  cases known : state.flowCheckpoints.lookup checkpoint.goalId with
  | none =>
    simp only [known, bind_ok_iff, pure_ok_iff] at recorded
    obtain ⟨done, -, changed⟩ := recorded
    refine ⟨current, ?_, changed⟩
    intro prior found
    cases found
  | some =>
    simp only [known, bind_ok_iff, pure_ok_iff] at recorded
    obtain ⟨done, advances, changed⟩ := recorded
    refine ⟨current, ?_, changed⟩
    intro other found
    cases found
    exact advances

/-- A delivery is accepted for these reasons only. -/
theorem decideDelivery_cases (state : MutableState) (worker : Option WorkerRecord)
    (result : WorkerResult) :
    (∃ record, worker = some record ∧ Acceptable state record result ∧
        decideDelivery state worker result = (.accepted, none)) ∨
      (decideDelivery state worker result).1 = .deferred ∨
      (decideDelivery state worker result).1 = .rejected := by
  fun_cases decideDelivery state worker result with
  | case9 record running goal unsuspended current epoch declared fresh =>
    left
    simp only [ne_eq, not_or, not_not] at running goal current epoch
    refine ⟨record, rfl, ⟨running, goal, current.symm, epoch.1, epoch.2, ?_⟩, rfl⟩
    simpa using fresh
  | case4 => right; left; rfl
  | case1 | case2 | case3 | case5 | case6 | case7 | case8 => right; right; rfl

theorem settleDelivery_applies {result : WorkerResult} (undecided : Undecided state result) :
    EventApplies sha256 state sequence eventId (.workerResultDelivered result)
      (settleDelivery state sequence eventId result (logicalHashOf sha256 result)) := by
  obtain ⟨worker, found, acceptable, decided⟩ | unaccepted :=
    decideDelivery_cases state (state.workers.lookup result.workerId) result
  · rw [found] at decided
    simp only [settleDelivery, found, decided]
    exact .resultAccepted result worker undecided found acceptable
  · simp only [settleDelivery]
    split
    · next accepted found => simp [accepted] at unaccepted
    · next worker rejected found =>
      split
      · next running =>
        generalize decideDelivery state _ result = decision at rejected
        obtain ⟨status, reason⟩ := decision
        cases rejected
        exact .resultRejected result reason worker undecided found running
      · exact .resultUnapplied result _ undecided unaccepted
    · exact .resultUnapplied result _ undecided unaccepted

theorem deliverResult_applies {result : WorkerResult}
    (delivered : deliverResult state sequence sha256 eventId result = .ok next) :
    EventApplies sha256 state sequence eventId (.workerResultDelivered result) next := by
  simp only [deliverResult] at delivered
  split at delivered
  · next fresh =>
    cases delivered
    apply settleDelivery_applies
    intro prior found
    rw [fresh] at found
    cases found
  · next prior found =>
    split at delivered
    · cases delivered
    · split at delivered
      · next decided =>
        cases delivered
        exact .resultDuplicated result prior found decided
      · next deferred =>
        cases delivered
        apply settleDelivery_applies
        intro other known
        cases found.symm.trans known
        exact not_not.mp deferred

/-- The relation covers what the code does. -/
theorem applyEvent_applies {event : ConversationEvent}
    (applied : applyEvent sha256 state event = .ok next) :
    EventApplies sha256 state event.sequence event.eventId event.payload next := by
  unfold applyEvent at applied
  cases payload : event.payload with simp only [payload, assertFact, activateGoal, openCommitment,
      advancePolicy, spawnWorker, bind_ok_iff, require_ok_iff, exists_const, Bool.not_eq_true',
      decide_eq_true_eq, pure_ok_iff] at applied
  | factAsserted | goalActivated =>
    obtain ⟨fresh, rfl⟩ := applied
    constructor
    exact lookup_of_hasField_false fresh
  | factCorrected key value expectedRevision revision authority =>
    unfold correctFact at applied
    split at applied
    · cases applied
    · next prior found =>
      simp only [guarded_ok_iff, decide_eq_true_eq, pure_ok_iff] at applied
      obtain ⟨⟨expected, contiguous⟩, rfl⟩ := applied
      exact .factCorrected key value _ revision authority prior found expected contiguous
  | goalCompleted | goalSuspended =>
    obtain ⟨goal, found, active, current, rfl⟩ := leaveGoal_ok applied
    constructor
    · exact found
    · exact active
    · exact current
  | goalResumed goalId =>
    unfold resumeGoal at applied
    split at applied
    · cases applied
    · next goal found =>
      simp only [guarded_ok_iff, decide_eq_true_eq, pure_ok_iff, Option.isNone_iff_eq_none]
        at applied
      obtain ⟨suspended, idle, rfl⟩ := applied
      exact .goalResumed goalId goal found suspended idle
  | commitmentOpened commitmentId goalId description =>
    obtain ⟨fresh, known, rfl⟩ := applied
    exact .commitmentOpened commitmentId goalId description (lookup_of_hasField_false fresh) known
  | commitmentResolved commitmentId resolution =>
    unfold resolveCommitment at applied
    split at applied
    · cases applied
    · next commitment found =>
      simp only [guarded_ok_iff, pure_ok_iff, Option.isNone_iff_eq_none] at applied
      obtain ⟨unresolved, rfl⟩ := applied
      exact .commitmentResolved commitmentId resolution commitment found unresolved
  | policyAdvanced epoch invariants =>
    obtain ⟨contiguous, rfl⟩ := applied
    exact .policyAdvanced epoch invariants contiguous
  | flowCheckpointRecorded checkpoint =>
    obtain ⟨current, advances, rfl⟩ := recordCheckpoint_ok applied
    exact .flowCheckpointRecorded checkpoint current advances
  | workerSpawned spawn =>
    obtain ⟨fresh, current, epoch, room, done, dependencies, rfl⟩ := applied
    exact .workerSpawned spawn (lookup_of_hasField_false fresh) current epoch room
      (requireCurrent_ok dependencies)
  | workerCancelled | workerFinished =>
    obtain ⟨worker, found, running, rfl⟩ := endWorker_ok applied
    constructor
    · exact found
    · exact running
  | workerResultDelivered => exact deliverResult_applies applied
  | advisoryRecorded episodeId summary =>
    cases applied
    exact .advisoryRecorded episodeId summary

end Inversion

end CallCenter.ConversationTransitions
