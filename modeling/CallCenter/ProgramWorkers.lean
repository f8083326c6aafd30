import CallCenter.ProgramTables
import CallCenter.ProgramScripts

/-!
# Workers that have ended

A worker that is no longer running changes its status in two ways: the correction of a fact
it depends on supersedes it if it was delivered, and any later delivery for it supersedes
it, although that delivery is rejected. A superseded worker stays superseded.
-/

namespace CallCenter.ProgramWorkers

open ObjectFields Replays KeyedTables ProgramEvents ProgramReducer ProgramTransitions
open ProgramLogs ProgramTables ProgramScripts

/-- The payload corrects the fact with the key. -/
def corrects (key : String) : ConversationProgramEventPayload → Bool
  | .factCorrected corrected _ _ _ => decide (corrected = key)
  | _ => false

/-- The payload corrects a fact on which the worker depends. -/
def disturbs (worker : ProgramWorker) (payload : ConversationProgramEventPayload) : Bool :=
  worker.dependencies.any fun dependency => corrects dependency.key payload

/-- The payload is a delivery for the worker. -/
def delivers (workerId : String) : ConversationProgramEventPayload → Bool
  | .workerDeliveryRecorded delivery => decide (delivery.workerId = workerId)
  | _ => false

/-- What a payload makes of a worker that has ended. -/
def endedAfter (workerId : String) (worker : ProgramWorker) :
    ConversationProgramEventPayload → ProgramWorker
  | .factCorrected key _ _ _ => supersede key worker
  | .workerDeliveryRecorded delivery =>
    if delivery.workerId = workerId then { worker with status := .superseded } else worker
  | _ => worker

section Steps
variable {state next : MutableProjection} {sequence expectedRevision : Nat} {workerId : String}
  {worker : ProgramWorker}

theorem workers_mutated (state : MutableProjection) :
    (invalidateActiveFrontierForFactMutation state).workers = state.workers :=
  mutation_keeps state MutableProjection.workers fun _ => rfl

variable {payload : ConversationProgramEventPayload}

/-- One payload and a worker that has ended. -/
theorem ended_step (applies : PayloadApplies state sequence expectedRevision payload next)
    (found : state.workers.lookup workerId = some worker) (ended : worker.status ≠ .running) :
    next.workers.lookup workerId = some (endedAfter workerId worker payload) := by
  cases applies with
  | factAsserted =>
    rw [workers_mutated]
    exact found
  | factCorrected key =>
    rw [workers_mutated]
    exact (lookup_mapValues (supersede key) state.workers workerId).trans
      (congrArg (Option.map (supersede key)) found)
  | workerSpawned spawn goal _ spawnable =>
    have different : workerId ≠ spawn.workerId := by
      rintro rfl
      rw [spawnable.fresh] at found
      cases found
    exact (lookup_setField_ne _ _ _ _ different).trans found
  | workerDeliveryRecorded delivery =>
    by_cases same : delivery.workerId = workerId
    · subst same
      have rejected : dispositionOf (decisionOf state delivery) = .rejected := by
        rw [decisionOf, found, rejectionReason, if_pos ended]
        rfl
      simp only [workersAfter, found, lookup_setField_self, rejected, endedAfter, if_true]
      rfl
    · rw [endedAfter, if_neg same]
      simp only [workersAfter]
      split
      · exact found
      · exact (lookup_setField_ne _ _ _ _ (Ne.symm same)).trans found
  | workerCancelled cancelled reason other known running =>
    have different : workerId ≠ cancelled := by
      rintro rfl
      cases known.symm.trans found
      exact ended running
    exact (lookup_setField_ne _ _ _ _ different).trans found
  | goalOpened | goalFocused | goalSuspended | goalCompleted | flowCheckpointRecorded
  | obligationOpened | obligationSettled | capabilityEpochAdvanced | actionReserved
  | actionReceiptRecorded | audibilityResponseRegistered | audibilityReleasedThrough
  | audibilityHeardThrough | audibilityInterrupted => exact found

/-- A worker that has ended does not start again. -/
theorem endedAfter_ended (payload : ConversationProgramEventPayload)
    (ended : worker.status ≠ .running) :
    (endedAfter workerId worker payload).status ≠ .running := by
  cases payload with
  | factCorrected key =>
    rw [endedAfter, supersede]
    split
    · simp
    · exact ended
  | workerDeliveryRecorded delivery =>
    by_cases same : delivery.workerId = workerId
    · simp [endedAfter, same]
    · rw [endedAfter, if_neg same]
      exact ended
  | _ => exact ended

/-- A superseded worker stays superseded. -/
theorem endedAfter_superseded (payload : ConversationProgramEventPayload)
    (superseded : worker.status = .superseded) :
    (endedAfter workerId worker payload).status = .superseded := by
  cases payload with
  | factCorrected key =>
    rw [endedAfter, supersede, if_neg (by simp [superseded])]
    exact superseded
  | workerDeliveryRecorded delivery =>
    by_cases same : delivery.workerId = workerId
    · simp [endedAfter, same]
    · rw [endedAfter, if_neg same]
      exact superseded
  | _ => exact superseded

/-- Only a delivery or the correction of a dependency touches a worker that has ended, and
a cancelled worker is touched by deliveries alone. -/
theorem endedAfter_untouched (undelivered : delivers workerId payload = false)
    (undisturbed : worker.status = .cancelled ∨ disturbs worker payload = false) :
    endedAfter workerId worker payload = worker := by
  cases payload with
  | factCorrected key value expectedFactRevision authority =>
    rw [endedAfter, supersede, if_neg]
    rintro ⟨live, depends⟩
    rcases undisturbed with cancelled | undisturbed
    · simp [cancelled] at live
    · have same : worker.dependencies.any (fun dependency => decide (dependency.key = key)) =
          disturbs worker (.factCorrected key value expectedFactRevision authority) := by
        simp [disturbs, corrects, eq_comm]
      rw [same, undisturbed] at depends
      cases depends
  | workerDeliveryRecorded delivery =>
    have other : delivery.workerId ≠ workerId := by
      simpa [delivers] using undelivered
    rw [endedAfter, if_neg other]
  | _ => rfl

end Steps

section Extensions
variable {state final : MutableProjection} {later : List ConversationProgramEvent}
  {workerId : String} {worker : ProgramWorker}

section

variable (replayed : replay applyEvent state later = .ok final)
  (found : state.workers.lookup workerId = some worker)
include replayed found

/-- A superseded worker stays superseded through every extension. -/
theorem superseded_stays (superseded : worker.status = .superseded) :
    (final.workers.lookup workerId).map ProgramWorker.status = some .superseded := by
  have kept : ∃ current, final.workers.lookup workerId = some current ∧
      current.status = .superseded := by
    refine replay_invariant (fun reached : MutableProjection => ∃ current,
      reached.workers.lookup workerId = some current ∧ current.status = .superseded) ?_ replayed
      ⟨worker, found, superseded⟩
    rintro before event after applied ⟨current, known, status⟩
    have ended : current.status ≠ .running := by
      rw [status]
      decide
    exact ⟨_, ended_step (applyEvent_applies applied) known ended,
      endedAfter_superseded event.payload status⟩
  obtain ⟨current, known, status⟩ := kept
  rw [known, Option.map_some, status]

/-- A later delivery supersedes a worker that has ended. -/
theorem delivery_supersedes (ended : worker.status ≠ .running)
    (delivered : ∃ event ∈ later, delivers workerId event.payload = true) :
    (final.workers.lookup workerId).map ProgramWorker.status = some .superseded := by
  induction later generalizing state worker with
  | nil =>
    obtain ⟨event, member, -⟩ := delivered
    cases member
  | cons event rest ih =>
    obtain ⟨next, applied, continued⟩ := (replay_cons_ok_iff event rest).mp replayed
    have moved := ended_step (applyEvent_applies applied) found ended
    by_cases here : delivers workerId event.payload = true
    · refine superseded_stays continued moved ?_
      cases shape : event.payload with
      | workerDeliveryRecorded delivery =>
        rw [shape] at here
        have same : delivery.workerId = workerId := by simpa [delivers] using here
        rw [endedAfter, if_pos same]
      | _ =>
        rw [shape] at here
        cases here
    · refine ih continued moved (endedAfter_ended event.payload ended) ?_
      obtain ⟨other, member, delivering⟩ := delivered
      rcases List.mem_cons.mp member with rfl | later
      · exact absurd delivering here
      · exact ⟨other, later, delivering⟩

/-- Without a delivery, and without the correction of a dependency unless it was cancelled,
a worker that has ended stays as it is. -/
theorem untouched_stays (ended : worker.status ≠ .running)
    (undelivered : ∀ event ∈ later, delivers workerId event.payload = false)
    (undisturbed : worker.status = .cancelled ∨
      ∀ event ∈ later, disturbs worker event.payload = false) :
    final.workers.lookup workerId = some worker := by
  induction later generalizing state with
  | nil =>
    cases replayed
    exact found
  | cons event rest ih =>
    obtain ⟨next, applied, continued⟩ := (replay_cons_ok_iff event rest).mp replayed
    have moved := ended_step (applyEvent_applies applied) found ended
    have here : worker.status = .cancelled ∨ disturbs worker event.payload = false :=
      undisturbed.imp_right fun each => each event List.mem_cons_self
    rw [endedAfter_untouched (undelivered event List.mem_cons_self) here] at moved
    exact ih continued moved (fun other member => undelivered other (List.mem_cons_of_mem _ member))
      (undisturbed.imp_right fun each other member => each other (List.mem_cons_of_mem _ member))

/-- The status of a delivered or cancelled worker lasts exactly as long as no delivery for it
is recorded. -/
theorem status_stays_iff (ended : worker.status = .delivered ∨ worker.status = .cancelled)
    (undisturbed : worker.status = .cancelled ∨
      ∀ event ∈ later, disturbs worker event.payload = false) :
    (final.workers.lookup workerId).map ProgramWorker.status = some worker.status ↔
      ∀ event ∈ later, delivers workerId event.payload = false := by
  have stopped : worker.status ≠ .running := by
    rcases ended with status | status
    · rw [status]
      decide
    · rw [status]
      decide
  constructor
  · intro same event member
    by_contra delivering
    have superseded := delivery_supersedes replayed found stopped
      ⟨event, member, by simpa using delivering⟩
    rw [same] at superseded
    rcases ended with status | status
    · rw [status] at superseded
      cases superseded
    · rw [status] at superseded
      cases superseded
  · intro undelivered
    rw [untouched_stays replayed found stopped undelivered undisturbed, Option.map_some]

end

end Extensions

/-! ## Projections -/

/-- The status of a worker in a projection. -/
def workerStatus (projection : ConversationProgramProjection) (workerId : String) :
    Option WorkerStatus :=
  (lookupRow ProgramWorker.workerId projection.workers workerId).map ProgramWorker.status

/-- A worker that was delivered, and whose dependencies are not corrected, or that was
cancelled, keeps its status in an extension of the log exactly if the extension records no
delivery for it. -/
theorem ended_worker_keeps_status_iff {sha256 : String → String}
    {log extended : ConversationProgramLog} {later : List ConversationProgramEvent}
    {projection extendedProjection : ConversationProgramProjection} {workerId : String}
    {worker : ProgramWorker}
    (folded : foldConversationProgram sha256 log = .ok projection)
    (extendedFolded : foldConversationProgram sha256 extended = .ok extendedProjection)
    (extension : extended.events = log.events ++ later)
    (found : lookupRow ProgramWorker.workerId projection.workers workerId = some worker)
    (ended : worker.status = .delivered ∧ (∀ event ∈ later, disturbs worker event.payload = false) ∨
      worker.status = .cancelled) :
    workerStatus extendedProjection workerId = some worker.status ↔
      ∀ event ∈ later, delivers workerId event.payload = false := by
  obtain ⟨state, sound, rfl⟩ := (foldConversationProgram_ok_iff _ _).mp folded
  obtain ⟨final, extendedSound, rfl⟩ := (foldConversationProgram_ok_iff _ _).mp extendedFolded
  rw [project_worker (replay_indexed sound.replayed)] at found
  rw [workerStatus, project_worker (replay_indexed extendedSound.replayed)]
  have replayed : replay applyEvent state later = .ok final := by
    have whole := extendedSound.replayed
    rw [extension, replayEvents] at whole
    obtain ⟨middle, first, second⟩ := (replay_append_ok_iff _ _).mp whole
    cases sound.replayed.symm.trans first
    exact second
  refine status_stays_iff replayed found (ended.imp_left And.left) ?_
  rcases ended with ⟨_, undisturbed⟩ | cancelled
  · exact Or.inr undisturbed
  · exact Or.inl cancelled

/-! ## A second delivery -/

/-- A goal whose required worker delivers its result. -/
def deliveredScript : List ConversationProgramEventPayload :=
  [.goalOpened "billing" "settle the invoice", .goalFocused "billing",
    .capabilityEpochAdvanced 1 2 ["lookup"] "invoice access",
    .workerSpawned ⟨"worker-1", "billing", "find the invoice", 2, [], some true⟩,
    .workerDeliveryRecorded
      ⟨"delivery-1", "worker-1", "billing", 2, [], CONVERSATION_PROGRAM_GENESIS_SHA256⟩]

/-- The same result, delivered once more under another identity. -/
def repeatedDelivery : ConversationProgramEventPayload :=
  .workerDeliveryRecorded
    ⟨"delivery-2", "worker-1", "billing", 2, [], CONVERSATION_PROGRAM_GENESIS_SHA256⟩

/-- An event that has nothing to do with the worker. -/
def openedObligation : ConversationProgramEventPayload :=
  .obligationOpened ⟨"callback", "promise", "call back", .agent, .goalCompletion, none, "caller"⟩

def deliveredLog (later : List ConversationProgramEventPayload) : ConversationProgramLog :=
  scriptLog Sha256.digest "call-1" (deliveredScript ++ later)

/-- What the logs show of the worker. -/
theorem deliveredLog_folds (later : List ConversationProgramEventPayload) (status : WorkerStatus)
    (bounded : (deliveredScript ++ later).length ≤ MAX_SAFE_INTEGER)
    (schemas : ∀ payload ∈ deliveredScript ++ later,
      ConversationProgramEventPayloadSchema payload.normalized = true)
    (viewed : (scriptState (deliveredScript ++ later)).map (fun numbered =>
      (numbered.1.workers.lookup "worker-1").map ProgramWorker.status) = .ok (some status)) :
    ∃ projection, foldConversationProgram Sha256.digest (deliveredLog later) = .ok projection ∧
      workerStatus projection "worker-1" = some status := by
  obtain ⟨state, sound, shown⟩ := script_sound (fun state : MutableProjection =>
      (state.workers.lookup "worker-1").map ProgramWorker.status)
    (deliveredScript ++ later) (show IdSchema "call-1" = true by decide) schemas viewed bounded
  refine ⟨_, (foldConversationProgram_ok_iff _ _).mpr ⟨state, sound, rfl⟩, ?_⟩
  rw [workerStatus, project_worker (replay_indexed sound.replayed)]
  exact shown

/-- A rejected second delivery takes an accepted result back. -/
theorem second_delivery_supersedes :
    (∃ projection, foldConversationProgram Sha256.digest (deliveredLog []) = .ok projection ∧
        workerStatus projection "worker-1" = some .delivered) ∧
      (∃ projection,
        foldConversationProgram Sha256.digest (deliveredLog [repeatedDelivery]) = .ok projection ∧
          workerStatus projection "worker-1" = some .superseded) ∧
      ∃ event, (deliveredLog [repeatedDelivery]).events = (deliveredLog []).events ++ [event] ∧
        event.payload = repeatedDelivery := by
  refine ⟨deliveredLog_folds [] .delivered (by decide) (by decide +kernel) (by decide +kernel),
    deliveredLog_folds [repeatedDelivery] .superseded (by decide) (by decide +kernel)
      (by decide +kernel), ?_⟩
  obtain ⟨added, split, payloads⟩ :=
    scriptEvents_append Sha256.digest "call-1" deliveredScript [repeatedDelivery]
  obtain ⟨event, rfl, same⟩ := List.map_eq_singleton_iff.mp payloads
  exact ⟨event, split, same⟩

/-- An unrelated event leaves the result delivered. -/
theorem delivered_through_obligation : ∃ projection,
      foldConversationProgram Sha256.digest (deliveredLog [openedObligation]) = .ok projection ∧
        workerStatus projection "worker-1" = some .delivered := by
  obtain ⟨before, folded, status⟩ :=
    deliveredLog_folds [] .delivered (by decide) (by decide +kernel) (by decide +kernel)
  obtain ⟨after, extendedFolded, -⟩ :=
    deliveredLog_folds [openedObligation] .delivered (by decide) (by decide +kernel)
      (by decide +kernel)
  obtain ⟨added, split, payloads⟩ :=
    scriptEvents_append Sha256.digest "call-1" deliveredScript [openedObligation]
  obtain ⟨event, rfl, same⟩ := List.map_eq_singleton_iff.mp payloads
  obtain ⟨worker, found, delivered⟩ := Option.map_eq_some_iff.mp status
  refine ⟨after, extendedFolded, ?_⟩
  rw [← delivered]
  refine (ended_worker_keeps_status_iff folded extendedFolded split found
    (Or.inl ⟨delivered, ?_⟩)).mpr ?_
  · intro other member
    rw [List.mem_singleton.mp member, same]
    simp [disturbs, corrects, openedObligation, ConversationProgramEventPayload.normalized]
  · intro other member
    rw [List.mem_singleton.mp member, same]
    rfl

end CallCenter.ProgramWorkers
