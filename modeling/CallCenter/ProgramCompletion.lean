import CallCenter.ProgramAppends

/-!
# Completing a finished goal

A terminal checkpoint is never replaced and keeps the epoch under which it was recorded,
while the epoch of the program only grows. A goal whose checkpoint reports success can
therefore be completed now or never: exactly if the checkpoint is still current.
-/

namespace CallCenter.ProgramCompletion

open ObjectFields Replays KeyedTables JsonSizes ProgramEvents
open ProgramReducer ProgramTransitions ProgramLogs ProgramTables ProgramScripts
open ProgramFrontier ProgramAppends
open FlowState (isHexDigest)

section Steps
variable {state next : MutableProjection} {sequence expectedRevision : Nat}
  {payload : ConversationProgramEventPayload}

/-- A checkpoint that reports success is not replaced. -/
theorem checkpoint_kept (applies : PayloadApplies state sequence expectedRevision payload next)
    {goalId : String} {checkpoint : ProgramFlowCheckpoint}
    (found : state.flowCheckpoints.lookup goalId = some checkpoint)
    (completed : checkpoint.status = .completed) :
    next.flowCheckpoints.lookup goalId = some checkpoint := by
  cases applies with
  | factAsserted | factCorrected =>
    rw [mutation_keeps _ MutableProjection.flowCheckpoints fun _ => rfl]
    exact found
  | flowCheckpointRecorded recorded goal _ recordable =>
    have different : goalId ≠ recorded.goalId := by
      rintro rfl
      exact (recordable.advances checkpoint found).1 completed
    exact (lookup_setField_ne _ _ _ _ different).trans found
  | _ => exact found

/-- No checkpoint is ahead of the program. -/
def CheckpointsBehind (state : MutableProjection) : Prop :=
  ∀ goalId checkpoint, state.flowCheckpoints.lookup goalId = some checkpoint →
    checkpoint.capabilityEpoch ≤ state.capabilityEpoch

theorem checkpoints_behind (applies : PayloadApplies state sequence expectedRevision payload next)
    (behind : CheckpointsBehind state) : CheckpointsBehind next := by
  have monotone := epoch_monotone applies
  have same : next.flowCheckpoints = state.flowCheckpoints → CheckpointsBehind next := by
    intro unchanged goalId checkpoint found
    rw [unchanged] at found
    exact Nat.le_trans (behind goalId checkpoint found) monotone
  cases applies with
  | factAsserted | factCorrected =>
    exact same (mutation_keeps _ MutableProjection.flowCheckpoints fun _ => rfl)
  | flowCheckpointRecorded recorded goal _ recordable =>
    intro goalId checkpoint found
    by_cases here : goalId = recorded.goalId
    · subst here
      rw [lookup_setField_self] at found
      cases found
      exact Nat.le_of_eq recordable.epoch
    · rw [lookup_setField_ne _ _ _ _ here] at found
      exact behind goalId checkpoint found
  | _ => exact same rfl

end Steps

variable {state : MutableProjection}

theorem replay_behind {events : List ConversationProgramEvent}
    (replayed : replayEvents events = .ok state) : CheckpointsBehind state := by
  refine replay_invariant CheckpointsBehind ?_ replayed ?_
  · intro before event after applied behind
    exact checkpoints_behind (applyEvent_applies applied) behind
  · intro goalId checkpoint found
    cases found

/-- The goal has a successful checkpoint from an epoch that has passed. -/
def Wedged (goalId : String) (state : MutableProjection) : Prop :=
  ∃ checkpoint, state.flowCheckpoints.lookup goalId = some checkpoint ∧
    checkpoint.status = .completed ∧ checkpoint.capabilityEpoch < state.capabilityEpoch

/-- A wedged goal stays wedged. -/
theorem wedged_stays {goalId : String} {final : MutableProjection}
    {later : List ConversationProgramEvent} (replayed : replay applyEvent state later = .ok final)
    (wedged : Wedged goalId state) : Wedged goalId final := by
  refine replay_invariant (Wedged goalId) ?_ replayed wedged
  rintro before event after applied ⟨checkpoint, found, completed, passed⟩
  have applies := applyEvent_applies applied
  exact ⟨checkpoint, checkpoint_kept applies found completed, completed,
    Nat.lt_of_lt_of_le passed (epoch_monotone applies)⟩

/-- A wedged goal does not complete. -/
theorem wedged_not_completed {goalId : String} {next : MutableProjection}
    {event : ConversationProgramEvent} (wedged : Wedged goalId state)
    (applied : applyEvent state event = .ok next) : event.payload ≠ .goalCompleted goalId := by
  intro completing
  obtain ⟨checkpoint, found, -, passed⟩ := wedged
  have applies := applyEvent_applies applied
  rw [completing] at applies
  cases applies with
  | goalCompleted _ goal _ completable =>
    have current := (completable.succeeded checkpoint found).2
    omega

section Completion
variable {sha256 : String → String} {log : ConversationProgramLog} {state : MutableProjection}

/-- Accepted drafts can end with the completion of the goal. -/
def CanComplete (sha256 : String → String) (log : ConversationProgramLog) (goalId : String) :
    Prop :=
  ∃ drafts next appended event, appendConversationProgramEvents sha256 log drafts = .ok next ∧
      next.events = log.events ++ appended ++ [event] ∧ event.payload = .goalCompleted goalId

variable {goalId : String}

/-- No drafts complete a wedged goal. -/
theorem wedged_never_completes (sound : Sound sha256 log state)
    (wedged : Wedged goalId state) : ¬ CanComplete sha256 log goalId := by
  rintro ⟨drafts, next, appended, event, accepted, events, completing⟩
  obtain ⟨final, later, nextSound, rfl⟩ := appendConversationProgramEvents_sound accepted
  have extended : log.events ++ later = log.events ++ (appended ++ [event]) :=
    events.trans (List.append_assoc _ _ _)
  cases List.append_cancel_left extended
  obtain ⟨initial, initialSound, replayed⟩ := nextSound.initial
  cases sound.replayed.symm.trans initialSound.replayed
  obtain ⟨middle, before, last⟩ := (replay_snoc_ok_iff _ _).mp replayed
  exact wedged_not_completed (wedged_stays before wedged) last completing

/-- A log takes no event beyond the safe integers. -/
theorem canComplete_bounded (possible : CanComplete sha256 log goalId) :
    log.events.length < MAX_SAFE_INTEGER := by
  obtain ⟨drafts, next, appended, event, accepted, events, -⟩ := possible
  obtain ⟨final, later, nextSound, -⟩ := appendConversationProgramEvents_sound accepted
  have length := appended_bounded nextSound (by rw [events]; simp)
  rw [events, List.length_append, List.length_append, List.length_singleton] at length
  omega

/-- The draft that completes a goal. -/
def completionDraft (events : List ConversationProgramEvent) (number : Nat) (goalId : String) :
    ConversationProgramEventDraft where
  eventId := toString number
  expectedRevision := events.length
  occurredAt := "2026-01-01T00:00:00Z"
  payload := .goalCompleted goalId

theorem completionDraft_fits {events : List ConversationProgramEvent} {number : Nat}
    (identity : IdSchema goalId) :
    3000 + textRoom (completionDraft events number goalId).occurredAt
        + room (completionDraft events number goalId).payload.normalized.toValue ≤
      MAX_EVENT_BYTES := by
  have named := textRoom_id identity
  have texts : textRoom "2026-01-01T00:00:00Z" + textRoom "type" + textRoom "goal.completed"
      + textRoom "goalId" = 272 := by decide
  have limit : MAX_EVENT_BYTES = 32768 := rfl
  simp only [completionDraft, ConversationProgramEventPayload.normalized,
    ConversationProgramEventPayload.toValue, ConversationProgramEventPayload.fields,
    ConversationProgramEventPayload.type, room, fieldsRoom]
  omega

/-- A completable goal with the focus is completed by one draft. -/
theorem completion_appends (sound : Sound sha256 log state)
    (hexadecimal : ∀ text, isHexDigest (sha256 text) = true)
    (bounded : log.events.length < MAX_SAFE_INTEGER) {goal : ProgramGoal}
    (identity : IdSchema goalId) (focus : HoldsFocus state goalId goal)
    (completable : Completable state goalId) : CanComplete sha256 log goalId := by
  obtain ⟨number, numbered, unused⟩ :=
    exists_unused_number (log.events.map ConversationProgramEvent.eventId)
  rw [List.length_map] at numbered
  have fresh : ∀ event ∈ log.events,
      event.eventId ≠ (completionDraft log.events number goalId).eventId := by
    intro event member same
    exact unused (List.mem_map.mpr ⟨event, member, same⟩)
  have appendable : Appendable sha256 log.programId ⟨state, log.events, false⟩
      (completionDraft log.events number goalId) := by
    have formed := newEvent_schema hexadecimal sound.identified (sound_head sound) bounded
      (@numberedDraft_schema _ _ (.goalCompleted goalId) numbered bounded identity)
    refine ⟨fresh, rfl, formed, Nat.le_trans (event_bytes formed) ?_⟩
    exact @completionDraft_fits goalId log.events number identity
  have applied : applyPayload state (log.events.length + 1) log.events.length
      (completionDraft log.events number goalId).payload.normalized =
        .ok (leaveFocus state goal goalId .completed none) :=
    (completeGoal_ok_iff goalId).mpr ⟨goal, focus, completable, rfl⟩
  refine ⟨[completionDraft log.events number goalId], _, [],
    newEvent sha256 log.programId log.events (completionDraft log.events number goalId),
    append_applied sound appendable applied, ?_, rfl⟩
  rw [List.append_nil]
  rfl

/-- What the projection says about a finished goal makes it completable. -/
theorem completable_of_projection {checkpoint : ProgramFlowCheckpoint}
    (indexed : TablesIndexed state)
    (recorded : lookupRow (·.goalId) (project log state).flowCheckpoints goalId = some checkpoint)
    (completed : checkpoint.status = .completed)
    (current : checkpoint.capabilityEpoch = state.capabilityEpoch)
    (obligations : ∀ obligation ∈ (project log state).obligations, obligation.status ≠ .opened)
    (reservations : ∀ reservation ∈ (project log state).actionReservations,
      reservation.goalId = goalId →
        reservation.status ≠ .reserved ∧ reservation.status ≠ .indeterminate)
    (workers : ∀ worker ∈ (project log state).workers, worker.goalId = goalId →
      worker.requiredForGoalCompletion = true → worker.status = .delivered) :
    Completable state goalId := by
  have listed : ∀ {α : Type} (key : α → String) (fields : List (String × α)) (field : String × α),
      field ∈ fields → field.2 ∈ sortBy key (fields.map Prod.snd) := by
    intro α key fields field member
    exact (sortBy_perm key _).mem_iff.mpr (List.mem_map_of_mem member)
  constructor
  · intro field member
    have closed := obligations field.2 (listed _ _ field member)
    simp [blocks, closed]
  · intro other found
    rw [project_checkpoint indexed, found] at recorded
    cases recorded
    exact ⟨completed, current⟩
  · intro field member
    by_cases own : field.2.goalId = goalId
    · obtain ⟨unreserved, determinate⟩ := reservations field.2 (listed _ _ field member) own
      simp [unresolvedFor, unreserved, determinate]
    · simp [unresolvedFor, own]
  · intro field member
    have delivered := workers field.2 (listed _ _ field member)
    by_cases own : field.2.goalId = goalId
    · cases required : field.2.requiredForGoalCompletion with
      | false => simp [incompleteFor, required]
      | true => simp [incompleteFor, delivered own required]
    · simp [incompleteFor, own]

/-- A focused goal whose checkpoint reports success and which nothing else holds back can be
completed by accepted drafts exactly if the checkpoint has the current epoch and the log has
room for another event. -/
theorem finished_goal_completable_iff {projection : ConversationProgramProjection}
    {goal : ProgramGoal} {checkpoint : ProgramFlowCheckpoint}
    (hexadecimal : ∀ text, isHexDigest (sha256 text) = true)
    (folded : foldConversationProgram sha256 log = .ok projection)
    (focused : projection.focusedGoal = some goal)
    (recorded : lookupRow (·.goalId) projection.flowCheckpoints goal.goalId = some checkpoint)
    (completed : checkpoint.status = .completed)
    (obligations : ∀ obligation ∈ projection.obligations, obligation.status ≠ .opened)
    (reservations : ∀ reservation ∈ projection.actionReservations,
      reservation.goalId = goal.goalId →
        reservation.status ≠ .reserved ∧ reservation.status ≠ .indeterminate)
    (workers : ∀ worker ∈ projection.workers, worker.goalId = goal.goalId →
      worker.requiredForGoalCompletion = true → worker.status = .delivered) :
    CanComplete sha256 log goal.goalId ↔ checkpoint.capabilityEpoch = projection.capabilityEpoch ∧
        log.events.length < MAX_SAFE_INTEGER := by
  obtain ⟨state, sound, rfl⟩ := (foldConversationProgram_ok_iff _ _).mp folded
  have indexed := replay_indexed sound.replayed
  constructor
  · intro possible
    refine ⟨?_, canComplete_bounded possible⟩
    by_contra stale
    have found := recorded
    rw [project_checkpoint indexed] at found
    have behind := replay_behind sound.replayed goal.goalId checkpoint found
    have passed : checkpoint.capabilityEpoch < state.capabilityEpoch :=
      Nat.lt_of_le_of_ne behind stale
    exact wedged_never_completes sound ⟨checkpoint, found, completed, passed⟩ possible
  · rintro ⟨current, bounded⟩
    obtain ⟨identity, focus⟩ := focused_of_project sound focused
    exact completion_appends sound hexadecimal bounded identity focus
      (completable_of_projection indexed recorded completed current obligations reservations workers)

end Completion

/-! ## A stale checkpoint -/

def finishedCheckpoint : FlowCheckpoint :=
  ⟨"billing", "flow-1", "1", 1, 1, .completed, none, none, 1, CONVERSATION_PROGRAM_GENESIS_SHA256⟩

/-- The flow of the focused goal has ended well. -/
def finishedScript : List ConversationProgramEventPayload :=
  [.goalOpened "billing" "settle the invoice", .goalFocused "billing",
    .flowCheckpointRecorded finishedCheckpoint]

/-- Capabilities that are issued afterwards. -/
def lateCapabilities : ConversationProgramEventPayload :=
  .capabilityEpochAdvanced 1 2 ["refund"] "refund access"

/-- What the states of the scripts have to show. -/
def finishedView (state : MutableProjection) :
    Option String × Option (CheckpointStatus × Nat) × Nat × Nat × Nat × Nat :=
  (state.focusedGoalId, (state.flowCheckpoints.lookup "billing").map
      (fun checkpoint => (checkpoint.status, checkpoint.capabilityEpoch)),
    state.capabilityEpoch, state.obligations.length, state.reservations.length,
    state.workers.length)

/-- The billing goal is finished: it has the focus and a successful checkpoint of the given
epoch, and nothing else is pending. -/
structure Finished (log : ConversationProgramLog) (projection : ConversationProgramProjection)
    (goal : ProgramGoal) (checkpoint : ProgramFlowCheckpoint) (recordedEpoch : Nat) : Prop where
  folded : foldConversationProgram Sha256.digest log = .ok projection
  focused : projection.focusedGoal = some goal
  named : goal.goalId = "billing"
  recorded : lookupRow (·.goalId) projection.flowCheckpoints goal.goalId = some checkpoint
  completed : checkpoint.status = .completed
  epoch : checkpoint.capabilityEpoch = recordedEpoch
  obligations : projection.obligations = []
  reservations : projection.actionReservations = []
  workers : projection.workers = []

theorem sortBy_empty {α : Type} {key : α → String} {fields : List (String × α)}
    (empty : fields.length = 0) : sortBy key (fields.map Prod.snd) = [] := by
  rw [List.length_eq_zero_iff.mp empty]
  rfl

theorem finished_of_view {log : ConversationProgramLog} {recordedEpoch currentEpoch : Nat}
    (sound : Sound Sha256.digest log state) (shown : finishedView state =
      (some "billing", some (.completed, recordedEpoch), currentEpoch, 0, 0, 0)) :
    ∃ goal checkpoint, Finished log (project log state) goal checkpoint recordedEpoch := by
  simp only [finishedView, Prod.mk.injEq] at shown
  obtain ⟨focused, recorded, -, obligations, reservations, workers⟩ := shown
  obtain ⟨goal, goalShown, named, -⟩ := project_focusedGoal sound focused
  obtain ⟨checkpoint, found, fields⟩ := Option.map_eq_some_iff.mp recorded
  obtain ⟨completed, epoch⟩ := Prod.mk.inj fields
  refine ⟨goal, checkpoint, ?_⟩
  constructor
  · exact (foldConversationProgram_ok_iff _ _).mpr ⟨state, sound, rfl⟩
  · exact goalShown
  · exact named
  · rw [named, project_checkpoint (replay_indexed sound.replayed)]
    exact found
  · exact completed
  · exact epoch
  · exact sortBy_empty obligations
  · exact sortBy_empty reservations
  · exact sortBy_empty workers

/-- Capabilities issued after the last checkpoint make the goal impossible to complete. -/
theorem late_capabilities_wedge : ∃ projection goal checkpoint,
      Finished (scriptLog Sha256.digest "call-1" (finishedScript ++ [lateCapabilities])) projection
          goal checkpoint 1 ∧
        ¬ CanComplete Sha256.digest
          (scriptLog Sha256.digest "call-1" (finishedScript ++ [lateCapabilities])) goal.goalId := by
  have viewed : (scriptState (finishedScript ++ [lateCapabilities])).map
      (fun numbered => finishedView numbered.1) =
        .ok (some "billing", some (.completed, 1), 2, 0, 0, 0) := by decide +kernel
  obtain ⟨state, sound, shown⟩ := script_sound finishedView (finishedScript ++ [lateCapabilities])
    (show IdSchema "call-1" = true by decide) (by decide +kernel) viewed (by decide)
  obtain ⟨goal, checkpoint, finished⟩ := finished_of_view sound shown
  refine ⟨_, goal, checkpoint, finished, wedged_never_completes sound ?_⟩
  have found := finished.recorded
  rw [project_checkpoint (replay_indexed sound.replayed)] at found
  have current : state.capabilityEpoch = 2 := congrArg (fun view => view.2.2.1) shown
  exact ⟨checkpoint, found, finished.completed, by rw [finished.epoch, current]; decide⟩

/-- While the checkpoint is current the goal can be completed. -/
theorem finished_goal_completes :
    CanComplete Sha256.digest (scriptLog Sha256.digest "call-1" finishedScript) "billing" := by
  have viewed : (scriptState finishedScript).map (fun numbered => finishedView numbered.1) =
      .ok (some "billing", some (.completed, 1), 1, 0, 0, 0) := by decide +kernel
  obtain ⟨state, sound, shown⟩ := script_sound finishedView finishedScript
    (show IdSchema "call-1" = true by decide) (by decide +kernel) viewed (by decide)
  obtain ⟨goal, checkpoint, finished⟩ := finished_of_view sound shown
  have current : state.capabilityEpoch = 1 := congrArg (fun view => view.2.2.1) shown
  rw [← finished.named]
  refine (finished_goal_completable_iff MissionIntegrity.digest_hexadecimal finished.folded
    finished.focused finished.recorded finished.completed ?_ ?_ ?_).mpr ⟨?_, ?_⟩
  · rw [finished.obligations]
    simp
  · rw [finished.reservations]
    simp
  · rw [finished.workers]
    simp
  · rw [finished.epoch]
    exact current.symm
  · rw [scriptLog, scriptEvents_length]
    decide

end CallCenter.ProgramCompletion
