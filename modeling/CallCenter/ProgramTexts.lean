import CallCenter.ProgramTransitions
import Mathlib.Data.List.DropRight

/-!
# Texts of a conversation program

Parsing an event trims its texts, and a log may hold events that were not parsed. The
texts of a state are never read when an event is applied: events that differ in their
texts apply to states that differ in theirs with the same outcome. So a log whose parsed
events replay also replays as it stands.
-/

namespace CallCenter.ProgramTexts

open ObjectFields Guards Replays ProgramEvents ProgramReducer

/-! ## Parsing twice -/

/-- What is dropped in front stays dropped once the end is trimmed too. -/
theorem dropWhile_rdropWhile {α : Type} (test : α → Bool) (items : List α) :
    (List.rdropWhile test (items.dropWhile test)).dropWhile test =
      List.rdropWhile test (items.dropWhile test) := by
  obtain ⟨rest, split⟩ := List.rdropWhile_prefix test (items.dropWhile test)
  cases shape : List.rdropWhile test (items.dropWhile test) with
  | nil => rfl
  | cons =>
    have kept := List.head?_dropWhile_not test items
    rw [← split, shape] at kept
    simp only [List.cons_append, List.head?_cons] at kept
    simp [kept]

theorem trim_eq (text : String) :
    trim text = String.ofList (List.rdropWhile MissionRuntime.isTrimmed
      (text.toList.dropWhile MissionRuntime.isTrimmed)) := rfl

@[simp] theorem trim_trim (text : String) : trim (trim text) = trim text := by
  rw [trim_eq (trim text), trim_eq text, String.toList_ofList, dropWhile_rdropWhile,
    List.rdropWhile_idempotent]

@[simp] theorem payload_normalized_normalized (payload : ConversationProgramEventPayload) :
    payload.normalized.normalized = payload.normalized := by
  cases payload <;> simp [ConversationProgramEventPayload.normalized]

/-! ## States without texts -/

def bareGoal (goal : ProgramGoal) : ProgramGoal :=
  { goal with description := "", suspensionReason := none }

def bareObligation (obligation : ProgramObligation) : ProgramObligation :=
  { obligation with description := "" }

def bareWorker (worker : ProgramWorker) : ProgramWorker := { worker with purpose := "" }

def bareResponse (response : MutableAudibility) : MutableAudibility :=
  { response with interruptionReason := none }

/-- The state with all texts erased. -/
def withoutTexts (state : MutableProjection) : MutableProjection :=
  { state with
    goals := mapValues bareGoal state.goals
    obligations := mapValues bareObligation state.obligations
    workers := mapValues bareWorker state.workers
    audibility := mapValues bareResponse state.audibility }

/-- The payload with its texts erased and its default filled in. -/
def barePayload : ConversationProgramEventPayload → ConversationProgramEventPayload
  | .goalOpened goalId _ => .goalOpened goalId ""
  | .goalSuspended goalId _ => .goalSuspended goalId ""
  | .obligationOpened opening => .obligationOpened { opening with description := "" }
  | .capabilityEpochAdvanced expectedEpoch epoch capabilities _ =>
    .capabilityEpochAdvanced expectedEpoch epoch capabilities ""
  | .workerSpawned spawn => .workerSpawned { spawn with
        purpose := "", requiredForGoalCompletion := some (spawn.requiredForGoalCompletion.getD false) }
  | .workerCancelled workerId _ => .workerCancelled workerId ""
  | .audibilityInterrupted responseId heardThroughMs _ evidenceSha256 =>
    .audibilityInterrupted responseId heardThroughMs "" evidenceSha256
  | payload => payload

section Erasure
variable (state : MutableProjection) (sequence expectedRevision : Nat)

@[simp] theorem bare_twice :
    let Twice {α : Type} (change : α → α) := ∀ fields : List (String × α),
      mapValues change (mapValues change fields) = mapValues change fields
    Twice bareGoal ∧ Twice bareObligation ∧ Twice bareWorker ∧ Twice bareResponse := by
  simp [mapValues, bareGoal, bareObligation, bareWorker, bareResponse]

theorem withoutTexts_invalidateActive :
    withoutTexts (invalidateActiveFrontierForFactMutation state) =
      invalidateActiveFrontierForFactMutation (withoutTexts state) := by
  unfold invalidateActiveFrontierForFactMutation
  by_cases active : (state.capabilityGoalId.isSome || !state.capabilities.isEmpty) = true
  · exact (congrArg withoutTexts (if_pos active)).trans (if_pos active).symm
  · exact (congrArg withoutTexts (if_neg active)).trans (if_neg active).symm

theorem supersede_bareWorker (key : String) (worker : ProgramWorker) :
    bareWorker (supersede key (bareWorker worker)) = bareWorker (supersede key worker) := by
  unfold supersede
  split
  · next applies =>
    rw [if_pos (by exact applies)]
    rfl
  · next spared =>
    rw [if_neg (by exact spared)]
    rfl

theorem supersede_bareWorkers (key : String) (workers : List (String × ProgramWorker)) :
    mapValues bareWorker (mapValues (supersede key) (mapValues bareWorker workers)) =
      mapValues bareWorker (mapValues (supersede key) workers) := by
  simp [mapValues, supersede_bareWorker]

/-- Reading a table of a state without texts. -/
theorem withoutTexts_lookup (key : String) :
    (withoutTexts state).goals.lookup key = (state.goals.lookup key).map bareGoal ∧
      (withoutTexts state).obligations.lookup key =
        (state.obligations.lookup key).map bareObligation ∧
      (withoutTexts state).workers.lookup key = (state.workers.lookup key).map bareWorker ∧
      (withoutTexts state).audibility.lookup key = (state.audibility.lookup key).map bareResponse :=
  ⟨lookup_mapValues .., lookup_mapValues .., lookup_mapValues .., lookup_mapValues ..⟩

theorem requireFocusedGoal_withoutTexts (goalId purpose : String) :
    requireFocusedGoal (withoutTexts state) goalId purpose =
      (requireFocusedGoal state goalId purpose).map bareGoal := by
  unfold requireFocusedGoal
  rw [(withoutTexts_lookup state goalId).1]
  cases state.goals.lookup goalId with
  | none => rfl
  | some =>
    simp only [Option.map_some, mapped_bind, mapped_pure]
    rfl

theorem requireResponse_withoutTexts (responseId interrupted : String) :
    requireResponse (withoutTexts state) responseId interrupted =
      (requireResponse state responseId interrupted).map bareResponse := by
  unfold requireResponse
  rw [(withoutTexts_lookup state responseId).2.2.2]
  cases state.audibility.lookup responseId with
  | none => rfl
  | some =>
    simp only [Option.map_some, mapped_bind, mapped_pure]
    rfl

/-- A guard that reads no texts throws about the same record. -/
theorem refuse_mapValues {α : Type} (change : α → α) (fields : List (String × α))
    (test : α → Bool) (message : α → String) (kept : ∀ value, test (change value) = test value)
    (named : ∀ value, message (change value) = message value) :
    refuse (((mapValues change fields).map Prod.snd).find? test) message =
      refuse ((fields.map Prod.snd).find? test) message := by
  have values : (mapValues change fields).map Prod.snd = (fields.map Prod.snd).map change := by
    simp [mapValues]
  have unread : test ∘ change = test := funext kept
  rw [values, List.find?_map, unread]
  cases (fields.map Prod.snd).find? test with
  | none => rfl
  | some item => exact congrArg Except.error (named item)

theorem leaveFocus_withoutTexts (goal : ProgramGoal) (goalId : String)
    (status : ProgramGoalStatus) (reason other : Option String) :
    withoutTexts (leaveFocus (withoutTexts state) (bareGoal goal) goalId status reason) =
      withoutTexts (leaveFocus state goal goalId status other) := by
  simp [leaveFocus, invalidateCapabilityFrontier, revokeReservedActions, withoutTexts,
    mapValues_setField, bareGoal]

theorem completeGoal_withoutTexts (goalId : String) :
    (completeGoal (withoutTexts state) goalId).map withoutTexts =
      (completeGoal state goalId).map withoutTexts := by
  simp only [completeGoal, requireFocusedGoal_withoutTexts, mapped_bind, mapped_pure, bind_of_mapped,
    leaveFocus_withoutTexts state _ goalId .completed none none]
  rw [show (withoutTexts state).obligations = mapValues bareObligation state.obligations from rfl,
    show (withoutTexts state).workers = mapValues bareWorker state.workers from rfl,
    refuse_mapValues bareObligation state.obligations _ _ (fun _ => rfl) fun _ => rfl,
    refuse_mapValues bareWorker state.workers _ _ (fun _ => rfl) fun _ => rfl]
  rfl

/-- Taking the focus reads no texts. -/
theorem takeFocus_withoutTexts (goals : List (String × ProgramGoal)) (target : ProgramGoal)
    (goalId : String) :
    withoutTexts (invalidateCapabilityFrontier { withoutTexts state with
          goals := setField (mapValues bareGoal goals) goalId { bareGoal target with
              status := .focused, focusCount := target.focusCount + 1, suspensionReason := none }
          focusedGoalId := some goalId }) =
      withoutTexts (invalidateCapabilityFrontier { state with
          goals := setField goals goalId { target with
              status := .focused, focusCount := target.focusCount + 1, suspensionReason := none }
          focusedGoalId := some goalId }) := by
  simp [invalidateCapabilityFrontier, revokeReservedActions, withoutTexts, mapValues_setField,
    bareGoal]

theorem focusGoal_withoutTexts (goalId : String) :
    (focusGoal (withoutTexts state) goalId).map withoutTexts =
      (focusGoal state goalId).map withoutTexts := by
  unfold focusGoal suspendPrevious
  rw [show (withoutTexts state).goals = mapValues bareGoal state.goals from rfl, lookup_mapValues,
    show (withoutTexts state).focusedGoalId = state.focusedGoalId from rfl]
  cases state.goals.lookup goalId with
  | none => rfl
  | some target =>
    simp only [Option.map_some, mapped_bind]
    congr 1
    funext _
    cases state.focusedGoalId.filter (· ≠ "") with
    | none => exact congrArg Except.ok (takeFocus_withoutTexts state state.goals target goalId)
    | some previousId =>
      dsimp only
      rw [lookup_mapValues]
      cases state.goals.lookup previousId with
      | none => rfl
      | some =>
        refine congrArg Except.ok (Eq.trans ?_ (takeFocus_withoutTexts state _ target goalId))
        simp [invalidateCapabilityFrontier, revokeReservedActions, withoutTexts,
          mapValues_setField, bareGoal]

theorem recordDelivery_withoutTexts (delivery : WorkerDelivery) :
    (recordDelivery (withoutTexts state) sequence delivery).map withoutTexts =
      (recordDelivery state sequence delivery).map withoutTexts := by
  have reasons : rejectionReason (withoutTexts state)
      ((withoutTexts state).workers.lookup delivery.workerId) delivery =
        rejectionReason state (state.workers.lookup delivery.workerId) delivery := by
    rw [(withoutTexts_lookup state delivery.workerId).2.2.1]
    cases state.workers.lookup delivery.workerId with
    | none => rfl
    | some worker =>
      have statuses : ((withoutTexts state).goals.lookup worker.goalId).map ProgramGoal.status =
          (state.goals.lookup worker.goalId).map ProgramGoal.status := by
        rw [(withoutTexts_lookup state worker.goalId).1, Option.map_map]
        rfl
      simp only [Option.map_some, rejectionReason, bareWorker, statuses]
      rfl
  simp only [recordDelivery, mapped_bind, mapped_pure, reasons]
  rw [(withoutTexts_lookup state delivery.workerId).2.2.1]
  cases state.workers.lookup delivery.workerId with
  | none => simp [withoutTexts]
  | some => simp [withoutTexts, mapValues_setField, bareWorker]

theorem applyPayload_bare (payload : ConversationProgramEventPayload) :
    (applyPayload state sequence expectedRevision payload).map withoutTexts =
      (applyPayload (withoutTexts state) sequence expectedRevision (barePayload payload)).map
        withoutTexts := by
  cases payload with simp only [applyPayload, assertFact, openGoal, suspendGoal, openObligation,
      recordCheckpoint, advanceCapabilityEpoch, reserveAction, recordReceipt, spawnWorker,
      registerResponse, releaseThrough, hearThrough, interruptResponse, barePayload,
      requireFocusedGoal_withoutTexts, requireResponse_withoutTexts, mapped_bind, mapped_pure,
      bind_of_mapped]
  | factAsserted =>
    simp only [withoutTexts_invalidateActive]
    simp [withoutTexts]
  | factCorrected key =>
    unfold correctFact
    rw [show (withoutTexts state).facts = state.facts from rfl]
    cases state.facts.lookup key with
    | none => rfl
    | some =>
      simp only [mapped_bind, mapped_pure, withoutTexts_invalidateActive]
      simp [withoutTexts, supersedeWorkersDependingOnFact, supersede_bareWorkers]
  | goalOpened | obligationOpened | audibilityResponseRegistered =>
    simp [withoutTexts, mapValues_setField, bareGoal, bareObligation, bareResponse]
  | goalFocused goalId => exact (focusGoal_withoutTexts state goalId).symm
  | goalSuspended goalId reason =>
    simp only [leaveFocus_withoutTexts state _ goalId .suspended (some "") (some reason)]
  | goalCompleted goalId => exact (completeGoal_withoutTexts state goalId).symm
  | flowCheckpointRecorded checkpoint =>
    rw [show (withoutTexts state).flowCheckpoints = state.flowCheckpoints from rfl]
    cases state.flowCheckpoints.lookup checkpoint.goalId with
    | none | some current =>
      simp only [mapped_bind, mapped_pure]
      simp only [withoutTexts, bare_twice]
      rfl
  | obligationSettled obligationId =>
    unfold settleObligation
    rw [(withoutTexts_lookup state obligationId).2.1]
    cases state.obligations.lookup obligationId with
    | none => rfl
    | some =>
      simp only [Option.map_some, mapped_bind, mapped_pure]
      simp only [withoutTexts, bare_twice, mapValues_setField]
      rfl
  | capabilityEpochAdvanced =>
    simp only [withoutTexts, bare_twice, revokeReservedActions]
    rfl
  | actionReserved =>
    simp only [withoutTexts, bare_twice]
    rfl
  | actionReceiptRecorded receipt =>
    rw [show (withoutTexts state).reservations = state.reservations from rfl]
    cases state.reservations.lookup receipt.reservationId with
    | none => rfl
    | some =>
      simp only [mapped_bind, mapped_pure]
      simp [withoutTexts]
  | workerSpawned =>
    simp only [withoutTexts, bare_twice, mapValues_setField, hasField_mapValues]
    rfl
  | workerDeliveryRecorded delivery => exact (recordDelivery_withoutTexts state sequence delivery).symm
  | workerCancelled workerId =>
    unfold cancelWorker
    rw [(withoutTexts_lookup state workerId).2.2.1]
    cases state.workers.lookup workerId with
    | none => rfl
    | some =>
      simp only [Option.map_some, mapped_bind, mapped_pure]
      simp only [withoutTexts, bare_twice, mapValues_setField]
      rfl
  | audibilityReleasedThrough | audibilityHeardThrough | audibilityInterrupted =>
    simp only [withoutTexts, bare_twice, mapValues_setField]
    rfl

end Erasure

/-! ## Parsed and raw replays -/

/-- Applying the parsed event. -/
def applyParsed (state : MutableProjection) (event : ConversationProgramEvent) :
    Except String MutableProjection :=
  applyEvent state event.normalized

/-- Parsed events lead where the events themselves lead, up to texts. -/
theorem replay_parsed (events : List ConversationProgramEvent) :
    (replay applyParsed emptyProjection events).map withoutTexts =
      (replayEvents events).map withoutTexts := by
  refine replay_view withoutTexts ?_ rfl events
  intro first second event same
  simp only [applyParsed, applyEvent, mapped_bind]
  rw [applyPayload_bare, applyPayload_bare second, same, ConversationProgramEvent.normalized]
  cases event.payload <;> rfl

theorem parsed_replays_iff (events : List ConversationProgramEvent) :
    (∃ state, replay applyParsed emptyProjection events = .ok state) ↔
      ∃ state, replayEvents events = .ok state := by
  have same := replay_parsed events
  constructor
  · rintro ⟨state, returned⟩
    rw [returned] at same
    obtain ⟨other, replayed, -⟩ := FlowState.map_ok_iff.mp same.symm
    exact ⟨other, replayed⟩
  · rintro ⟨state, returned⟩
    rw [returned] at same
    obtain ⟨other, replayed, -⟩ := FlowState.map_ok_iff.mp same
    exact ⟨other, replayed⟩

end CallCenter.ProgramTexts
