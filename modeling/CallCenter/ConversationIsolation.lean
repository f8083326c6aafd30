import CallCenter.ConversationAppends
import CallCenter.ConversationTransitions

/-!
# Workers and advisories do not touch authoritative state

The authoritative part of the state is what is left once workers, deliveries and advisories
are dropped and sequence numbers are erased. An event about workers or advisories does not
change that part; any other event changes it as if only that part existed. So the
authoritative payloads alone replay it.
-/

namespace CallCenter.ConversationIsolation

open ObjectFields Guards Replays ConversationEvents ConversationKernel ConversationAppends
  ConversationTransitions

variable {sha256 : String → String}

/-! ## The authoritative part -/

/-- Payloads about facts, goals, commitments, the policy and flow checkpoints. -/
def isAuthoritative : ConversationEventPayload → Bool
  | .factAsserted _ _ _ _ | .factCorrected _ _ _ _ _ => true
  | .goalActivated _ _ | .goalCompleted _ | .goalSuspended _ _ | .goalResumed _ => true
  | .commitmentOpened _ _ _ | .commitmentResolved _ _ => true
  | .policyAdvanced _ _ | .flowCheckpointRecorded _ => true
  | .workerSpawned _ | .workerCancelled _ _ | .workerFinished _ _ _ _ => false
  | .workerResultDelivered _ | .advisoryRecorded _ _ => false

def authoritativePayload (event : ConversationEvent) : Option ConversationEventPayload :=
  if isAuthoritative event.payload then some event.payload else none

def authoritativePayloads (log : ConversationLog) : List ConversationEventPayload :=
  log.events.filterMap authoritativePayload

def factContent (fact : AuthoritativeFact) : AuthoritativeFact := { fact with sequence := 0 }

def goalContent (goal : ConversationGoal) : ConversationGoal := { goal with activatedSequence := 0 }

def commitmentContent (commitment : ConversationCommitment) : ConversationCommitment :=
  { commitment with
    openedSequence := 0
    resolvedSequence := commitment.resolvedSequence.map fun _ => 0 }

def checkpointContent (record : FlowCheckpointRecord) : FlowCheckpointRecord :=
  { record with sequence := 0 }

/-- The state without workers, deliveries and advisories and without sequence numbers. -/
def control (state : MutableState) : MutableState :=
  { emptyMutableState with
    facts := mapValues factContent state.facts
    goals := mapValues goalContent state.goals
    currentGoalId := state.currentGoalId
    commitments := mapValues commitmentContent state.commitments
    policy := state.policy
    flowCheckpoints := mapValues checkpointContent state.flowCheckpoints }

/-- An event of which only the payload is known. -/
def bareEvent (payload : ConversationEventPayload) : ConversationEvent :=
  { version := CONVERSATION_KERNEL_VERSION
    conversationId := ""
    sequence := 0
    previousHash := GENESIS_HASH
    eventId := ""
    occurredAtMs := 0
    payload
    hash := GENESIS_HASH }

section Steps
variable {state next : MutableState} {sequence : Nat} {eventId : String}
  {payload : ConversationEventPayload}

theorem control_unchanged (applies : EventApplies sha256 state sequence eventId payload next)
    (unauthoritative : isAuthoritative payload = false) : control next = control state := by
  cases applies with
  | workerSpawned | workerCancelled | workerFinished | resultDuplicated | resultAccepted => rfl
  | resultRejected | resultUnapplied | advisoryRecorded => rfl
  | _ => cases unauthoritative

theorem suspendCurrent_content (goals : List (String × ConversationGoal))
    (current : Option String) :
    suspendCurrent (mapValues goalContent goals) current =
      mapValues goalContent (suspendCurrent goals current) := by
  unfold suspendCurrent
  cases current.filter (· ≠ "") with
  | none => rfl
  | some goalId =>
    dsimp only
    rw [lookup_mapValues]
    cases goals.lookup goalId with
    | none => rfl
    | some prior =>
      dsimp only [Option.map]
      have same : (goalContent prior).status = prior.status := rfl
      rw [same]
      by_cases active : prior.status = .active
      · rw [if_pos active, if_pos active, mapValues_setField]
        rfl
      · rw [if_neg active, if_neg active]

/-- An authoritative event does to the authoritative part what it does to the state. -/
theorem control_applies (applies : EventApplies sha256 state sequence eventId payload next)
    (authoritative : isAuthoritative payload) :
    applyEvent sha256 (control state) (bareEvent payload) = .ok (control next) := by
  cases applies with
  | factAsserted _ _ _ _ fresh | goalActivated _ _ fresh =>
    simp only [applyEvent, bareEvent, assertFact, activateGoal, control, hasField_mapValues,
      guarded_ok_iff, pure_ok_iff, mapValues_setField, suspendCurrent_content]
    exact ⟨by simp [hasField, fresh], rfl⟩
  | factCorrected key value expectedRevision revision authority prior found expected contiguous =>
    simp only [applyEvent, bareEvent, correctFact, control, lookup_mapValues, found,
      Option.map_some, guarded_ok_iff, pure_ok_iff, decide_eq_true_eq, mapValues_setField]
    exact ⟨⟨expected, contiguous⟩, rfl⟩
  | goalCompleted goalId goal found active current
  | goalSuspended goalId reason goal found active current =>
    simp only [applyEvent, bareEvent, leaveGoal, control, lookup_mapValues, found, Option.map_some,
      guarded_ok_iff, pure_ok_iff, mapValues_setField]
    exact ⟨decide_eq_true ⟨active, current⟩, rfl⟩
  | goalResumed goalId goal found suspended idle =>
    simp only [applyEvent, bareEvent, resumeGoal, control, lookup_mapValues, found, Option.map_some,
      guarded_ok_iff, pure_ok_iff, decide_eq_true_eq, Option.isNone_iff_eq_none, mapValues_setField]
    exact ⟨suspended, idle, rfl⟩
  | commitmentOpened commitmentId goalId description fresh known =>
    simp only [applyEvent, bareEvent, openCommitment, control, hasField_mapValues, guarded_ok_iff,
      pure_ok_iff, mapValues_setField]
    exact ⟨by simp [hasField, fresh], known, rfl⟩
  | commitmentResolved commitmentId resolution commitment found unresolved =>
    simp only [applyEvent, bareEvent, resolveCommitment, control, lookup_mapValues, found,
      Option.map_some, guarded_ok_iff, pure_ok_iff, Option.isNone_iff_eq_none, mapValues_setField]
    exact ⟨unresolved, rfl⟩
  | policyAdvanced epoch invariants contiguous =>
    simp only [applyEvent, bareEvent, advancePolicy, control, guarded_ok_iff, pure_ok_iff, and_true]
    exact decide_eq_true contiguous
  | flowCheckpointRecorded checkpoint current advances =>
    simp only [applyEvent, bareEvent, recordCheckpoint, control, lookup_mapValues, guarded_ok_iff,
      mapValues_setField]
    refine ⟨decide_eq_true current, ?_⟩
    cases known : state.flowCheckpoints.lookup checkpoint.goalId with
    | none => rfl
    | some prior =>
      simp only [Option.map_some, bind_ok_iff, pure_ok_iff]
      exact ⟨(), advances prior known, rfl⟩
  | _ => cases authoritative

end Steps

/-- The authoritative payloads of a log replay the authoritative part of its state. -/
theorem control_replayed {log : ConversationLog} {state : MutableState}
    (replayed : replayEvents sha256 log.events = .ok state) :
    replay (fun state payload => applyEvent sha256 state (bareEvent payload))
        (control emptyMutableState) (authoritativePayloads log) =
      .ok (control state) := by
  refine replay_projected control authoritativePayload _ ?_ ?_ replayed
  · intro before event after payload applied visible
    by_cases authoritative : isAuthoritative event.payload = true
    · rw [authoritativePayload, if_pos authoritative] at visible
      cases visible
      exact control_applies (applyEvent_applies applied) authoritative
    · rw [authoritativePayload, if_neg authoritative] at visible
      cases visible
  · intro before event after applied visible
    by_cases authoritative : isAuthoritative event.payload = true
    · rw [authoritativePayload, if_pos authoritative] at visible
      cases visible
    · exact control_unchanged (applyEvent_applies applied) (Bool.eq_false_iff.mpr authoritative)

/-! ## What callers read -/

/-- The authoritative part of a folded state, without sequence numbers. -/
structure AuthoritativeView where
  facts : List AuthoritativeFact
  goals : List ConversationGoal
  currentGoal : Option ConversationGoal
  commitments : List ConversationCommitment
  policy : ConversationPolicy
  flowCheckpoints : List FlowCheckpointRecord
  currentFlowCheckpoint : Option FlowCheckpointRecord

def authoritativeView (folded : ConversationState) : AuthoritativeView where
  facts := folded.facts.map factContent
  goals := folded.goals.map goalContent
  currentGoal := folded.currentGoal.map goalContent
  commitments := folded.commitments.map commitmentContent
  policy := folded.policy
  flowCheckpoints := folded.flowCheckpoints.map checkpointContent
  currentFlowCheckpoint := folded.currentFlowCheckpoint.map checkpointContent

/-- Changes that keep the identity keep the order. -/
theorem sortById_mapValues {α : Type} {idOf : α → String} {change : α → α}
    (kept : ∀ item, idOf (change item) = idOf item) (entries : List (String × α)) :
    sortById idOf (mapValues change entries) = (sortById idOf entries).map change := by
  have values : (mapValues change entries).map Prod.snd = (entries.map Prod.snd).map change := by
    simp [mapValues]
  rw [sortById, sortById, values]
  refine (List.map_insertionSort _ _ change _ ?_).symm
  intro left _ right _
  rw [kept, kept]

/-- Changes that keep the identity change what is found under it. -/
theorem find_map {α : Type} {idOf : α → String} {change : α → α}
    (kept : ∀ item, idOf (change item) = idOf item) (items : List α) (current : Option String) :
    (current.bind fun key => (items.map change).find? fun item => decide (idOf item = key)) =
      (current.bind fun key => items.find? fun item => decide (idOf item = key)).map change := by
  cases current with
  | none => rfl
  | some => exact KeyedTables.lookupRow_map kept

/-- The view depends on the authoritative part only. -/
theorem authoritativeView_control (log : ConversationLog) (state : MutableState) :
    authoritativeView (conversationState log state) =
      { facts := sortById AuthoritativeFact.key (control state).facts
        goals := sortById ConversationGoal.goalId (control state).goals
        currentGoal := ((control state).currentGoalId.filter (· ≠ "")).bind fun goalId =>
          (sortById ConversationGoal.goalId (control state).goals).find? fun goal =>
            goal.goalId = goalId
        commitments := sortById ConversationCommitment.commitmentId (control state).commitments
        policy := (control state).policy
        flowCheckpoints := sortById checkpointGoal (control state).flowCheckpoints
        currentFlowCheckpoint := ((control state).currentGoalId.filter (· ≠ "")).bind fun goalId =>
          (sortById checkpointGoal (control state).flowCheckpoints).find? fun record =>
            checkpointGoal record = goalId } := by
  have keys : ∀ fact, (factContent fact).key = fact.key := fun _ => rfl
  have goals : ∀ goal, (goalContent goal).goalId = goal.goalId := fun _ => rfl
  have commitments : ∀ commitment,
      (commitmentContent commitment).commitmentId = commitment.commitmentId := fun _ => rfl
  have checkpoints : ∀ record,
      checkpointGoal (checkpointContent record) = checkpointGoal record := fun _ => rfl
  simp only [control, authoritativeView, conversationState, sortById_mapValues keys,
    sortById_mapValues goals, sortById_mapValues commitments, sortById_mapValues checkpoints,
    find_map goals, find_map checkpoints]

/-- Two logs of the append interface with the same authoritative payloads, whatever their
workers and advisories, fold to the same authoritative state. -/
theorem authoritative_state_isolated (sha256 : String → String) (leftId rightId : String)
    (left right : ConversationLog) (leftCreated : createConversationLog leftId = .ok left)
    (rightCreated : createConversationLog rightId = .ok right)
    (leftBatches rightBatches : List (List ConversationEventDraft))
    (same : authoritativePayloads (buildLog sha256 left leftBatches) =
      authoritativePayloads (buildLog sha256 right rightBatches)) :
    ∃ leftState rightState,
      foldConversation sha256 (buildLog sha256 left leftBatches) = .ok leftState ∧
        foldConversation sha256 (buildLog sha256 right rightBatches) = .ok rightState ∧
        authoritativeView leftState = authoritativeView rightState := by
  obtain ⟨first, firstSound⟩ : ∃ state, Sound sha256 (buildLog sha256 left leftBatches) state :=
    buildLog_sound leftCreated leftBatches
  obtain ⟨second, secondSound⟩ : ∃ state, Sound sha256 (buildLog sha256 right rightBatches) state :=
    buildLog_sound rightCreated rightBatches
  refine ⟨_, _, (foldConversation_ok_iff _ _).mpr ⟨first, firstSound, rfl⟩,
    (foldConversation_ok_iff _ _).mpr ⟨second, secondSound, rfl⟩, ?_⟩
  have firstReplayed := control_replayed firstSound.replayed
  rw [same, control_replayed secondSound.replayed] at firstReplayed
  have controls : control second = control first := Except.ok.inj firstReplayed
  rw [authoritativeView_control, authoritativeView_control, controls]

/-- A draft about workers or advisories adds no authoritative payload. -/
theorem authoritativePayloads_appendStep (log : ConversationLog) (draft : ConversationEventDraft)
    (unauthoritative : isAuthoritative draft.payload = false) :
    authoritativePayloads (appendStep sha256 log [draft]) = authoritativePayloads log := by
  unfold appendStep
  split
  · next next appended =>
    obtain ⟨state, extension, sound, extended, rfl⟩ :=
      (appendConversationEvents_ok_iff _ _ _).mp appended
    obtain ⟨_, stepped, done⟩ := (replay_cons_ok_iff _ _).mp extended
    cases done
    obtain ⟨-, ⟨rfl, _⟩ | ⟨_, _, _, events, _⟩⟩ := appendDraft_cases stepped
    · rfl
    · have hidden : authoritativePayload
          (signEvent sha256 log.conversationId log.events draft) = none := by
        rw [authoritativePayload, signEvent, unauthoritative]
        rfl
      rw [authoritativePayloads, withEvents, events, List.filterMap_append,
        List.filterMap_cons_none hidden]
      simp [authoritativePayloads]
  · rfl

theorem eventCount_of_fold {log : ConversationLog} {folded : ConversationState}
    (returned : foldConversation sha256 log = .ok folded) :
    folded.eventCount = log.events.length := by
  obtain ⟨state, _, rfl⟩ := (foldConversation_ok_iff _ _).mp returned
  rfl

/-- A summary of the model. -/
def summaryDraft : ConversationEventDraft := ⟨"event-2", 0, .advisoryRecorded "s" "Upset"⟩

/-- The summary is recorded and the authoritative state is the one without it. -/
theorem summary_isolated : createConversationLog "call-1" = .ok openedCall ∧ ∃ plain summarized,
        foldConversation Sha256.digest (buildLog Sha256.digest openedCall [[openingDraft]]) =
            .ok plain ∧
          foldConversation Sha256.digest
            (buildLog Sha256.digest openedCall [[openingDraft], [summaryDraft]]) = .ok summarized ∧
          plain.eventCount = 1 ∧ summarized.eventCount = 2 ∧
          authoritativeView plain = authoritativeView summarized := by
  have created : createConversationLog "call-1" = .ok openedCall := by rfl
  have counts : (buildLog Sha256.digest openedCall [[openingDraft]]).events.length = 1 ∧
      (buildLog Sha256.digest openedCall [[openingDraft], [summaryDraft]]).events.length = 2 := by
    decide +kernel
  have same : authoritativePayloads (buildLog Sha256.digest openedCall [[openingDraft]]) =
      authoritativePayloads
        (buildLog Sha256.digest openedCall [[openingDraft], [summaryDraft]]) := by
    have extended : buildLog Sha256.digest openedCall [[openingDraft], [summaryDraft]] =
        appendStep Sha256.digest (buildLog Sha256.digest openedCall [[openingDraft]])
          [summaryDraft] :=
      Runs.run_snoc (appendStep Sha256.digest) openedCall [[openingDraft]] [summaryDraft]
    rw [extended]
    exact (authoritativePayloads_appendStep _ summaryDraft rfl).symm
  obtain ⟨plain, summarized, plainFolds, summarizedFolds, views⟩ :=
    authoritative_state_isolated Sha256.digest "call-1" "call-1" openedCall openedCall created created
      [[openingDraft]] [[openingDraft], [summaryDraft]] same
  have plainCount := eventCount_of_fold plainFolds
  have summarizedCount := eventCount_of_fold summarizedFolds
  exact ⟨created, plain, summarized, plainFolds, summarizedFolds, plainCount.trans counts.1,
    summarizedCount.trans counts.2, views⟩

end CallCenter.ConversationIsolation
