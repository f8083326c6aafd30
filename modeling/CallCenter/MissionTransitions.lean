import CallCenter.MissionSettlement

/-!
# What one mission operation can do

`MissionTransition` says, once for each operation, which guards a call that returns has
passed and which state it hands to the ledger. `operate_transition` derives it from the
code of the operations; invariants of missions are proved from it.
-/

namespace CallCenter.MissionTransitions

open JsonValues FlowState ObjectFields Guards MissionSchema MissionLedger MissionRuntime
  MissionSettlement

section Transitions
variable (sha256 : String → String) (definition : MissionDefinition) (state : MissionState)

/-- An authorized proposal. -/
def authorizeProposal (evidenceId : String) (candidate : MissionProposal) : MissionProposal :=
  { candidate with
    status := .authorized
    authorizedRevision := some (state.revision + 1)
    authorizedEpoch := some state.capabilityEpoch
    confirmationEvidenceId := some evidenceId }

/-- A proposal with a receipt. -/
def settleProposal (input : SettleInput) (candidate : MissionProposal) : MissionProposal :=
  { candidate with
    status := if input.status = .indeterminate then .indeterminate else .settled
    receiptId := some input.receiptId }

/-- The key under which a proposal repeats another. -/
def proposedKey (item : MissionCapability) (goalId : String) (input : ProposeInput) : String :=
  idempotencyKey sha256 item goalId (sha256 (Value.object input.arguments).text) input.nonce

/-- The guards that a returned call passed, the patched state that it hands to the ledger,
and whether capabilities rotate. -/
inductive MissionTransition : MissionOperation → MissionState → Bool → Prop where
  | activated (input : ActivateInput) (selected : MissionGoal) (known : GoalState)
      (declared : goal definition input.goalId = .ok selected)
      (running : state.status = .active)
      (ready : ∀ dependency ∈ selected.dependsOn, goalStatus state dependency = some .completed)
      (admitted : requireMode definition input.mode (currentGoalId state) selected = .ok ())
      (listed : state.goals.lookup selected.id = some known)
      (idle : known.status = .queued ∨ known.status = .suspended) :
      MissionTransition (.activateMissionGoal input) { state with
          goals := activatedGoals state.goals (currentGoalId state) selected.id
            known.activationCount
          focusStack := state.focusStack ++ [selected.id] } true
  | factRecorded (input : FactInput) (identified : isId input.factId = true)
      (superseding : requireSupersession (factAt state input.factId) input = .ok ()) :
      MissionTransition (.recordMissionFact input) { state with
          facts := setField state.facts input.factId (newFact (factAt state input.factId) input)
          proposals := state.proposals.map revokeOpen } true
  | obligationOpened (input : ObligationInput)
      (compensable : requireKnown input.compensationAction (capability definition) = .ok ())
      (identified : isExternalId (newObligation state input).obligationId = true)
      (unused : ∀ item ∈ state.obligations,
        item.obligationId ≠ (newObligation state input).obligationId) :
      MissionTransition (.openMissionObligation input)
        { state with obligations := state.obligations ++ [newObligation state input] } true
  | actionProposed (input : ProposeInput) (item : MissionCapability)
      (decisions : List CapabilityDecision) (decision : CapabilityDecision)
      (goalId proposalId : String)
      (declared : capability definition input.action = .ok item)
      (available : availableMissionCapabilities sha256 definition state = .ok decisions)
      (disclosed : decisions.find? (fun candidate => candidate.action = input.action) =
        some decision)
      (allowed : decision.allowed = true) (focused : decision.goalId = some goalId)
      (first : replayedReceipt state item (proposedKey sha256 item goalId input) = none)
      (identified : isExternalId proposalId = true)
      (unused : ∀ proposal ∈ state.proposals, proposal.proposalId ≠ proposalId) :
      MissionTransition (.proposeMissionAction input) { state with
          proposals := state.proposals ++ [newProposal sha256 state item goalId proposalId
            input.arguments (proposedKey sha256 item goalId input)
            decision.compensationObligationId] } false
  | actionAuthorized (input : AuthorizeInput) (proposal : MissionProposal)
      (item : MissionCapability) (confirmation : Confirmation)
      (found : state.proposals.find? (fun candidate => candidate.proposalId = input.proposalId) =
        some proposal)
      (awaiting : proposal.status = .proposed)
      (bound : proposal.proposalDigest = input.proposalDigest)
      (declared : capability definition proposal.action = .ok item)
      (asked : item.confirmation = some confirmation)
      (later : proposal.proposedRevision < input.observedAfterRevision)
      (focused : currentGoalId state = some proposal.goalId) :
      MissionTransition (.authorizeMissionAction input) { state with
          proposals := rewriteProposal state.proposals proposal.proposalId
            (authorizeProposal state input.evidenceId) } false
  | actionSettled (input : SettleInput) (proposal : MissionProposal) (item : MissionCapability)
      (obligations : List MissionObligation) (receipts : List MissionReceipt)
      (found : state.proposals.find? (fun candidate => candidate.proposalId = input.proposalId) =
        some proposal)
      (authorized : proposal.status = .authorized)
      (focused : currentGoalId state = some proposal.goalId)
      (current : proposal.authorizedEpoch = some state.capabilityEpoch)
      (identified : isExternalId input.receiptId = true)
      (unused : ∀ receipt ∈ state.receipts, receipt.receiptId ≠ input.receiptId)
      (declared : capability definition proposal.action = .ok item)
      (settled : settlement definition state item proposal
        (newReceipt sha256 state proposal input) = .ok (obligations, receipts)) :
      MissionTransition (.settleMissionAction input) { state with
          proposals := rewriteProposal state.proposals proposal.proposalId (settleProposal input)
          receipts := receipts ++ [newReceipt sha256 state proposal input]
          obligations } true
  | goalCompleted (input : CompleteGoalInput) (selected : MissionGoal)
      (declared : goal definition input.goalId = .ok selected)
      (focused : currentGoalId state = some selected.id)
      (active : goalStatus state selected.id = some .active)
      (satisfied : ∀ predicate ∈ selected.completion,
        evaluatePredicate state predicate (some selected.id) = true) :
      MissionTransition (.completeMissionGoal input)
        (closeFocused state selected.id .completed) true
  | goalAbandoned (input : AbandonInput) (selected : MissionGoal)
      (declared : goal definition input.goalId = .ok selected)
      (optional : selected.required = false)
      (focused : currentGoalId state = some selected.id)
      (active : goalStatus state selected.id = some .active)
      (discharged : ∀ obligation ∈ state.obligations, obligation.status = .opened →
        obligation.scopeGoalId ≠ some selected.id)
      (resolved : ∀ proposal ∈ state.proposals, proposal.goalId = selected.id →
        unresolvedProposal proposal = false) :
      MissionTransition (.abandonMissionGoal input) (closeFocused state selected.id .abandoned) true
  | missionCompleted (recordedAt : String)
      (achieved : ∀ candidate ∈ definition.goals, candidate.required = true →
        goalStatus state candidate.id = some .completed)
      (unfocused : state.focusStack = [])
      (discharged : ∀ obligation ∈ state.obligations, obligation.status ≠ .opened)
      (resolved : ∀ proposal ∈ state.proposals, unresolvedProposal proposal = false) :
      MissionTransition (.completeMission recordedAt)
        { state with status := .completed, focusStack := [] } true

/-- The ledger accepted the patched state of a transition. -/
def Advances (operation : MissionOperation) (next : MissionState) : Prop :=
  ∃ patched rotate eventType payload recordedAt,
    MissionTransition sha256 definition state operation patched rotate ∧
      appendEvent sha256 state patched eventType payload recordedAt rotate = .ok next

end Transitions

section Inversion
variable {sha256 : String → String} {definition : MissionDefinition} {state next : MissionState}

variable {goalId : String}

/-- What reading a goal of the state returns. -/
theorem knownGoal_ok {known : GoalState}
    (read : knownGoal state goalId = .ok known) : state.goals.lookup goalId = some known := by
  unfold knownGoal at read
  split at read
  · cases read
  · next found => cases read; exact found

theorem activateMissionGoal_advances {input : ActivateInput}
    (returned : activateMissionGoal sha256 definition state input = .ok next) :
    Advances sha256 definition state (.activateMissionGoal input) next := by
  simp only [activateMissionGoal, activateGoal, bind_ok_iff, require_ok_iff, decide_eq_true_eq,
    List.all_eq_true] at returned
  obtain ⟨-, -, selected, declared, -, running, -, ready, done, admitted, known, read, -,
    idle, appended⟩ := returned
  exact ⟨_, _, _, _, _, .activated input selected known declared running ready admitted
    (knownGoal_ok read) idle, appended⟩

theorem recordMissionFact_advances {input : FactInput}
    (returned : recordMissionFact sha256 definition state input = .ok next) :
    Advances sha256 definition state (.recordMissionFact input) next := by
  simp only [recordMissionFact, recordFact, bind_ok_iff, require_ok_iff] at returned
  obtain ⟨-, -, -, identified, -, -, -, -, -, -, done, superseding, appended⟩ := returned
  exact ⟨_, _, _, _, _, .factRecorded input identified superseding, appended⟩

theorem openMissionObligation_advances {input : ObligationInput}
    (returned : openMissionObligation sha256 definition state input = .ok next) :
    Advances sha256 definition state (.openMissionObligation input) next := by
  simp only [openMissionObligation, openObligation, assertExternalId, bind_ok_iff, require_ok_iff,
    Bool.not_eq_true', List.any_eq_false, decide_eq_true_eq] at returned
  obtain ⟨-, -, -, -, -, -, done, compensable, -, identified, -, unused, appended⟩ := returned
  exact ⟨_, _, _, _, _, .obligationOpened input compensable identified unused, appended⟩

/-- An allowed decision and its goal. -/
theorem requireAllowed_ok {action : String} {asked : Option CapabilityDecision}
    {decision : CapabilityDecision}
    (admitted : requireAllowed action asked = .ok (decision, goalId)) :
    asked = some decision ∧ decision.allowed = true ∧ decision.goalId = some goalId := by
  unfold requireAllowed at admitted
  split at admitted
  · cases admitted
  · split at admitted
    · next allowed focused =>
      cases admitted
      exact ⟨rfl, allowed, focused⟩
    · cases admitted

/-- A proposal is answered by the receipt it repeats, in the same state, or is appended. -/
theorem proposeMissionAction_advances {input : ProposeInput} {result : ProposeResult}
    (returned : proposeMissionAction sha256 definition state input = .ok result) :
    result.state = state ∨
      Advances sha256 definition state (.proposeMissionAction input) result.state := by
  simp only [proposeMissionAction, proposeAction, bind_ok_iff, Prod.exists] at returned
  obtain ⟨-, -, item, declared, decisions, available, decision, goalId, admitted, -, -,
    answered⟩ := returned
  obtain ⟨disclosed, allowed, focused⟩ := requireAllowed_ok admitted
  split at answered
  · unfold replayProposal at answered
    split at answered
    · cases answered
    · cases answered
      exact Or.inl rfl
  · next first =>
    simp only [appendProposal, assertExternalId, bind_ok_iff, require_ok_iff, pure_ok_iff,
      Bool.not_eq_true', List.any_eq_false, decide_eq_true_eq] at answered
    obtain ⟨-, identified, -, unused, appended, accepted, rfl⟩ := answered
    exact Or.inr ⟨_, _, _, _, _, .actionProposed input item decisions decision goalId _ declared
      available disclosed allowed focused first identified unused, accepted⟩

/-- The proposal that is read has the asked identity and status. -/
theorem proposalIn_ok {proposalId message : String} {status : ProposalStatus}
    {proposal : MissionProposal}
    (read : proposalIn state proposalId status message = .ok proposal) :
    state.proposals.find? (fun candidate => candidate.proposalId = proposalId) = some proposal ∧
      proposal.status = status := by
  unfold proposalIn at read
  split at read
  · cases read
  · next found =>
    split at read
    · next same =>
      cases read
      exact ⟨found, same⟩
    · cases read

theorem requireConfirmation_ok {item : MissionCapability} {confirmation : Confirmation}
    (read : requireConfirmation item = .ok confirmation) :
    item.confirmation = some confirmation := by
  unfold requireConfirmation at read
  split at read
  · cases read
  · next found => cases read; exact found

theorem authorizeMissionAction_advances {input : AuthorizeInput}
    (returned : authorizeMissionAction sha256 definition state input = .ok next) :
    Advances sha256 definition state (.authorizeMissionAction input) next := by
  simp only [authorizeMissionAction, authorizeAction, bind_ok_iff, require_ok_iff, decide_eq_true_eq] at returned
  obtain ⟨-, -, proposal, read, -, bound, item, declared, confirmation, asked, -, -, -,
    later, -, -, -, -, -, -, -, -, -, focused, appended⟩ := returned
  obtain ⟨found, awaiting⟩ := proposalIn_ok read
  exact ⟨_, _, _, _, _, .actionAuthorized input proposal item confirmation found awaiting bound
    declared (requireConfirmation_ok asked) later.1 focused.symm, appended⟩

theorem settleMissionAction_advances {input : SettleInput}
    (returned : settleMissionAction sha256 definition state input = .ok next) :
    Advances sha256 definition state (.settleMissionAction input) next := by
  simp only [settleMissionAction, settleAction, assertExternalId, bind_ok_iff, require_ok_iff, Prod.exists,
    Bool.not_eq_true', List.any_eq_false, decide_eq_true_eq] at returned
  obtain ⟨-, -, proposal, read, -, focused, -, current, -, identified, -, unused, item,
    declared, -, -, -, -, obligations, receipts, settled, appended⟩ := returned
  obtain ⟨found, authorized⟩ := proposalIn_ok read
  exact ⟨_, _, _, _, _, .actionSettled input proposal item obligations receipts found authorized
    focused.symm current identified unused declared settled, appended⟩

/-- The focused goal is active. -/
theorem requireFocused_ok {message : String} {done : Unit}
    (passed : requireFocused state goalId message = .ok done) :
    currentGoalId state = some goalId ∧ goalStatus state goalId = some .active := by
  simp only [requireFocused, bind_ok_iff, require_ok_iff, decide_eq_true_eq] at passed
  obtain ⟨-, focused, known, read, active⟩ := passed
  refine ⟨focused, ?_⟩
  rw [goalStatus, knownGoal_ok read, Option.map_some, active]

theorem completeMissionGoal_advances {input : CompleteGoalInput}
    (returned : completeMissionGoal sha256 definition state input = .ok next) :
    Advances sha256 definition state (.completeMissionGoal input) next := by
  simp only [completeMissionGoal, completeGoal, bind_ok_iff, require_ok_iff, decide_eq_true_eq,
    List.length_eq_zero_iff, List.filter_eq_nil_iff, Bool.not_eq_true', Bool.not_eq_false]
    at returned
  obtain ⟨-, -, selected, declared, done, passed, -, satisfied, -, -, appended⟩ := returned
  obtain ⟨focused, active⟩ := requireFocused_ok passed
  exact ⟨_, _, _, _, _, .goalCompleted input selected declared focused active satisfied, appended⟩

theorem abandonMissionGoal_advances {input : AbandonInput}
    (returned : abandonMissionGoal sha256 definition state input = .ok next) :
    Advances sha256 definition state (.abandonMissionGoal input) next := by
  simp only [abandonMissionGoal, abandonGoal, bind_ok_iff, require_ok_iff, Bool.not_eq_true',
    List.any_eq_false, Bool.and_eq_true, decide_eq_true_eq, not_and] at returned
  obtain ⟨-, -, selected, declared, -, optional, done, passed, -, -, -, -, -, discharged, -,
    resolved, appended⟩ := returned
  obtain ⟨focused, active⟩ := requireFocused_ok passed
  refine ⟨_, _, _, _, _, .goalAbandoned input selected declared optional focused active
    discharged ?_, appended⟩
  intro proposal member same
  exact Bool.eq_false_iff.mpr (resolved proposal member same)

theorem completeMission_advances {recordedAt : String}
    (returned : completeMission sha256 definition state recordedAt = .ok next) :
    Advances sha256 definition state (.completeMission recordedAt) next := by
  simp only [completeMission, closeMission, bind_ok_iff, require_ok_iff, decide_eq_true_eq,
    List.isEmpty_iff, List.length_eq_zero_iff, List.filter_eq_nil_iff, Bool.not_eq_true',
    Bool.and_eq_true, List.any_eq_false, not_and, not_not] at returned
  obtain ⟨-, -, -, achieved, -, ⟨unfocused, -⟩, -, discharged, -, resolved, appended⟩ :=
    returned
  refine ⟨_, _, _, _, _, .missionCompleted recordedAt achieved unfocused discharged ?_, appended⟩
  intro proposal member
  exact Bool.eq_false_iff.mpr (resolved proposal member)

/-- Every call that returns leaves the state alone or makes the transition of its
operation. -/
theorem operate_advances {operation : MissionOperation}
    (returned : operate sha256 definition state operation = .ok next) :
    next = state ∨ Advances sha256 definition state operation next := by
  cases operation with
  | activateMissionGoal => exact Or.inr (activateMissionGoal_advances returned)
  | recordMissionFact => exact Or.inr (recordMissionFact_advances returned)
  | openMissionObligation => exact Or.inr (openMissionObligation_advances returned)
  | proposeMissionAction =>
    obtain ⟨result, proposed, rfl⟩ := map_ok_iff.mp returned
    exact proposeMissionAction_advances proposed
  | authorizeMissionAction => exact Or.inr (authorizeMissionAction_advances returned)
  | settleMissionAction => exact Or.inr (settleMissionAction_advances returned)
  | completeMissionGoal => exact Or.inr (completeMissionGoal_advances returned)
  | abandonMissionGoal => exact Or.inr (abandonMissionGoal_advances returned)
  | completeMission => exact Or.inr (completeMission_advances returned)

/-- The step of a run leaves the state alone or makes the transition of its operation. -/
theorem missionStep_advances (operation : MissionOperation) :
    missionStep sha256 definition state operation = state ∨
      Advances sha256 definition state operation
        (missionStep sha256 definition state operation) := by
  unfold missionStep
  split
  · next returned => exact operate_advances returned
  · exact Or.inl rfl

/-- The state that the ledger returns. -/
theorem appendEvent_ok {patched : MissionState} {eventType recordedAt : String} {payload : Value}
    {rotate : Bool}
    (appended : appendEvent sha256 state patched eventType payload recordedAt rotate = .ok next) :
    ∃ advanced : MissionState, advanced = { patched with
        revision := state.revision + 1
        capabilityEpoch := if rotate then state.capabilityEpoch + 1 else state.capabilityEpoch } ∧
      next = { advanced with
        events := state.events ++
          [nextEvent sha256 state advanced eventType payload recordedAt] } := by
  unfold appendEvent at appended
  split at appended
  · cases appended
  · split at appended
    · cases appended
    · cases appended
      exact ⟨_, rfl, rfl⟩

/-- The step of a run leaves the state alone, or is the patched state of its transition
with the next revision, the rotated epoch and a longer ledger. -/
theorem missionStep_moves (operation : MissionOperation) :
    missionStep sha256 definition state operation = state ∨
      ∃ patched rotate events, MissionTransition sha256 definition state operation patched rotate ∧
        missionStep sha256 definition state operation = { patched with
            revision := state.revision + 1
            capabilityEpoch := if rotate then state.capabilityEpoch + 1 else state.capabilityEpoch
            events } := by
  have advances : missionStep sha256 definition state operation = state ∨ _ :=
    missionStep_advances operation
  obtain same | ⟨patched, rotate, eventType, payload, recordedAt, transition, appended⟩ := advances
  · exact Or.inl same
  · obtain ⟨_, rfl, moved⟩ := appendEvent_ok appended
    exact Or.inr ⟨patched, rotate, _, transition, moved⟩

/-- What holds of a state and is kept by its transitions holds after the step of a run. -/
theorem missionStep_keeps {operation : MissionOperation} (Kept : MissionState → Prop)
    (known : Kept state)
    (moves : ∀ patched rotate events, MissionTransition sha256 definition state operation patched rotate →
      Kept { patched with
        revision := state.revision + 1
        capabilityEpoch := if rotate then state.capabilityEpoch + 1 else state.capabilityEpoch
        events }) :
    Kept (missionStep sha256 definition state operation) := by
  have moved : missionStep sha256 definition state operation = state ∨ _ :=
    missionStep_moves operation
  obtain same | ⟨patched, rotate, events, transition, moved⟩ := moved
  · exact same.symm ▸ known
  · exact moved.symm ▸ moves patched rotate events transition

end Inversion

/-- The ledger of a mission only grows, by one event for each revision, and epochs never go back. -/
theorem mission_ledger_grows (sha256 : String → String) (definition : MissionDefinition)
    (state : MissionState) (operations : List MissionOperation) :
    let reached := runMission sha256 definition state operations
    ∃ added, reached.events = state.events ++ added ∧
      reached.revision = state.revision + added.length ∧
      state.capabilityEpoch ≤ reached.capabilityEpoch := by
  refine Runs.run_invariant (fun reached : MissionState => ∃ added,
    reached.events = state.events ++ added ∧ reached.revision = state.revision + added.length ∧
      state.capabilityEpoch ≤ reached.capabilityEpoch) ⟨[], by simp⟩ ?_ operations
  rintro reached operation ⟨added, events, revision, epoch⟩
  have advances : missionStep sha256 definition reached operation = reached ∨ _ :=
    missionStep_advances operation
  rcases advances with same | ⟨patched, rotate, eventType, payload, recordedAt, -, appended⟩
  · rw [same]
    exact ⟨added, events, revision, epoch⟩
  · obtain ⟨_, rfl, moved⟩ := appendEvent_ok appended
    rw [moved]
    refine ⟨added ++ [_], by rw [events, List.append_assoc], ?_, ?_⟩
    · rw [List.length_append, revision]
      rfl
    · dsimp only
      split <;> omega

end CallCenter.MissionTransitions
