import CallCenter.MissionRuntime
import CallCenter.Runs

/-!
# Settlement and completion of a mission

The second half of the mission runtime: settling authorized actions with the obligations
that this opens and satisfies, completing and abandoning goals, and completing the
mission. `MissionOperation` collects all operations; a run of a mission is a run of
`missionStep`, in which a call that throws leaves the state as it was.
-/

namespace CallCenter.MissionSettlement

open JsonValues FlowState Guards MissionSchema MissionLedger MissionRuntime

/-! ## Obligations of a settlement -/

/-- The obligation satisfied by a receipt. -/
def satisfiedBy (revision : Nat) (receiptId : String) (obligation : MissionObligation) :
    MissionObligation :=
  { obligation with
    status := .satisfied
    settledRevision := some revision
    evidenceId := some receiptId }

def satisfyObligations (obligations : List MissionObligation) (types : List String)
    (goalId : String) (revision : Nat) (receiptId : String) : List MissionObligation :=
  obligations.map fun obligation =>
    if obligation.status = .opened ∧ obligation.scopeGoalId = some goalId
        ∧ obligation.obligationType ∈ types then
      satisfiedBy revision receiptId obligation
    else obligation

/-- The obligation that a successful action opens. -/
def templateObligation (receipt : MissionReceipt) (template : MissionObligationTemplate) :
    MissionObligation :=
  { obligationId := s!"obl:{receipt.receiptId}:{template.obligationType}"
    obligationType := template.obligationType
    description := template.description
    owner := template.owner
    blocks := template.blocks
    scopeGoalId := some receipt.goalId
    sourceReceiptId := some receipt.receiptId
    compensationAction := none
    status := .opened
    openedRevision := receipt.settledRevision
    settledRevision := none
    evidenceId := none }

/-- The compensation that an earlier receipt of the saga group asks for. -/
def sagaCompensation (definition : MissionDefinition) (saga : Saga) (prior : MissionReceipt) :
    Option String :=
  if prior.status = .succeeded then
    match (definition.capabilities.find? fun entry => entry.name = prior.action).bind
        MissionCapability.saga with
    | none => none
    | some priorSaga =>
      if priorSaga.group = saga.group then priorSaga.compensationAction.filter (· ≠ "") else none
  else none

/-- The obligation to compensate an earlier receipt. -/
def compensationObligation (prior : MissionReceipt) (compensationAction actionName goalId : String)
    (revision : Nat) : MissionObligation :=
  { obligationId := "obl:compensate:" ++ prior.receiptId
    obligationType := "compensate:" ++ prior.action
    description := s!"Compensate {prior.action} after {actionName} did not complete safely."
    owner := .system
    blocks := .missionCompletion
    scopeGoalId := some goalId
    sourceReceiptId := some prior.receiptId
    compensationAction := some compensationAction
    status := .opened
    openedRevision := revision
    settledRevision := none
    evidenceId := none }

/-- Open the compensations that are not known yet, one earlier receipt after another. -/
def openCompensations (definition : MissionDefinition) (saga : Saga) (actionName goalId : String)
    (revision : Nat) : List MissionObligation → List MissionReceipt → List MissionObligation
  | obligations, [] => obligations
  | obligations, prior :: rest =>
    match sagaCompensation definition saga prior with
    | none => openCompensations definition saga actionName goalId revision obligations rest
    | some compensationAction =>
      let opened := compensationObligation prior compensationAction actionName goalId revision
      if obligations.any fun obligation => obligation.obligationId = opened.obligationId then
        openCompensations definition saga actionName goalId revision obligations rest
      else
        openCompensations definition saga actionName goalId revision (obligations ++ [opened]) rest

/-- The obligations after the receipt, before a compensation is closed. -/
def settledObligations (definition : MissionDefinition) (state : MissionState)
    (item : MissionCapability) (receipt : MissionReceipt) : List MissionObligation :=
  match receipt.status with
  | .succeeded | .compensated =>
    satisfyObligations state.obligations item.satisfiesObligationTypes receipt.goalId
        receipt.settledRevision receipt.receiptId
      ++ item.opensObligations.map (templateObligation receipt)
  | .failed | .indeterminate =>
    match item.saga with
    | none => state.obligations
    | some saga =>
      openCompensations definition saga item.name receipt.goalId receipt.settledRevision
        state.obligations state.receipts

/-- Close the compensation obligation to which the proposal is bound. -/
def closeCompensation (obligations : List MissionObligation) (obligationId action : String)
    (receipt : MissionReceipt) : List MissionObligation :=
  obligations.map fun obligation =>
    if obligation.status = .opened ∧ obligation.obligationId = obligationId
        ∧ obligation.compensationAction = some action then
      satisfiedBy receipt.settledRevision receipt.receiptId obligation
    else obligation

/-- A compensated settlement closes its obligation and turns the source receipt into a
compensated one. -/
def compensate (proposal : MissionProposal) (receipt : MissionReceipt)
    (obligations : List MissionObligation) (receipts : List MissionReceipt) :
    Except String (List MissionObligation × List MissionReceipt) :=
  match proposal.compensationObligationId.filter (· ≠ "") with
  | none => .error "compensated settlement is not bound to a compensation obligation"
  | some obligationId =>
    let closed := closeCompensation obligations obligationId proposal.action receipt
    match ((closed.find? fun obligation => obligation.obligationId = obligationId).bind
        MissionObligation.sourceReceiptId).filter (· ≠ "") with
    | none => .error "compensation obligation has no source receipt"
    | some sourceReceiptId =>
      .ok (closed, receipts.map fun prior =>
        if prior.receiptId = sourceReceiptId then { prior with status := .compensated }
        else prior)

/-! ## Settlement -/

variable (sha256 : String → String)

structure SettleInput where
  proposalId : String
  receiptId : String
  status : MissionReceiptStatus
  result : Option Value
  recordedAt : String

/-- A result that is left out is `null`. -/
def resultValue (result : Option Value) : Value := result.getD .null

def resultHash (result : Value) : Option String :=
  match result with
  | .null => none
  | value => some (sha256 value.text)

def newReceipt (state : MissionState) (proposal : MissionProposal) (input : SettleInput) :
    MissionReceipt :=
  { receiptId := input.receiptId
    proposalId := proposal.proposalId
    goalId := proposal.goalId
    action := proposal.action
    argumentsHash := proposal.argumentsHash
    idempotencyKey := proposal.idempotencyKey
    status := input.status
    result := resultValue input.result
    resultHash := resultHash sha256 (resultValue input.result)
    settledRevision := state.revision + 1 }

/-- The ledgers after the receipt. -/
def settlement (definition : MissionDefinition) (state : MissionState) (item : MissionCapability)
    (proposal : MissionProposal) (receipt : MissionReceipt) :
    Except String (List MissionObligation × List MissionReceipt) :=
  let obligations := settledObligations definition state item receipt
  if receipt.status = .compensated then compensate proposal receipt obligations state.receipts
  else .ok (obligations, state.receipts)

/-- The guards and the effect of a settlement. -/
def settleAction (definition : MissionDefinition) (state : MissionState)
    (input : SettleInput) : Except String MissionState := do
  let proposal ← proposalIn state input.proposalId .authorized
    "mission action is not authorized for settlement"
  require (decide (some proposal.goalId = currentGoalId state))
    "mission action goal is no longer focused"
  require (decide (proposal.authorizedEpoch = some state.capabilityEpoch))
    "mission action authority was revoked by a newer state revision"
  assertExternalId input.receiptId "mission receipt_id"
  require (!state.receipts.any fun receipt => decide (receipt.receiptId = input.receiptId))
    "mission receipt id is empty or duplicated"
  let item ← capability definition proposal.action
  requireJson (resultValue input.result)
  validateJsonBounds (resultValue input.result) "mission action result" 1048576
  let receipt := newReceipt sha256 state proposal input
  let (obligations, receipts) ← settlement definition state item proposal receipt
  appendEvent sha256 state { state with
      proposals := rewriteProposal state.proposals proposal.proposalId fun candidate =>
        { candidate with
          status := if input.status = .indeterminate then .indeterminate else .settled
          receiptId := some receipt.receiptId }
      receipts := receipts ++ [receipt]
      obligations }
    "mission.action_settled" receipt.toValue input.recordedAt true

def settleMissionAction (definition : MissionDefinition) (state : MissionState)
    (input : SettleInput) : Except String MissionState := do
  requireVerified sha256 definition state
  settleAction sha256 definition state input

/-! ## Completion -/

/-- The goals and the stack after the focused goal is closed with a status and the one
below it, if any, resumes. -/
def closeFocused (state : MissionState) (goalId : String) (status : GoalStatus) : MissionState :=
  let stack := state.focusStack.dropLast
  let closed := setGoalStatus state.goals goalId status
  { state with
    goals := match stack.getLast? with
      | none => closed
      | some resumed => setGoalStatus closed resumed .active
    focusStack := stack }

/-- The goal is the focused one and is active. -/
def requireFocused (state : MissionState) (goalId message : String) : Except String Unit := do
  require (decide (currentGoalId state = some goalId)) message
  let known ← knownGoal state goalId
  require (decide (known.status = .active)) message

structure CompleteGoalInput where
  goalId : String
  recordedAt : String

/-- The guards and the effect of completing a goal. -/
def completeGoal (definition : MissionDefinition) (state : MissionState)
    (input : CompleteGoalInput) : Except String MissionState := do
  let selected ← goal definition input.goalId
  requireFocused state selected.id "only the focused active goal can complete"
  let failed := (selected.completion.filter fun predicate =>
    !evaluatePredicate state predicate (some selected.id)).length
  require (decide (failed = 0)) s!"goal {selected.id} is missing {failed} completion predicates"
  let blocking := (state.obligations.filter fun obligation =>
    decide (obligation.status = .opened) && decide (obligation.blocks = .goalCompletion)
      && ((obligation.scopeGoalId.filter (· ≠ "")).isNone
        || decide (obligation.scopeGoalId = some selected.id))).length
  require (decide (blocking = 0)) s!"goal {selected.id} has {blocking} open obligations"
  let closed := closeFocused state selected.id .completed
  appendEvent sha256 state closed "mission.goal_completed"
    (.object [("goal_id", .string selected.id),
      ("resumed_goal_id", nullableText (currentGoalId closed))])
    input.recordedAt true

def completeMissionGoal (definition : MissionDefinition) (state : MissionState)
    (input : CompleteGoalInput) : Except String MissionState := do
  requireVerified sha256 definition state
  completeGoal sha256 definition state input

structure AbandonInput where
  goalId : String
  reason : String
  evidenceId : String
  recordedAt : String

/-- A proposal whose action is still open. -/
def unresolvedProposal (proposal : MissionProposal) : Bool :=
  decide (proposal.status = .proposed ∨ proposal.status = .authorized
    ∨ proposal.status = .indeterminate)

/-- The guards and the effect of abandoning a goal. -/
def abandonGoal (definition : MissionDefinition) (state : MissionState)
    (input : AbandonInput) : Except String MissionState := do
  let selected ← goal definition input.goalId
  require (!selected.required) s!"required goal {selected.id} cannot be abandoned"
  requireFocused state selected.id "only the focused active goal can be abandoned"
  require (!isBlank input.reason && decide ((utf16 input.reason).length ≤ 1000))
    "goal abandonment requires a bounded reason"
  assertExternalId input.evidenceId "goal abandonment evidence_id"
  require (!state.obligations.any fun obligation =>
      decide (obligation.status = .opened) && decide (obligation.scopeGoalId = some selected.id))
    s!"goal {selected.id} has unresolved obligations and cannot be abandoned"
  require (!state.proposals.any fun proposal =>
      decide (proposal.goalId = selected.id) && unresolvedProposal proposal)
    s!"goal {selected.id} has unresolved actions and cannot be abandoned"
  let closed := closeFocused state selected.id .abandoned
  appendEvent sha256 state closed "mission.goal_abandoned"
    (.object [("goal_id", .string selected.id), ("reason", .string input.reason),
      ("evidence_id", .string input.evidenceId),
      ("resumed_goal_id", nullableText (currentGoalId closed))])
    input.recordedAt true

def abandonMissionGoal (definition : MissionDefinition) (state : MissionState)
    (input : AbandonInput) : Except String MissionState := do
  requireVerified sha256 definition state
  abandonGoal sha256 definition state input

/-- The guards and the effect of completing the mission. -/
def closeMission (definition : MissionDefinition) (state : MissionState)
    (recordedAt : String) : Except String MissionState := do
  let incomplete := definition.goals.filter fun candidate =>
    candidate.required && decide (goalStatus state candidate.id ≠ some .completed)
  require incomplete.isEmpty
    ("mission has incomplete required goals: " ++ ", ".intercalate (incomplete.map MissionGoal.id))
  require (state.focusStack.isEmpty && !state.goals.any fun entry =>
      decide (entry.2.status = .active ∨ entry.2.status = .suspended))
    "mission still has an active or suspended goal"
  let obligations := (state.obligations.filter fun obligation =>
    decide (obligation.status = .opened)).length
  require (decide (obligations = 0)) s!"mission has {obligations} open completion obligations"
  require (!state.proposals.any unresolvedProposal) "mission has unresolved action proposals"
  appendEvent sha256 state { state with status := .completed, focusStack := [] } "mission.completed"
    (.object [("completed_goals", textArray ((state.goals.filter fun entry =>
      decide (entry.2.status = .completed)).map Prod.fst))])
    recordedAt true

def completeMission (definition : MissionDefinition) (state : MissionState)
    (recordedAt : String) : Except String MissionState := do
  requireVerified sha256 definition state
  closeMission sha256 definition state recordedAt

/-! ## Runs -/

inductive MissionOperation where
  | activateMissionGoal (input : ActivateInput)
  | recordMissionFact (input : FactInput)
  | openMissionObligation (input : ObligationInput)
  | proposeMissionAction (input : ProposeInput)
  | authorizeMissionAction (input : AuthorizeInput)
  | settleMissionAction (input : SettleInput)
  | completeMissionGoal (input : CompleteGoalInput)
  | abandonMissionGoal (input : AbandonInput)
  | completeMission (recordedAt : String)

/-- The state that a call returns. -/
def operate (definition : MissionDefinition) (state : MissionState) :
    MissionOperation → Except String MissionState
  | .activateMissionGoal input => activateMissionGoal sha256 definition state input
  | .recordMissionFact input => recordMissionFact sha256 definition state input
  | .openMissionObligation input => openMissionObligation sha256 definition state input
  | .proposeMissionAction input =>
    (proposeMissionAction sha256 definition state input).map ProposeResult.state
  | .authorizeMissionAction input => authorizeMissionAction sha256 definition state input
  | .settleMissionAction input => settleMissionAction sha256 definition state input
  | .completeMissionGoal input => completeMissionGoal sha256 definition state input
  | .abandonMissionGoal input => abandonMissionGoal sha256 definition state input
  | .completeMission recordedAt => completeMission sha256 definition state recordedAt

/-- A call that throws leaves the state as it was. -/
def missionStep (definition : MissionDefinition) (state : MissionState)
    (operation : MissionOperation) : MissionState :=
  match operate sha256 definition state operation with
  | .ok next => next
  | .error _ => state

/-- The state after a list of calls. -/
def runMission (definition : MissionDefinition) : MissionState → List MissionOperation →
    MissionState :=
  Runs.run (missionStep sha256 definition)

end CallCenter.MissionSettlement
