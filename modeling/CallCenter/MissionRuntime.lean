import CallCenter.MissionLedger
import CallCenter.Guards

/-!
# The mission runtime

The operations of a mission. Each of them checks the integrity of the state it is given,
binds it to the definition, checks its own guards and appends one event; a guard that
fails throws. Identities that the runtime would draw at random are arguments.

Facts are properties of a plain object. Its prototype answers for one name that fact
identities may have, `constructor`; `FactLookup.inherited` is that answer.
-/

namespace CallCenter.MissionRuntime

open JsonValues FlowState FlowDefinition ObjectFields Guards MissionSchema MissionLedger

/-! ## Bounds -/

def childrenOf : Value → List Value
  | .array items => items
  | .object fields => fields.map Prod.snd
  | _ => []

/-- Walk the nodes still on the stack, with the given number of nodes left. -/
def walkNodes (label : String) : Nat → List (Value × Nat) → Except String Unit
  | _, [] => .ok ()
  | 0, _ :: _ => .error s!"{label} exceeds the 20000-node JSON limit"
  | left + 1, (value, depth) :: rest =>
    if 32 < depth then .error s!"{label} exceeds the 32-level JSON depth limit"
    else
      walkNodes label left
        ((childrenOf value).reverse.map (fun child => (child, depth + 1)) ++ rest)

def validateJsonBounds (value : Value) (label : String) (maxBytes : Nat) : Except String Unit := do
  walkNodes label 20000 [(value, 0)]
  require (decide (value.text.utf8ByteSize ≤ maxBytes))
    s!"{label} exceeds the {maxBytes}-byte canonical JSON limit"

/-- A value handed in by a caller is JSON; parsing returns it as it is. -/
def requireJson (value : Value) : Except String Unit := require value.isJson "invalid JSON value"

def assertExternalId (value label : String) : Except String Unit :=
  require (isExternalId value) s!"{label} is not a safe bounded identifier"

/-- Blanks that trimming removes. -/
def isTrimmed (c : Char) : Bool :=
  [0x9, 0xA, 0xB, 0xC, 0xD, 0x20, 0xA0, 0x1680, 0x2028, 0x2029, 0x202F, 0x205F, 0x3000,
      0xFEFF].contains c.toNat
    || decide (0x2000 ≤ c.toNat ∧ c.toNat ≤ 0x200A)

def isBlank (text : String) : Bool := text.toList.all isTrimmed

/-! ## Definitions -/

variable (sha256 : String → String)

def requireDefinition (definition : MissionDefinition) : Except String Unit := do
  require (MissionDefinitionSchema definition) "invalid mission definition"
  validateJsonBounds definition.toValue "mission definition" 1048576

/-- The definition is valid and is the one to which the state is bound. -/
def requireBoundDefinition (definition : MissionDefinition) (state : MissionState) :
    Except String Unit := do
  requireDefinition definition
  require (decide (state.missionId = definition.id) && decide (state.missionVersion = definition.version)
      && decide (state.definitionHash = definitionHash sha256 definition))
    "mission state is not bound to this exact definition"

/-- The checks that every operation makes first. -/
def requireVerified (definition : MissionDefinition) (state : MissionState) :
    Except String Unit := do
  assertStateIntegrity sha256 state
  requireBoundDefinition sha256 definition state

def goal (definition : MissionDefinition) (goalId : String) : Except String MissionGoal :=
  match definition.goals.find? fun candidate => candidate.id = goalId with
  | none => .error s!"unknown mission goal {goalId}"
  | some found => .ok found

def capability (definition : MissionDefinition) (action : String) :
    Except String MissionCapability :=
  match definition.capabilities.find? fun candidate => candidate.name = action with
  | none => .error s!"unknown mission capability {action}"
  | some found => .ok found

/-! ## Predicates -/

/-- What reading a fact by its identity gives. -/
inductive FactLookup where
  | missing
  | own (fact : MissionFact)
  | inherited

def factAt (state : MissionState) (factId : String) : FactLookup :=
  match state.facts.lookup factId with
  | some fact => .own fact
  | none => if factId = "constructor" then .inherited else .missing

/-- The text of the fact's value; the prototype's answer has none. -/
def FactLookup.text : FactLookup → Option String
  | .own fact => some fact.value.text
  | _ => none

def FactLookup.authority : FactLookup → Option FactAuthority
  | .own fact => some fact.authority
  | _ => none

def evaluateFact (found : FactLookup) (operator : FactOperator) (value : Option Value)
    (authorities : Option (List FactAuthority)) : Bool :=
  match found with
  | .missing => false
  | _ =>
    if authorities.any (fun listed => !(found.authority.any fun authority =>
        listed.contains authority)) then false
    else
      match operator with
      | .present => true
      | .equals => decide (found.text = value.map Value.text)
      | .notEquals => decide (found.text ≠ value.map Value.text)
      | .oneOf =>
        match value with
        | some (.array items) => items.any fun item => decide (some item.text = found.text)
        | _ => false

def evaluatePredicate (state : MissionState) (predicate : MissionPredicate)
    (goalId : Option String) : Bool :=
  match predicate with
  | .fact factId operator value authorities =>
    evaluateFact (factAt state factId) operator value authorities
  | .receipt action scope =>
    state.receipts.any fun receipt =>
      decide (receipt.action = action) && decide (receipt.status = .succeeded)
        && (decide (scope = .mission) || decide (some receipt.goalId = goalId))
  | .obligation obligationType scope =>
    state.obligations.any fun obligation =>
      decide (obligation.obligationType = obligationType) && decide (obligation.status = .satisfied)
        && (decide (scope = .mission) || decide (obligation.scopeGoalId = goalId))

/-! ## Goals -/

/-- The state before its first event. -/
def newMission (definition : MissionDefinition) : MissionState :=
  { missionId := definition.id
    missionVersion := definition.version
    definitionHash := definitionHash sha256 definition
    status := .active
    revision := 0
    capabilityEpoch := 0
    goals := definition.goals.map fun candidate => (candidate.id, ⟨.queued, 0⟩)
    focusStack := []
    facts := []
    obligations := []
    proposals := []
    receipts := []
    events := [] }

def createMissionState (definition : MissionDefinition) (recordedAt : String) :
    Except String MissionState := do
  requireDefinition definition
  let initial := newMission sha256 definition
  appendEvent sha256 initial initial "mission.created"
    (.object [("definition_hash", .string initial.definitionHash)]) recordedAt true

inductive ActivationMode where
  | root
  | detour

def ActivationMode.name : ActivationMode → String
  | .root => "root"
  | .detour => "detour"

structure ActivateInput where
  goalId : String
  mode : ActivationMode
  recordedAt : String

/-- Reading a goal that the state does not list throws. -/
def knownGoal (state : MissionState) (goalId : String) : Except String GoalState :=
  match state.goals.lookup goalId with
  | none => .error "cannot read the status of a missing goal"
  | some known => .ok known

/-- Set the status of a known goal. -/
def setGoalStatus (goals : List (String × GoalState)) (goalId : String) (status : GoalStatus) :
    List (String × GoalState) :=
  match goals.lookup goalId with
  | none => goals
  | some state => setField goals goalId { state with status }

/-- The guards of a detour from the focused goal. -/
def requireDetour (definition : MissionDefinition) (current : Option String) (selected : String) :
    Except String Unit :=
  match current with
  | none => .error "detour requires an active goal"
  | some focused => do
      let origin ← goal definition focused
      require (origin.allowedDetours.contains selected)
        s!"goal {selected} is not an allowed detour from {focused}"

/-- The guards of the activation mode: a root goal needs an empty stack, a detour a
declaration of the focused goal. -/
def requireMode (definition : MissionDefinition) (mode : ActivationMode)
    (current : Option String) (selected : MissionGoal) : Except String Unit :=
  match mode with
  | .root => do
      require selected.entry s!"goal {selected.id} is not a root entry goal"
      require current.isNone "a root goal cannot replace an active goal; use a declared detour"
  | .detour => requireDetour definition current selected.id

/-- The goals after the focused one is suspended and the selected one is activated. -/
def activatedGoals (goals : List (String × GoalState)) (current : Option String)
    (selected : String) (activationCount : Nat) : List (String × GoalState) :=
  let suspended := match current with
    | none => goals
    | some focused => setGoalStatus goals focused .suspended
  setField suspended selected ⟨.active, activationCount + 1⟩

/-- The guards and the effect of an activation. -/
def activateGoal (definition : MissionDefinition) (state : MissionState)
    (input : ActivateInput) : Except String MissionState := do
  let selected ← goal definition input.goalId
  require (decide (state.status = .active)) "mission is not active"
  require (selected.dependsOn.all fun dependency =>
      decide (goalStatus state dependency = some .completed))
    s!"goal {selected.id} has incomplete dependencies"
  requireMode definition input.mode (currentGoalId state) selected
  let known ← knownGoal state selected.id
  require (decide (known.status = .queued ∨ known.status = .suspended))
    s!"goal {selected.id} cannot be activated from {known.status.name}"
  appendEvent sha256 state { state with
      goals := activatedGoals state.goals (currentGoalId state) selected.id known.activationCount
      focusStack := state.focusStack ++ [selected.id] }
    "mission.goal_activated"
    (.object [("goal_id", .string selected.id), ("mode", .string input.mode.name),
      ("suspended_goal_id", nullableText (currentGoalId state))])
    input.recordedAt true

def activateMissionGoal (definition : MissionDefinition) (state : MissionState)
    (input : ActivateInput) : Except String MissionState := do
  requireVerified sha256 definition state
  activateGoal sha256 definition state input

/-! ## Facts and obligations -/

structure FactInput where
  factId : String
  value : Value
  authority : FactAuthority
  evidenceId : String
  supersedesRevision : Option Nat
  recordedAt : String

/-- Revision of the fact that is read, if it has one. -/
def FactLookup.revision : FactLookup → Option Nat
  | .own fact => some fact.revision
  | _ => none

/-- A correction names the revision it supersedes and changes something; a new fact
supersedes nothing. -/
def requireSupersession (prior : FactLookup) (input : FactInput) : Except String Unit :=
  match prior with
  | .missing =>
    require input.supersedesRevision.isNone "a new fact cannot supersede a missing revision"
  | found => do
      require (decide (input.supersedesRevision = found.revision))
        "fact correction must supersede the current exact revision"
      require (!(decide (found.text = some input.value.text)
          && decide (found.authority = some input.authority)))
        "fact revision cannot be a no-op"

def factEventType (prior : FactLookup) (value : Value) : String :=
  match prior with
  | .missing => "mission.fact_recorded"
  | found =>
    if found.text = some value.text then "mission.fact_authority_changed"
    else "mission.fact_corrected"

/-- A new fact withdraws what was proposed or authorized before it. -/
def revokeOpen (proposal : MissionProposal) : MissionProposal :=
  if proposal.status = .authorized ∨ proposal.status = .proposed then
    { proposal with status := .revoked }
  else proposal

/-- The next revision of the fact. -/
def newFact (prior : FactLookup) (input : FactInput) : MissionFact :=
  { factId := input.factId
    revision := prior.revision.getD 0 + 1
    value := input.value
    authority := input.authority
    evidenceId := input.evidenceId
    recordedAt := input.recordedAt
    supersedesRevision := prior.revision }

/-- The guards and the effect of recording a fact. -/
def recordFact (state : MissionState) (input : FactInput) : Except String MissionState := do
  require (isId input.factId) "mission fact id is invalid"
  assertExternalId input.evidenceId "mission fact evidence_id"
  requireJson input.value
  validateJsonBounds input.value "mission fact value" 65536
  let prior := factAt state input.factId
  requireSupersession prior input
  let fact := newFact prior input
  appendEvent sha256 state { state with
      facts := setField state.facts input.factId fact
      proposals := state.proposals.map revokeOpen }
    (factEventType prior input.value) fact.toValue fact.recordedAt true

def recordMissionFact (definition : MissionDefinition) (state : MissionState) (input : FactInput) :
    Except String MissionState := do
  requireVerified sha256 definition state
  recordFact sha256 state input

/-- A request to open an obligation. `uuid` is the identity drawn when none is given. -/
structure ObligationInput where
  obligationId : Option String
  uuid : String
  obligationType : String
  description : String
  owner : ObligationOwner
  blocks : ObligationBlock
  scopeGoalId : Option String
  sourceReceiptId : Option String
  compensationAction : Option String
  recordedAt : String

/-- A reference that is given and not empty is known. -/
def requireKnown {α : Type} (reference : Option String) (read : String → Except String α) :
    Except String Unit :=
  match reference.filter (· ≠ "") with
  | none => .ok ()
  | some name => (read name).map fun _ => ()

/-- The obligation that a request opens. -/
def newObligation (state : MissionState) (input : ObligationInput) : MissionObligation :=
  { obligationId := input.obligationId.getD ("obl:" ++ input.uuid)
    obligationType := input.obligationType
    description := input.description
    owner := input.owner
    blocks := input.blocks
    scopeGoalId := input.scopeGoalId.or (currentGoalId state)
    sourceReceiptId := input.sourceReceiptId
    compensationAction := input.compensationAction
    status := .opened
    openedRevision := state.revision + 1
    settledRevision := none
    evidenceId := none }

/-- The guards and the effect of opening an obligation. -/
def openObligation (definition : MissionDefinition) (state : MissionState)
    (input : ObligationInput) : Except String MissionState := do
  require (isId input.obligationType && !isBlank input.description) "mission obligation is invalid"
  requireKnown input.scopeGoalId (goal definition)
  requireKnown input.compensationAction (capability definition)
  let obligation := newObligation state input
  assertExternalId obligation.obligationId "mission obligation_id"
  require (!state.obligations.any fun item => decide (item.obligationId = obligation.obligationId))
    "duplicate obligation id"
  appendEvent sha256 state { state with obligations := state.obligations ++ [obligation] }
    "mission.obligation_opened" obligation.toValue input.recordedAt true

def openMissionObligation (definition : MissionDefinition) (state : MissionState)
    (input : ObligationInput) : Except String MissionState := do
  requireVerified sha256 definition state
  openObligation sha256 definition state input

/-! ## Capabilities -/

structure CapabilityDecision where
  action : String
  allowed : Bool
  reason : String
  goalId : Option String
  risk : ActionRisk
  capabilityEpoch : Nat
  prerequisites : List (MissionPredicate × Bool)
  compensationObligationId : Option String

/-- Names that the focused goal, the mission or an open compensation discloses, sorted. -/
def disclosedNames (definition : MissionDefinition) (state : MissionState)
    (focused : Option MissionGoal) : List String :=
  (distinct (definition.globalCapabilities ++ ((focused.map MissionGoal.capabilities).getD [])
      ++ (state.obligations.filter fun obligation => decide (obligation.status = .opened)).filterMap
        fun obligation => obligation.compensationAction.filter (· ≠ ""))).insertionSort
    fun left right => unitsLe (utf16 left) (utf16 right) = true

/-- The open obligation that asks for this action as its compensation. -/
def openCompensation (state : MissionState) (name : String) : Option MissionObligation :=
  state.obligations.find? fun obligation =>
    decide (obligation.status = .opened) && decide (obligation.compensationAction = some name)

/-- An open obligation in scope blocks irreversible actions. -/
def blockedByObligation (state : MissionState) (risk : ActionRisk) : Bool :=
  decide (risk = .irreversible) && state.obligations.any fun obligation =>
    decide (obligation.status = .opened) && decide (obligation.blocks = .irreversibleActions)
      && (((obligation.scopeGoalId.filter (· ≠ "")).isNone)
        || decide (obligation.scopeGoalId = currentGoalId state))

def decideCapability (definition : MissionDefinition) (state : MissionState)
    (item : MissionCapability) (name : String) : CapabilityDecision :=
  let current := currentGoalId state
  let compensation := openCompensation state name
  let inAuthority := current.any (fun focused => item.goals.contains focused)
    || definition.globalCapabilities.contains name || compensation.isSome
  let prerequisites := item.prerequisites.map fun predicate =>
    (predicate, evaluatePredicate state predicate current)
  let satisfied := prerequisites.all Prod.snd
  let blocked := blockedByObligation state item.risk
  { action := name
    allowed := decide (state.status = .active) && inAuthority && satisfied && !blocked
    reason :=
      if state.status ≠ .active then "mission_not_active"
      else if inAuthority = false then "not_in_focused_authority"
      else if satisfied = false then "prerequisite_missing"
      else if blocked then "blocking_obligation"
      else "allowed"
    goalId := current
    risk := item.risk
    capabilityEpoch := state.capabilityEpoch
    prerequisites
    compensationObligationId := compensation.map MissionObligation.obligationId }

def focusedGoal (definition : MissionDefinition) (state : MissionState) :
    Except String (Option MissionGoal) :=
  match currentGoalId state with
  | none => .ok none
  | some current => (goal definition current).map some

/-- A decision for every disclosed name. -/
def capabilityDecisions (definition : MissionDefinition) (state : MissionState) :
    Except String (List CapabilityDecision) := do
  let focused ← focusedGoal definition state
  (disclosedNames definition state focused).mapM fun name => do
    let item ← capability definition name
    return decideCapability definition state item name

def availableMissionCapabilities (definition : MissionDefinition) (state : MissionState) :
    Except String (List CapabilityDecision) := do
  requireVerified sha256 definition state
  capabilityDecisions definition state

/-! ## Proposals -/

/-- The key under which repeated proposals are the same; `nonce` is drawn afresh. -/
def idempotencyKey (item : MissionCapability) (goalId argumentsHash nonce : String) : String :=
  let shared := [("action", Value.string item.name), ("goal_id", .string goalId)]
  let body := match item.idempotency with
    | .perGoal => shared
    | .perArguments => shared ++ [("arguments_hash", .string argumentsHash)]
    | .none => shared ++ [("nonce", .string nonce)]
  sha256 (PROPOSAL_DOMAIN ++ (Value.object body).text)

/-- A request to propose an action. `uuid` and `nonce` are the identities drawn by the
call. -/
structure ProposeInput where
  action : String
  arguments : List (String × Value)
  proposalId : Option String
  uuid : String
  nonce : String
  recordedAt : String

structure ConfirmationChallenge where
  proposalId : String
  proposalDigest : String
  prompt : String
  acceptedValues : List Value

structure ProposeResult where
  state : MissionState
  proposal : MissionProposal
  confirmationChallenge : Option ConfirmationChallenge
  replayedReceipt : Option MissionReceipt

/-- The action is disclosed, allowed and asked for under a focused goal. -/
def requireAllowed (action : String) (decision : Option CapabilityDecision) :
    Except String (CapabilityDecision × String) :=
  match decision with
  | none => .error s!"mission capability {action} denied: not_disclosed"
  | some found =>
    match found.allowed, found.goalId with
    | true, some goalId => .ok (found, goalId)
    | _, _ => .error s!"mission capability {action} denied: {found.reason}"

/-- Arguments are a JSON object with bounded keys. -/
def requireArguments (arguments : List (String × Value)) : Except String Unit := do
  require (arguments.all fun field => decide ((utf16 field.1).length ≤ 256) && field.2.isJson)
    "invalid mission action arguments"
  validateJsonBounds (.object arguments) "mission action arguments" 262144

/-- The successful receipt that a proposal under this key repeats. -/
def replayedReceipt (state : MissionState) (item : MissionCapability) (key : String) :
    Option MissionReceipt :=
  if item.idempotency = .none then none
  else state.receipts.find? fun receipt =>
    decide (receipt.idempotencyKey = key) && decide (receipt.status = .succeeded)

/-- The answer to a proposal whose action already succeeded. -/
def replayProposal (state : MissionState) (receipt : MissionReceipt) :
    Except String ProposeResult :=
  match state.proposals.find? fun candidate => candidate.proposalId = receipt.proposalId with
  | none => .error "successful receipt is missing its proposal"
  | some proposal =>
    .ok { state, proposal, confirmationChallenge := none, replayedReceipt := some receipt }

/-- The part of a proposal that its digest covers. -/
def proposalBody (proposal : MissionProposal) (capabilityEpoch : Nat) : Value :=
  .object [("proposal_id", .string proposal.proposalId), ("goal_id", .string proposal.goalId),
    ("action", .string proposal.action), ("arguments_hash", .string proposal.argumentsHash),
    ("idempotency_key", .string proposal.idempotencyKey),
    ("compensation_obligation_id", nullableText proposal.compensationObligationId),
    ("capability_epoch", .ofNat capabilityEpoch),
    ("proposed_revision", .ofNat proposal.proposedRevision)]

/-- The new proposal; without a confirmation to wait for it is authorized at once. -/
def newProposal (state : MissionState) (item : MissionCapability) (goalId proposalId : String)
    (arguments : List (String × Value)) (key : String) (compensation : Option String) :
    MissionProposal :=
  let confirmed := item.confirmation.isNone
  let undigested : MissionProposal :=
    { proposalId
      proposalDigest := ""
      goalId
      action := item.name
      arguments
      argumentsHash := sha256 (Value.object arguments).text
      idempotencyKey := key
      risk := item.risk
      status := if confirmed then .authorized else .proposed
      proposedRevision := state.revision + 1
      authorizedRevision := if confirmed then some (state.revision + 1) else none
      authorizedEpoch := if confirmed then some state.capabilityEpoch else none
      confirmationEvidenceId := none
      compensationObligationId := compensation
      receiptId := none }
  { undigested with
    proposalDigest :=
      sha256 (PROPOSAL_DOMAIN ++ (proposalBody undigested state.capabilityEpoch).text) }

/-- Record a proposal that repeats no successful receipt. -/
def appendProposal (state : MissionState) (item : MissionCapability)
    (decision : CapabilityDecision) (goalId key : String) (input : ProposeInput) :
    Except String ProposeResult := do
  let proposalId := input.proposalId.getD ("prp:" ++ input.uuid)
  assertExternalId proposalId "mission proposal_id"
  require (!state.proposals.any fun proposal => decide (proposal.proposalId = proposalId))
    "duplicate proposal id"
  let proposal := newProposal sha256 state item goalId proposalId input.arguments key
    decision.compensationObligationId
  let next ← appendEvent sha256 state { state with proposals := state.proposals ++ [proposal] }
    "mission.action_proposed" (proposalBody proposal state.capabilityEpoch) input.recordedAt false
  return {
    state := next
    proposal
    confirmationChallenge := item.confirmation.map fun confirmation =>
      ⟨proposalId, proposal.proposalDigest, confirmation.prompt, confirmation.acceptedValues⟩
    replayedReceipt := none }

/-- Propose the action under the decision that was made for it. -/
def proposeAction (state : MissionState) (item : MissionCapability)
    (decisions : List CapabilityDecision) (input : ProposeInput) : Except String ProposeResult := do
  let (decision, goalId) ← requireAllowed input.action
    (decisions.find? fun candidate => candidate.action = input.action)
  requireArguments input.arguments
  let key := idempotencyKey sha256 item goalId (sha256 (Value.object input.arguments).text)
    input.nonce
  match replayedReceipt state item key with
  | some receipt => replayProposal state receipt
  | none => appendProposal sha256 state item decision goalId key input

def proposeMissionAction (definition : MissionDefinition) (state : MissionState)
    (input : ProposeInput) : Except String ProposeResult := do
  requireVerified sha256 definition state
  let item ← capability definition input.action
  let decisions ← availableMissionCapabilities sha256 definition state
  proposeAction sha256 state item decisions input

structure AuthorizeInput where
  proposalId : String
  proposalDigest : String
  evidenceId : String
  authority : ConfirmationAuthority
  value : Value
  observedAfterRevision : Nat
  recordedAt : String

/-- The proposal with this identity and status. -/
def proposalIn (state : MissionState) (proposalId : String) (status : ProposalStatus)
    (message : String) : Except String MissionProposal :=
  match state.proposals.find? fun candidate => candidate.proposalId = proposalId with
  | none => .error message
  | some proposal => if proposal.status = status then .ok proposal else .error message

/-- The confirmation that the capability asks for. -/
def requireConfirmation (item : MissionCapability) : Except String Confirmation :=
  match item.confirmation with
  | none => .error "mission proposal does not require confirmation"
  | some confirmation => .ok confirmation

/-- Rewrite the proposal with this identity. -/
def rewriteProposal (proposals : List MissionProposal) (proposalId : String)
    (change : MissionProposal → MissionProposal) : List MissionProposal :=
  proposals.map fun candidate =>
    if candidate.proposalId = proposalId then change candidate else candidate

/-- The guards and the effect of a confirmation. -/
def authorizeAction (definition : MissionDefinition) (state : MissionState)
    (input : AuthorizeInput) : Except String MissionState := do
  let proposal ← proposalIn state input.proposalId .proposed
    "mission proposal is not awaiting confirmation"
  require (decide (proposal.proposalDigest = input.proposalDigest))
    "confirmation is not bound to the exact proposal"
  let item ← capability definition proposal.action
  let confirmation ← requireConfirmation item
  assertExternalId input.evidenceId "mission confirmation evidence_id"
  require (decide (proposal.proposedRevision < input.observedAfterRevision
      ∧ input.observedAfterRevision ≤ state.revision + 1))
    "confirmation was not observed after the proposal"
  require (confirmation.authorities.contains input.authority)
    "confirmation authority is not accepted"
  requireJson input.value
  validateJsonBounds input.value "mission confirmation value" 65536
  require (confirmation.acceptedValues.any fun candidate =>
      decide (candidate.text = input.value.text))
    "confirmation value is not accepted"
  require (decide (some proposal.goalId = currentGoalId state)) "proposal goal is no longer focused"
  appendEvent sha256 state { state with
      proposals := rewriteProposal state.proposals proposal.proposalId fun candidate =>
        { candidate with
          status := .authorized
          authorizedRevision := some (state.revision + 1)
          authorizedEpoch := some state.capabilityEpoch
          confirmationEvidenceId := some input.evidenceId } }
    "mission.action_authorized"
    (.object [("proposal_id", .string proposal.proposalId),
      ("proposal_digest", .string proposal.proposalDigest),
      ("evidence_id", .string input.evidenceId), ("authority", .string input.authority.name),
      ("value", input.value)])
    input.recordedAt false

def authorizeMissionAction (definition : MissionDefinition) (state : MissionState)
    (input : AuthorizeInput) : Except String MissionState := do
  requireVerified sha256 definition state
  authorizeAction sha256 definition state input

end CallCenter.MissionRuntime
