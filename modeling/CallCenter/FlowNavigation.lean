import CallCenter.FlowState

/-!
# Moving through a flow

Which steps and tools the current position makes available, and the two
operations that change it: selecting a topic and entering a step. The checks are
made in the source's order; error texts and the alternatives they disclose are
kept.
-/

namespace CallCenter.FlowNavigation

open JsonValues FlowDefinition FlowValidation Timestamps FlowState ObjectFields

/-- The selectable node with the given identity. -/
def topic (flow : AgentFlow) (nodeId : Option String) : Option FlowNode :=
  flow.nodes.find? fun node =>
    decide (some node.id = nodeId) && decide (node.kind = .topic ∨ node.kind = .fallback)

/-- Paths of a step's own substeps. -/
def directChildren (ref : StepRef) : List String :=
  ref.step.steps.map fun step => ref.path ++ "." ++ step.id

/-- Identity of two values of which at least one has no canonical text. Arrays and
objects are compared by reference and are never the same one here. -/
def objectIs : Value → Value → Bool
  | .undefined, .undefined => true
  | .null, .null => true
  | .bool left, .bool right => left == right
  | .number left, .number right => decide (left = right)
  | .string left, .string right => decide (left = right)
  | _, _ => false

/-- Equality by hash, or by identity when a hash cannot be computed. -/
def valuesEqual (sha256 : String → String) (left right : Value) : Bool :=
  match hashFlowValue sha256 left, hashFlowValue sha256 right with
  | .ok leftHash, .ok rightHash => decide (leftHash = rightHash)
  | _, _ => objectIs left right

/-- A value that counts as absent. -/
def isNullish : Value → Bool
  | .undefined => true
  | .null => true
  | _ => false

/-- A branch is taken when its condition holds of the completed step's own outputs. -/
def transitionMatches (sha256 : String → String) (transition : FlowTransition)
    (outputs : List (String × Value)) : Bool :=
  match transition.condition with
  | none => true
  | some condition =>
    match outputs.lookup condition.output with
    | none => false
    | some actual =>
      match condition.operator, condition.value with
      | .exists, _ => !isNullish actual
      | .equals, value => valuesEqual sha256 actual value
      | .notEquals, value => !valuesEqual sha256 actual value
      | .isIn, .array candidates => candidates.any (valuesEqual sha256 actual)
      | .isIn, _ => false

/-- Children and matching transitions of a completed step. -/
def successfulNextSteps (sha256 : String → String) (ref : StepRef)
    (outputs : List (String × Value)) : List String :=
  distinct (directChildren ref ++ (ref.step.transitions.filter fun transition =>
      transitionMatches sha256 transition outputs).map FlowTransition.target)

/-- Attempts that a step may use. -/
def attemptLimit (step : FlowStep) : Nat := step.maxAttempts.getD 3

/-- The failure route of a step, if it names one. -/
def failureRoute (step : FlowStep) : Option String := step.onFailure.filter (· ≠ "")

/-- The paths that the runtime discloses as enterable. -/
def allowedStepPaths (sha256 : String → String) (flow : AgentFlow) (state : FlowExecutionState) :
    List String :=
  if state.finished then []
  else
    match topic flow state.nodeId with
    | none => []
    | some node =>
      if node.kind = .fallback then []
      else
        match state.currentStep.filter (· ≠ "") with
        | none => topicEntryStepPaths flow node.id
        | some currentStep =>
          match findStep flow currentStep with
          | none => []
          | some current =>
            if state.completedSteps.contains current.path then
              successfulNextSteps sha256 current ((state.outputs.lookup current.path).getD [])
            else if attemptLimit current.step ≤ (state.attempts.lookup current.path).getD 0 then
              (failureRoute current.step).toList
            else []

/-- Choose the topic of the conversation. -/
def selectFlowTopic (sha256 : String → String) (flow : AgentFlow) (state : FlowExecutionState)
    (nodeId : String) (now : Instant) : Except Failure FlowExecutionState :=
  if state.finished then refuse .flowFinished "flow is already finished"
  else
    match topic flow (some nodeId) with
    | none => refuse .unknownTopic s!"unknown topic \"{nodeId}\""
    | some node =>
      if node.kind = .topic ∧ flow.schemaVersion = some 2 ∧
          (topicEntryStepPaths flow node.id).isEmpty then
        refuse .transitionOnlyTopic
          s!"topic \"{nodeId}\" is reachable only through a flow transition"
      else if state.status = .active ∧ state.nodeId = some nodeId then .ok state
      else
        match (if state.status = .active then state.openStep else none) with
        | some step =>
          refuseWith .activeStepIncomplete
            s!"complete or exhaust the active step \"{step}\" before changing topics"
            (allowedStepPaths sha256 flow state)
        | none =>
          let pending := allowedStepPaths sha256 flow state
          if state.status = .active ∧ (state.currentStep.filter (· ≠ "")).isSome ∧ pending ≠ [] then
            refuseWith .pendingFlowTransition
              "enter the pending flow transition before changing topics" pending
          else
            .ok (updateCapabilities
              { state with status := .active, nodeId := some node.id, currentStep := none } now)

/-- Tools that the current position grants. -/
def grantedTools (flow : AgentFlow) (state : FlowExecutionState) : List String :=
  if state.finished then alwaysTools flow
  else
    distinct (alwaysTools flow ++ ((topic flow state.nodeId).map FlowNode.tools).getD []
      ++ match state.openStep.bind (findStep flow) with
        | none => []
        | some ref => ref.ancestors.flatMap FlowStep.tools ++ ref.step.tools)

/-- Receipts of a step whose outcome is not known yet. -/
def unresolvedReceipts (state : FlowExecutionState) (step : String) : List FlowActionReceipt :=
  state.actionReceipts.filter fun receipt =>
    decide (receipt.step = step)
      && decide (receipt.status = .reserved ∨ receipt.status = .indeterminate)

/-- Paths of a step's ancestors, cut from the step's own path. -/
def ancestorPaths (ref : StepRef) : List String :=
  (List.range ref.ancestors.length).map fun index =>
    DottedPaths.joinDots ((DottedPaths.splitDots ref.path).take (index + 2))

/-- The path itself or a path below it. -/
def inReenteredSubtree (path candidate : String) : Bool :=
  decide (candidate = path) || DottedPaths.startsWith candidate (path ++ ".")

/-- A text that may be absent, as it prints inside a message. -/
def shown (text : Option String) : String := text.getD "null"

/-- What the model learns on entering a step. -/
structure StepEntry where
  state : FlowExecutionState
  step : FlowStep
  path : String
  availableTools : List String
  nextSteps : List String

/-- The attempt still counts against the step that is open. -/
def isRetry (state : FlowExecutionState) (path : String) : Bool :=
  decide (state.currentStep = some path) && !state.completedSteps.contains path

/-- The attempt number with which a step is entered. A successful transition back to
the same path starts a new iteration, not another retry. -/
def entryAttempts (state : FlowExecutionState) (path : String) : Nat :=
  if isRetry state path then (state.attempts.lookup path).getD 0 + 1 else 1

/-- Admissions so far; a state without the counter falls back to its attempts. -/
def stepEntriesSoFar (state : FlowExecutionState) : Nat :=
  state.stepEntries.getD ((state.attempts.map Prod.snd).foldl (· + ·) 0)

/-- The state after a step is entered: its subtree starts afresh. -/
def enteredState (state : FlowExecutionState) (ref : StepRef) (path : String) (attempts : Nat)
    (now : Instant) : FlowExecutionState :=
  updateCapabilities { state with
      status := .active
      nodeId := some ref.nodeId
      currentStep := some path
      completedSteps := state.completedSteps.filter fun completed =>
        !inReenteredSubtree path completed
      stepEntries := some (stepEntriesSoFar state + 1)
      attempts := setField state.attempts path attempts
      outputs := state.outputs.filter fun entry => !inReenteredSubtree path entry.1
      checkpoints := state.checkpoints.filter fun checkpoint =>
        !inReenteredSubtree path checkpoint.step } now

/-- Enter, retry or re-enter a step. -/
def enterFlowStep (sha256 : String → String) (flow : AgentFlow) (state : FlowExecutionState)
    (path : String) (now : Instant) : Except Failure StepEntry :=
  let allowed := allowedStepPaths sha256 flow state
  let retry := isRetry state path
  if state.finished then refuse .flowFinished "flow is already finished"
  else
    match findStep flow path with
    | none => refuseWith .unknownStep s!"unknown step \"{path}\"" allowed
    | some ref =>
      let unresolved := (state.openStep.map (unresolvedReceipts state)).getD []
      let attempts := entryAttempts state path
      let totalEntries := stepEntriesSoFar state + 1
      if unresolved ≠ [] then
        let current := shown state.currentStep
        let ids := ", ".intercalate (unresolved.map FlowActionReceipt.id)
        refuseWith .pendingActionEvidence
          s!"cannot leave or retry {current} while action receipts need settlement or reconciliation: {ids}"
          []
      else if some ref.nodeId ≠ state.nodeId ∧ path ∉ allowed then
        refuseWith .wrongTopic s!"step \"{path}\" is outside the selected topic" allowed
      else if retry = false ∧ path ∉ allowed then
        refuseWith .stepNotReachable
          s!"step \"{path}\" is not reachable from the current checkpoint" allowed
      else
        match (ancestorPaths ref).find? fun ancestor =>
            !state.completedSteps.contains ancestor with
        | some ancestor =>
          refuseWith .ancestorStepIncomplete
            s!"step \"{path}\" cannot inherit authority from incomplete ancestor \"{ancestor}\""
            allowed
        | none =>
          if attemptLimit ref.step < attempts then
            refuseWith .attemptLimit s!"step \"{path}\" exceeded its attempt limit"
              (((failureRoute ref.step).map fun route => [route]).getD allowed)
          else
            match flow.maxStepEntries.filter fun limit =>
                decide (limit ≠ 0) && decide (limit < totalEntries) with
            | some limit =>
              refuseWith .flowEntryLimit s!"flow exceeded its {limit}-entry circuit breaker" []
            | none =>
              let nextState := enteredState state ref path attempts now
              .ok { state := nextState, step := ref.step, path,
                    availableTools := grantedTools flow nextState,
                    nextSteps := allowedStepPaths sha256 flow nextState }

end CallCenter.FlowNavigation
