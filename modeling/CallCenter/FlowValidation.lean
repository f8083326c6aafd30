import CallCenter.FlowDefinition

/-!
# Flow validation

`AgentFlowSchema` is the shape check of a submitted flow and `validateAgentFlow`
its semantic validation: identities, policies, bindings, targets, and a
breadth-first search of the step graph. Diagnostics keep the paths and texts of
the source.

A flow that fails the shape check is `rejected`; the texts of its issues are
those of the schema library and are all of level `error`.
-/

namespace CallCenter.FlowValidation

open JsonValues FlowDefinition

/-- A bounded text over character classes: one leading character and a tail whose
length lies within the bounds. -/
def matchesIdentifier (first tail : Char → Bool) (least most : Nat) (text : String) : Bool :=
  match text.toList with
  | [] => false
  | c :: rest =>
    first c && rest.all tail && decide (least ≤ rest.length) && decide (rest.length ≤ most)

def isLower (c : Char) : Bool := decide (97 ≤ c.toNat ∧ c.toNat ≤ 122)
def isUpper (c : Char) : Bool := decide (65 ≤ c.toNat ∧ c.toNat ≤ 90)
def isNumeral (c : Char) : Bool := decide (48 ≤ c.toNat ∧ c.toNat ≤ 57)

/-- Characters of path segments and opaque identities. -/
def isSegmentChar (c : Char) : Bool :=
  isLower c || isUpper c || isNumeral c || c = '_' || c = '-'

/-- `TOOL_NAME`. -/
def isToolName (text : String) : Bool :=
  matchesIdentifier isLower
    (fun c => isLower c || isNumeral c || c = '_' || c = '.' || c = '-') 1 63 text

/-- `FLOW_PATH_SEGMENT`. -/
def isFlowPathSegment (text : String) : Bool :=
  matchesIdentifier isSegmentChar isSegmentChar 0 63 text

/-- Names of arguments that the host may bind. -/
def isBoundArgumentName (text : String) : Bool :=
  matchesIdentifier (fun c => isLower c || isUpper c || c = '_') isSegmentChar 0 63 text

def UNSAFE_OUTPUT_KEYS : List String := ["__proto__", "prototype", "constructor"]

/-- An optional text is absent or nonempty. -/
def optionalText (text : Option String) : Bool := text.all (· ≠ "")

/-- Branch conditions other than `exists` need a value, and `in` needs a list. -/
def FlowTransitionSchema (transition : FlowTransition) : Bool :=
  decide (transition.target ≠ "") && optionalText transition.label && optionalText transition.when
    && match transition.condition with
      | none => true
      | some condition =>
        decide (condition.output ≠ "") && match condition.operator, condition.value with
            | .exists, _ => true
            | _, .undefined => false
            | .isIn, .array _ => true
            | .isIn, _ => false
            | _, _ => true

def FlowBoundArgumentSchema (binding : FlowBoundArgument) : Bool :=
  isBoundArgumentName binding.argument && isToolName binding.sourceTool
    && decide (1 ≤ (utf16 binding.sourceResultPath).length)
    && decide ((utf16 binding.sourceResultPath).length ≤ 512)

/-- Shape of a step's or a global action policy. -/
def actionPolicySchema (policy : FlowActionPolicy) : Bool :=
  isToolName policy.tool && policy.maxCalls.all (fun calls => decide (1 ≤ calls ∧ calls ≤ 100))
    && policy.boundArguments.all FlowBoundArgumentSchema
    && decide (policy.boundArguments.length ≤ 64)

def outputBindingSchema (binding : FlowOutputBinding) : Bool :=
  decide (binding.output ≠ "") && isToolName binding.tool && decide (binding.resultPath ≠ "")

/-- Shape of one step, apart from its substeps. -/
def stepShape (step : FlowStep) : Bool :=
  decide (step.id ≠ "") && decide (step.label ≠ "") && decide (step.instructions ≠ "")
    && optionalText step.context && step.tools.all isToolName
    && step.requiredOutputs.all (· ≠ "") && step.outputBindings.all outputBindingSchema
    && step.actionPolicies.all actionPolicySchema && step.successCriteria.all (· ≠ "")
    && step.transitions.all FlowTransitionSchema && optionalText step.onFailure
    && step.maxAttempts.all (fun attempts => decide (1 ≤ attempts ∧ attempts ≤ 10))

mutual

/-- Shape of a step and all its substeps. -/
def FlowStepSchema : FlowStep → Bool
  | step@{ steps := steps, .. } => stepShape step && flowStepsSchema steps

/-- Shape of sibling steps. -/
def flowStepsSchema : List FlowStep → Bool
  | [] => true
  | step :: rest => FlowStepSchema step && flowStepsSchema rest

end

def FlowNodeSchema (node : FlowNode) : Bool :=
  flowStepsSchema node.steps && node.tools.all isToolName

/-- Flow v2 requires gateway exposure and Flow v1 direct exposure. -/
def exposureMatchesVersion (flow : AgentFlow) : Bool :=
  let version := flow.schemaVersion.getD 1
  let exposure := flow.toolExposure.getD (if version = 2 then .gateway else .direct)
  decide ((version = 2 → exposure = .gateway) ∧ (version ≠ 2 → exposure = .direct))

def AgentFlowSchema (flow : AgentFlow) : Bool :=
  flow.schemaVersion.all (fun version => decide (version = 1 ∨ version = 2))
    && flow.alwaysTools.all (fun tools => tools.all isToolName)
    && flow.alwaysActionPolicies.all actionPolicySchema
    && flow.maxStepEntries.all (fun entries => decide (1 ≤ entries ∧ entries ≤ 10000))
    && flow.nodes.all FlowNodeSchema
    && exposureMatchesVersion flow

inductive DiagnosticLevel where
  | error
  | warning
deriving DecidableEq

structure FlowDiagnostic where
  level : DiagnosticLevel
  path : String
  message : String

/-- A conditional error diagnostic. -/
def errorWhen (condition : Bool) (path message : String) : List FlowDiagnostic :=
  if condition then [⟨.error, path, message⟩] else []

/-- A conditional warning. -/
def warningWhen (condition : Bool) (path message : String) : List FlowDiagnostic :=
  if condition then [⟨.warning, path, message⟩] else []

/-- Node identities are unique and, in Flow v2, path segments. -/
def nodeDiagnostics (v2 : Bool) : Nat → List String → List FlowNode → List FlowDiagnostic
  | _, _, [] => []
  | index, seen, node :: rest =>
    errorWhen (seen.contains node.id) s!"nodes.{index}.id" s!"duplicate node id \"{node.id}\""
      ++ errorWhen (v2 && !isFlowPathSegment node.id) s!"nodes.{index}.id"
        "Flow v2 node ids must be 1-64 letters, numbers, underscores, or hyphens"
      ++ nodeDiagnostics v2 (index + 1) (node.id :: seen) rest

/-- Edges connect existing nodes. -/
def edgeDiagnostics (nodeIds : List String) : Nat → List FlowEdge → List FlowDiagnostic
  | _, [] => []
  | index, edge :: rest =>
    errorWhen (!nodeIds.contains edge.source) s!"edges.{index}.from"
        s!"unknown node \"{edge.source}\""
      ++ errorWhen (!nodeIds.contains edge.target) s!"edges.{index}.to"
        s!"unknown node \"{edge.target}\""
      ++ edgeDiagnostics nodeIds (index + 1) rest

/-- Nodes at which a call can begin. -/
def entryNodes (flow : AgentFlow) : List FlowNode :=
  flow.nodes.filter fun node => decide (node.kind = .incomingCall ∨ node.kind = .start)

/-- A declared read-back contract needs a mutating effect and a deduplication scope. -/
def reconciliationMisplaced (policy : FlowActionPolicy) : Bool :=
  policy.reconciliation.isSome && (policy.effect.isNone || decide (policy.effect = some .read)
      || policy.idempotency.isNone || decide (policy.idempotency = some .none))

def RECONCILIATION_MESSAGE : String :=
  "reconciliation requires a non-read effect and explicit non-none idempotency"

/-- Global policies are unique, granted and free of receipt-bound arguments. -/
def globalPolicyDiagnostics (globalTools : List String) :
    Nat → List String → List FlowActionPolicy → List FlowDiagnostic
  | _, _, [] => []
  | index, seen, policy :: rest =>
    errorWhen (seen.contains policy.tool) s!"always_action_policies.{index}.tool"
        s!"duplicate global action policy for \"{policy.tool}\""
      ++ errorWhen (!globalTools.contains policy.tool) s!"always_action_policies.{index}.tool"
        s!"global action policy tool \"{policy.tool}\" is not in always_tools"
      ++ errorWhen (reconciliationMisplaced policy)
        s!"always_action_policies.{index}.reconciliation" RECONCILIATION_MESSAGE
      ++ errorWhen (!policy.boundArguments.isEmpty)
        s!"always_action_policies.{index}.bound_arguments"
        "receipt-bound arguments require an active step and cannot be declared globally"
      ++ globalPolicyDiagnostics globalTools (index + 1) (policy.tool :: seen) rest

/-- Required outputs are unique and safe. -/
def requiredOutputDiagnostics (path : String) :
    Nat → List String → List String → List FlowDiagnostic
  | _, _, [] => []
  | index, seen, output :: rest =>
    errorWhen (seen.contains output) s!"{path}.required_outputs.{index}"
        s!"duplicate required output \"{output}\""
      ++ errorWhen (UNSAFE_OUTPUT_KEYS.contains output) s!"{path}.required_outputs.{index}"
        s!"unsafe output key \"{output}\""
      ++ requiredOutputDiagnostics path (index + 1) (output :: seen) rest

/-- Output bindings are unique, safe and read granted tools. -/
def outputBindingDiagnostics (path : String) (granted : List String) :
    Nat → List String → List FlowOutputBinding → List FlowDiagnostic
  | _, _, [] => []
  | index, seen, binding :: rest =>
    errorWhen (seen.contains binding.output) s!"{path}.output_bindings.{index}.output"
        s!"duplicate output binding \"{binding.output}\""
      ++ errorWhen (UNSAFE_OUTPUT_KEYS.contains binding.output)
        s!"{path}.output_bindings.{index}.output" s!"unsafe output key \"{binding.output}\""
      ++ errorWhen (!granted.contains binding.tool) s!"{path}.output_bindings.{index}.tool"
        s!"binding tool \"{binding.tool}\" is not granted in this step"
      ++ outputBindingDiagnostics path granted (index + 1) (binding.output :: seen) rest

/-- Segments of a result path after an optional leading `$` or `$.`. -/
def resultPathSegments (path : String) : List String :=
  if path = "$" then []
  else
    DottedPaths.splitDots (String.ofList (match path.toList with
      | '$' :: '.' :: rest => rest
      | '$' :: rest => rest
      | whole => whole))

/-- Bound arguments are unique, safe and read granted tools at safe paths. -/
def boundArgumentDiagnostics (path : String) (granted : List String) :
    Nat → List String → List FlowBoundArgument → List FlowDiagnostic
  | _, _, [] => []
  | index, seen, binding :: rest =>
    errorWhen (seen.contains binding.argument) s!"{path}.bound_arguments.{index}.argument"
        s!"duplicate bound argument \"{binding.argument}\""
      ++ errorWhen (UNSAFE_OUTPUT_KEYS.contains binding.argument)
        s!"{path}.bound_arguments.{index}.argument"
        s!"unsafe bound argument \"{binding.argument}\""
      ++ errorWhen (!granted.contains binding.sourceTool)
        s!"{path}.bound_arguments.{index}.source.tool"
        s!"bound-argument source tool \"{binding.sourceTool}\" is not granted in this step"
      ++ errorWhen ((resultPathSegments binding.sourceResultPath).any fun segment =>
          decide (segment = "") || UNSAFE_OUTPUT_KEYS.contains segment)
        s!"{path}.bound_arguments.{index}.source.result_path"
        s!"unsafe receipt result path \"{binding.sourceResultPath}\""
      ++ boundArgumentDiagnostics path granted (index + 1) (binding.argument :: seen) rest

/-- Step policies are unique, granted and internally consistent. -/
def stepPolicyDiagnostics (v2 : Bool) (path : String) (granted : List String) :
    Nat → List String → List FlowActionPolicy → List FlowDiagnostic
  | _, _, [] => []
  | index, seen, policy :: rest =>
    errorWhen (seen.contains policy.tool) s!"{path}.action_policies.{index}.tool"
        s!"duplicate action policy for \"{policy.tool}\""
      ++ errorWhen (!granted.contains policy.tool) s!"{path}.action_policies.{index}.tool"
        s!"policy tool \"{policy.tool}\" is not granted in this step"
      ++ errorWhen (reconciliationMisplaced policy)
        s!"{path}.action_policies.{index}.reconciliation" RECONCILIATION_MESSAGE
      ++ errorWhen (!policy.boundArguments.isEmpty && !v2)
        s!"{path}.action_policies.{index}.bound_arguments"
        "receipt-bound arguments require Flow v2"
      ++ boundArgumentDiagnostics s!"{path}.action_policies.{index}" granted 0 []
        policy.boundArguments
      ++ stepPolicyDiagnostics v2 path granted (index + 1) (policy.tool :: seen) rest

/-- Transitions lead to known steps and branch on safe, preferably bound, outputs. -/
def transitionDiagnostics (path : String) (stepPaths bindingOutputs : List String)
    (transition : FlowTransition) : List FlowDiagnostic :=
  errorWhen (!stepPaths.contains transition.target) s!"{path}.transitions"
      s!"transition targets unknown step \"{transition.target}\""
    ++ match transition.condition with
      | none => []
      | some condition =>
        errorWhen (UNSAFE_OUTPUT_KEYS.contains condition.output) s!"{path}.transitions"
            s!"transition uses unsafe output key \"{condition.output}\""
          ++ warningWhen (!bindingOutputs.contains condition.output) s!"{path}.transitions"
            s!"branch output \"{condition.output}\" is model-authored rather than receipt-bound"

/-- Tools granted while the step is active. -/
def stepGrantedTools (flow : AgentFlow) (ref : StepRef) : List String :=
  let node := flow.nodes.find? fun candidate => candidate.id = ref.nodeId
  alwaysTools flow ++ (node.map FlowNode.tools).getD []
    ++ ref.ancestors.flatMap FlowStep.tools ++ ref.step.tools

/-- Checks of one step against the rest of the flow. -/
def stepDiagnostics (flow : AgentFlow) (stepPaths seen : List String) (ref : StepRef) :
    List FlowDiagnostic :=
  let v2 := decide (flow.schemaVersion = some 2)
  let granted := stepGrantedTools flow ref
  errorWhen (seen.contains ref.path) ref.path s!"duplicate step path \"{ref.path}\""
    ++ errorWhen (v2 && !isFlowPathSegment ref.step.id) s!"{ref.path}.id"
      "Flow v2 step ids must be 1-64 letters, numbers, underscores, or hyphens"
    ++ errorWhen (decide (8 < ref.ancestors.length + 1)) ref.path
      "step nesting exceeds the supported depth of 8"
    ++ errorWhen (!ref.ancestors.isEmpty && ref.step.entry.isSome) s!"{ref.path}.entry"
      "entry may only be set on top-level steps"
    ++ requiredOutputDiagnostics ref.path 0 [] ref.step.requiredOutputs
    ++ outputBindingDiagnostics ref.path granted 0 [] ref.step.outputBindings
    ++ stepPolicyDiagnostics v2 ref.path granted 0 [] ref.step.actionPolicies
    ++ ref.step.transitions.flatMap (transitionDiagnostics ref.path stepPaths
      (ref.step.outputBindings.map FlowOutputBinding.output))
    ++ match ref.step.onFailure with
      | none => []
      | some target =>
        errorWhen (decide (target ≠ "") && !stepPaths.contains target) s!"{ref.path}.on_failure"
          s!"failure target \"{target}\" does not exist"

/-- Checks of every step, remembering the paths already seen. -/
def stepsDiagnostics (flow : AgentFlow) (stepPaths : List String) :
    List String → List StepRef → List FlowDiagnostic
  | _, [] => []
  | seen, ref :: rest =>
    stepDiagnostics flow stepPaths seen ref
      ++ stepsDiagnostics flow stepPaths (ref.path :: seen) rest

/-- A topic has a top-level step and can be entered from a call or another topic. -/
def topicDiagnostics (flow : AgentFlow) (refs : List StepRef) (node : FlowNode) :
    List FlowDiagnostic :=
  let roots := refs.filter fun ref => decide (ref.nodeId = node.id) && ref.ancestors.isEmpty
  if roots.isEmpty then
    [⟨.error, s!"nodes.{node.id}.steps", "topic needs at least one top-level step"⟩]
  else
    let rootPaths := roots.map StepRef.path
    let hasCrossTopicInbound := refs.any fun ref =>
      decide (ref.nodeId ≠ node.id) && (namedTargets ref).any rootPaths.contains
    errorWhen ((topicEntryStepPaths flow node.id).isEmpty && !hasCrossTopicInbound)
      s!"nodes.{node.id}.steps" "topic needs an entry step or an inbound cross-topic transition"

/-- Topics of the flow, in document order. -/
def topics (flow : AgentFlow) : List FlowNode := flow.nodes.filter fun node => node.kind = .topic

/-- Successors of a step in the search: its children, then its named targets. -/
def searchTargets (ref : StepRef) : List String :=
  ref.step.steps.map (fun child => ref.path ++ "." ++ child.id) ++ namedTargets ref

/-- Mark and enqueue the targets that are known and not yet reached. -/
def enqueueTargets (stepPaths : List String) :
    List String → List String → List String → List String × List String
  | [], reached, queue => (reached, queue)
  | target :: rest, reached, queue =>
    if stepPaths.contains target && !reached.contains target then
      enqueueTargets stepPaths rest (reached ++ [target]) (queue ++ [target])
    else enqueueTargets stepPaths rest reached queue

/-- The breadth-first loop. Each round removes one queued path, and a path is
queued at most once, so the number of steps and initial entries bounds the rounds. -/
def searchSteps (refs : List StepRef) : Nat → List String → List String → List String
  | 0, reached, _ => reached
  | _ + 1, reached, [] => reached
  | rounds + 1, reached, path :: queue =>
    match refs.find? (fun ref => ref.path = path) with
    | none => searchSteps refs rounds reached queue
    | some ref =>
      let next := enqueueTargets (refs.map StepRef.path) (searchTargets ref) reached queue
      searchSteps refs rounds next.1 next.2

/-- Entry paths of all topics, the initial queue of the search. -/
def searchEntries (flow : AgentFlow) : List String :=
  (topics flow).flatMap fun node => topicEntryStepPaths flow node.id

/-- Paths that the validator's search reaches. -/
def reachableSteps (flow : AgentFlow) : List String :=
  let entries := searchEntries flow
  searchSteps (listStepRefs flow) (entries.length + (listStepRefs flow).length)
    (distinct entries) entries

/-- The loop over node edges from the call's entry node. -/
def searchNodes (edges : List FlowEdge) : Nat → List String → List String → List String
  | 0, reached, _ => reached
  | _ + 1, reached, [] => reached
  | rounds + 1, reached, source :: queue =>
    let next := (edges.filter fun edge => edge.source = source).foldl
      (fun (found : List String × List String) edge =>
        if found.1.contains edge.target then found
        else (found.1 ++ [edge.target], found.2 ++ [edge.target]))
      (reached, queue)
    searchNodes edges rounds next.1 next.2

/-- Nodes that no edge path connects to the entry are reported as warnings. -/
def nodeReachabilityDiagnostics (flow : AgentFlow) : List FlowDiagnostic :=
  match entryNodes flow with
  | [entry] =>
    let reached := searchNodes flow.edges (flow.nodes.length + flow.edges.length + 1)
      [entry.id] [entry.id]
    flow.nodes.flatMap fun node => warningWhen (!reached.contains node.id) s!"nodes.{node.id}"
      "node is unreachable from the entry"
  | _ => []

/-- The step graph of a Flow v2: every topic can be entered and every step is found. -/
def graphDiagnostics (flow : AgentFlow) : List FlowDiagnostic :=
  let refs := listStepRefs flow
  let reached := reachableSteps flow
  (topics flow).flatMap (topicDiagnostics flow refs)
    ++ refs.flatMap fun ref => errorWhen (!reached.contains ref.path) ref.path
      "step is unreachable from every classified entry"

/-- Outcome of validating a submitted flow. -/
inductive Validation where
  | rejected
  | diagnosed (diagnostics : List FlowDiagnostic)

/-- Every diagnostic of a flow that has the right shape. -/
def semanticDiagnostics (flow : AgentFlow) : List FlowDiagnostic :=
  let refs := listStepRefs flow
  let entries := entryNodes flow
  nodeDiagnostics (decide (flow.schemaVersion = some 2)) 0 [] flow.nodes
    ++ edgeDiagnostics (flow.nodes.map FlowNode.id) 0 flow.edges
    ++ errorWhen (decide (entries.length ≠ 1)) "nodes"
      s!"flow needs exactly one entry node; found {entries.length}"
    ++ errorWhen (topics flow).isEmpty "nodes" "flow needs at least one topic node"
    ++ globalPolicyDiagnostics (alwaysTools flow) 0 [] flow.alwaysActionPolicies
    ++ stepsDiagnostics flow (refs.map StepRef.path) [] refs
    ++ (if flow.schemaVersion = some 2 then graphDiagnostics flow else [])
    ++ nodeReachabilityDiagnostics flow

/-- Semantic validation beyond the shape of the flow. -/
def validateAgentFlow (flow : AgentFlow) : Validation :=
  if !AgentFlowSchema flow then .rejected else .diagnosed (semanticDiagnostics flow)

/-- The flow is accepted: it has the right shape and no error diagnostic. -/
def accepts (flow : AgentFlow) : Bool :=
  match validateAgentFlow flow with
  | .rejected => false
  | .diagnosed diagnostics => diagnostics.all fun diagnostic => decide (diagnostic.level ≠ .error)

/-- A step with only its required texts, to be completed field by field. -/
def plainStep (id : String) : FlowStep where
  id := id
  label := "Step"
  instructions := "Follow the procedure"
  context := none
  entry := none
  tools := []
  requiredOutputs := []
  outputBindings := []
  actionPolicies := []
  successCriteria := []
  transitions := []
  onFailure := none
  maxAttempts := none
  checkpoint := false
  steps := []

/-- A Flow v2 whose only topic has the given top-level steps. -/
def singleTopicFlow (topicId : String) (steps : List FlowStep) : AgentFlow where
  schemaVersion := some 2
  alwaysTools := none
  alwaysActionPolicies := []
  toolExposure := none
  maxStepEntries := none
  nodes :=
    [ { id := "entry", label := "Incoming call", kind := .incomingCall, context := none,
        steps := [], tools := [] },
      { id := topicId, label := "Topic", kind := .topic, context := none, steps, tools := [] } ]
  edges := [⟨"entry", topicId⟩]

/-- A lookup step with a nested confirmation. -/
def orderFlow : AgentFlow :=
  singleTopicFlow "orders"
    [{ plainStep "lookup" with tools := ["find_order"], steps := [plainStep "confirm"] }]

end CallCenter.FlowValidation
