import CallCenter.FlowActions
import CallCenter.Runs

/-!
# Completing steps, and runs of the flow runtime

A step is completed with outputs that the model supplies and outputs that the
runtime binds to successful receipts. The module closes with the ten operations
as one type and their runs: an operation that fails leaves the state as it was.
-/

namespace CallCenter.FlowRuntime

open JsonValues FlowDefinition FlowValidation Timestamps FlowState FlowNavigation FlowActions
  ObjectFields

def UNSAFE_PATH_SEGMENTS : List String := ["__proto__", "prototype", "constructor"]

def safeFlowOutputKey (key : String) : Bool :=
  decide (key ≠ "") && !UNSAFE_PATH_SEGMENTS.contains key

/-- An own property of a value. Arrays own their indices and their length. -/
def ownProperty (value : Value) (key : String) : Option Value :=
  match value with
  | .object fields => fields.lookup key
  | .array items =>
    if key = "length" then some (.ofNat items.length)
    else ((List.range items.length).find? fun index => toString index = key).bind fun index =>
      items[index]?
  | _ => none

/-- Follow safe segments through own properties. -/
def valueAtSegments : Value → List String → Option Value
  | value, [] => some value
  | value, segment :: rest =>
    if UNSAFE_PATH_SEGMENTS.contains segment then none
    else
      match ownProperty value segment with
      | none => none
      | some inner => valueAtSegments inner rest

/-- The value at a dot path inside a result. -/
def resultAtPath (result : Value) (path : String) : Option Value :=
  valueAtSegments result ((resultPathSegments path).filter (· ≠ ""))

def matchesValueType (value : Value) (type : Option ValueType) : Bool :=
  match type, value with
  | none, _ => true
  | some .array, .array _ => true
  | some .object, .object _ => true
  | some .string, .string _ => true
  | some .number, .number _ => true
  | some .boolean, .bool _ => true
  | some _, _ => false

/-- A declared type as it prints inside a message. -/
def ValueType.name : ValueType → String
  | .string => "string"
  | .number => "number"
  | .boolean => "boolean"
  | .object => "object"
  | .array => "array"

/-- The step declares the bound tool's receipts valid across attempts. -/
def bindingIsCallScoped (ref : StepRef) (tool : String) : Bool :=
  match (ref.step.actionPolicies.find? fun policy => policy.tool = tool).bind
      FlowActionPolicy.idempotency with
  | some mode => isCallScoped mode
  | none => false

/-- Successful receipts that can feed a binding of the step. -/
def bindingCandidates (state : FlowExecutionState) (ref : StepRef) (binding : FlowOutputBinding) :
    List FlowActionReceipt :=
  state.actionReceipts.filter fun receipt =>
    decide (receipt.status = .succeeded) && decide (receipt.step = ref.path)
      && decide (receipt.tool = binding.tool)
      && (decide (receipt.capabilityEpoch = state.capabilityEpoch)
        || bindingIsCallScoped ref binding.tool)

/-- The value that a binding takes from the only candidate receipt. -/
def boundValue (sha256 : String → String) (state : FlowExecutionState) (ref : StepRef)
    (supplied : List (String × Value)) (binding : FlowOutputBinding) : Except Failure Value :=
  match bindingCandidates state ref binding with
  | [] =>
    refuse .missingActionEvidence
      s!"output \"{binding.output}\" requires a successful {binding.tool} receipt from the active step attempt"
  | first :: second :: others =>
    let ids := ", ".intercalate ((first :: second :: others).map FlowActionReceipt.id)
    refuse .ambiguousActionEvidence
      s!"output \"{binding.output}\" has ambiguous successful {binding.tool} receipts: {ids}"
  | [receipt] =>
    match resultAtPath (receipt.result.getD .undefined) binding.resultPath with
    | none =>
      refuse .missingReceiptOutput
        s!"receipt {receipt.id} has no safe result path \"{binding.resultPath}\" for output \"{binding.output}\""
    | some value =>
      if matchesValueType value binding.valueType = false then
        let type := (binding.valueType.map ValueType.name).getD "undefined"
        refuse .receiptOutputType
          s!"receipt output \"{binding.output}\" does not match declared type {type}"
      else if (supplied.lookup binding.output).any fun claimed =>
          !valuesEqual sha256 claimed value then
        refuse .boundOutputMismatch
          s!"model-supplied output \"{binding.output}\" does not match authoritative receipt {receipt.id}"
      else .ok value

/-- Write every bound value over the supplied outputs, in declaration order. -/
def bindOutputs (sha256 : String → String) (state : FlowExecutionState) (ref : StepRef)
    (supplied : List (String × Value)) :
    List FlowOutputBinding → List (String × Value) → Except Failure (List (String × Value))
  | [], outputs => .ok outputs
  | binding :: rest, outputs =>
    match boundValue sha256 state ref supplied binding with
    | .error failure => .error failure
    | .ok value =>
      bindOutputs sha256 state ref supplied rest (setField outputs binding.output value)

def verifiedOutputs (sha256 : String → String) (state : FlowExecutionState) (ref : StepRef)
    (supplied : List (String × Value)) : Except Failure (List (String × Value)) :=
  bindOutputs sha256 state ref supplied ref.step.outputBindings supplied

/-- Property names that every object inherits. -/
def INHERITED_KEYS : List String :=
  ["__proto__", "__defineGetter__", "__defineSetter__", "__lookupGetter__", "__lookupSetter__",
    "constructor", "hasOwnProperty", "isPrototypeOf", "propertyIsEnumerable", "toLocaleString",
    "toString", "valueOf"]

/-- A required output that is absent or null. Reading a missing key still finds an
inherited property. -/
def isMissingOutput (outputs : List (String × Value)) (key : String) : Bool :=
  match outputs.lookup key with
  | some value => isNullish value
  | none => !INHERITED_KEYS.contains key

/-- A completion request. Undefined outputs are omitted ones. -/
structure CompleteArgs where
  path : Option String
  outputs : Value

/-- The outputs that the model supplies, as an object with safe keys and a canonical
text. An empty key that precedes an unsafe one hides it from the check. -/
def suppliedOutputs (sha256 : String → String) (args : CompleteArgs) :
    Except Failure (List (String × Value)) :=
  let fields : Option (List (String × Value)) :=
    match args.outputs with
    | .undefined => some []
    | .null => some []
    | .object fields => some fields
    | _ => none
  match fields with
  | none => refuse .invalidOutputs "step outputs must be a JSON object"
  | some fields =>
    match ((fields.map Prod.fst).find? fun key => !safeFlowOutputKey key).filter (· ≠ "") with
    | some key => refuse .invalidOutputs s!"step output key \"{key}\" is unsafe"
    | none =>
      match hashFlowValue sha256 (.object fields) with
      | .error message => refuse .invalidOutputs message
      | .ok _ => .ok fields

/-- A completed step and what may follow it. -/
structure StepCompletion where
  state : FlowExecutionState
  nextSteps : List String

/-- The state in which a step and its outputs are recorded, before the flow moves on. -/
def recordedCompletion (state : FlowExecutionState) (ref : StepRef) (path : String)
    (outputs : List (String × Value)) (receipts : List FlowActionReceipt) (now : Instant) :
    FlowExecutionState :=
  { state with
    completedSteps := distinct (state.completedSteps ++ [path])
    outputs := setField state.outputs path outputs
    checkpoints :=
      if ref.step.checkpoint then state.checkpoints ++ [⟨path, now⟩] else state.checkpoints
    actionReceipts := receipts }

/-- The flow ends when nothing may follow the completed step. -/
def completedState (candidate : FlowExecutionState) (nextSteps : List String) (now : Instant) :
    FlowExecutionState :=
  updateCapabilities
    (if nextSteps = [] then { candidate with status := .completed, currentStep := none }
      else candidate) now

/-- Record the completion of the step with its verified outputs. -/
def finishFlowStep (sha256 : String → String) (flow : AgentFlow) (state : FlowExecutionState)
    (ref : StepRef) (path : String) (outputs : List (String × Value)) (now : Instant) :
    Except Failure StepCompletion :=
  match compactCompletedStepReceipts path state.actionReceipts with
  | .error message => .error (.thrown message)
  | .ok receipts =>
    let candidate := recordedCompletion state ref path outputs receipts now
    let nextSteps := allowedStepPaths sha256 flow candidate
    let nextState := completedState candidate nextSteps now
    (withinBudget nextState).map fun _ => ⟨nextState, nextSteps⟩

/-- Complete the active step. -/
def completeFlowStep (sha256 : String → String) (flow : AgentFlow) (state : FlowExecutionState)
    (args : CompleteArgs) (now : Instant) : Except Failure StepCompletion :=
  match (args.path.or state.currentStep).filter fun path =>
      decide (path ≠ "") && decide (some path = state.currentStep) with
  | none => refuse .notActiveStep "complete_step must target the active step"
  | some path =>
    if state.completedSteps.contains path then
      .ok ⟨state, allowedStepPaths sha256 flow state⟩
    else
      match findStep flow path with
      | none => refuse .unknownStep s!"unknown step \"{path}\""
      | some ref =>
        let pending := unresolvedReceipts state ref.path
        if pending ≠ [] then
          let ids := ", ".intercalate (pending.map FlowActionReceipt.id)
          refuse .pendingActionEvidence
            s!"cannot complete {path} while action receipts need settlement or reconciliation: {ids}"
        else
          match suppliedOutputs sha256 args with
          | .error failure => .error failure
          | .ok supplied =>
            match verifiedOutputs sha256 state ref supplied with
            | .error failure => .error failure
            | .ok outputs =>
              let missing := ref.step.requiredOutputs.filter (isMissingOutput outputs)
              if missing ≠ [] then
                let keys := ", ".intercalate missing
                refuse .missingOutputs s!"missing required outputs: {keys}"
              else finishFlowStep sha256 flow state ref path outputs now

/-- Rotate grants without moving through the flow. -/
def rotateFlowCapabilityEpoch (state : FlowExecutionState) (now : Instant) : FlowExecutionState :=
  updateCapabilities state now

/-- The operations of the runtime with their arguments. -/
inductive FlowOperation where
  | selectTopic (nodeId : String)
  | enterStep (path : String)
  | reserve (args : ReserveArgs)
  | markDispatchStarted (receiptId : String)
  | settle (args : SettleArgs)
  | promote (args : PromoteArgs)
  | proveAbsent (args : AbsenceArgs)
  | markStale (receiptIds : List String)
  | rotate
  | complete (args : CompleteArgs)

/-- An operation and the time at which it is performed. -/
structure TimedOperation where
  operation : FlowOperation
  now : Instant

/-- The new state of an operation, or its failure. -/
def applyOperation (sha256 : String → String) (flow : AgentFlow) (state : FlowExecutionState)
    (timed : TimedOperation) : Except Failure FlowExecutionState :=
  match timed.operation with
  | .selectTopic nodeId => selectFlowTopic sha256 flow state nodeId timed.now
  | .enterStep path =>
    (enterFlowStep sha256 flow state path timed.now).map StepEntry.state
  | .reserve args =>
    (reserveFlowAction sha256 flow state args timed.now).map FlowActionReservation.state
  | .markDispatchStarted receiptId =>
    (markFlowActionDispatchStarted state receiptId timed.now).map ReceiptUpdate.state
  | .settle args => (settleFlowAction sha256 state args timed.now).map ReceiptUpdate.state
  | .promote args =>
    (promoteIndeterminateFlowAction sha256 state args timed.now).map ReceiptUpdate.state
  | .proveAbsent args =>
    (proveIndeterminateFlowActionAbsent state args timed.now).map ReceiptUpdate.state
  | .markStale receiptIds =>
    .ok (markStaleDispatchedActionsIndeterminate state receiptIds timed.now)
  | .rotate => .ok (rotateFlowCapabilityEpoch state timed.now)
  | .complete args =>
    (completeFlowStep sha256 flow state args timed.now).map StepCompletion.state

/-- A failed operation leaves the state unchanged. -/
def step (sha256 : String → String) (flow : AgentFlow) (state : FlowExecutionState)
    (timed : TimedOperation) : FlowExecutionState :=
  match applyOperation sha256 flow state timed with
  | .ok next => next
  | .error _ => state

/-- The state that a list of operations reaches from a new call. -/
def runFlow (sha256 : String → String) (flow : AgentFlow) (created : Instant)
    (operations : List TimedOperation) : FlowExecutionState :=
  Runs.run (step sha256 flow) (createFlowExecutionState created) operations

end CallCenter.FlowRuntime
