import CallCenter.JsonValues
import CallCenter.ObjectFields
import CallCenter.DottedPaths

/-!
# Agent flows

The data model of `flow.ts` and the pure lookups that the validator and the
runtime share: the flattened list of steps with their absolute paths and
ancestors, the entry steps of a topic, and the tools and action policies that
are available for a whole call.

An absent optional list and an empty one behave alike everywhere in the source
and are both the empty list here. Where absence matters (`entry`, `always_tools`,
numeric limits) the field is an option. Node fields that only the studio reads
(`icon`, `active`, `support_number`, `table`) and edge labels are left out.
-/

namespace CallCenter.FlowDefinition

open JsonValues

/-- How a branch condition compares the completed step's output. -/
inductive ConditionOperator where
  | equals
  | notEquals
  | exists
  | isIn
deriving DecidableEq

/-- A machine-enforced condition on the outputs of the completed step. -/
structure TransitionCondition where
  output : String
  operator : ConditionOperator
  value : Value

/-- An explicit edge to an absolute step path. -/
structure FlowTransition where
  target : String
  label : Option String
  when : Option String
  condition : Option TransitionCondition

/-- Declared type of a bound output. -/
inductive ValueType where
  | string
  | number
  | boolean
  | object
  | array
deriving DecidableEq

/-- A durable output that the runtime fills from a successful receipt. -/
structure FlowOutputBinding where
  output : String
  tool : String
  resultPath : String
  valueType : Option ValueType

/-- Deduplication scope of an action. -/
inductive Idempotency where
  | none
  | perStep
  | perArguments
  | perCall
  | perCallArguments
deriving DecidableEq

/-- Operator-authored effect classification of an action. -/
inductive ActionEffect where
  | read
  | write
  | opaqueEffect
deriving DecidableEq

/-- An argument that the host resolves from a receipt of the same step. -/
structure FlowBoundArgument where
  argument : String
  sourceTool : String
  sourceResultPath : String

/-- Admission rules for one action. -/
structure FlowActionPolicy where
  tool : String
  maxCalls : Option Nat
  idempotency : Option Idempotency
  effect : Option ActionEffect
  reconciliation : Option (List (String × Value))
  boundArguments : List FlowBoundArgument

/-- A step with its arbitrarily nested substeps. -/
structure FlowStep where
  id : String
  label : String
  instructions : String
  context : Option String
  entry : Option Bool
  tools : List String
  requiredOutputs : List String
  outputBindings : List FlowOutputBinding
  actionPolicies : List FlowActionPolicy
  successCriteria : List String
  transitions : List FlowTransition
  onFailure : Option String
  maxAttempts : Option Nat
  checkpoint : Bool
  steps : List FlowStep

/-- Node kinds of the flow graph. -/
inductive NodeKind where
  | incomingCall
  | topic
  | fallback
  | start
  | state
  | tool
  | decision
  | endNode
deriving DecidableEq

/-- A node of the flow graph; topics carry the steps of a conversation. -/
structure FlowNode where
  id : String
  label : String
  kind : NodeKind
  context : Option String
  steps : List FlowStep
  tools : List String

/-- A directed edge between nodes. -/
structure FlowEdge where
  source : String
  target : String

/-- How attached tools are exposed to the model. -/
inductive ToolExposure where
  | gateway
  | direct
deriving DecidableEq

/-- A complete agent flow. -/
structure AgentFlow where
  schemaVersion : Option Nat
  alwaysTools : Option (List String)
  alwaysActionPolicies : List FlowActionPolicy
  toolExposure : Option ToolExposure
  maxStepEntries : Option Nat
  nodes : List FlowNode
  edges : List FlowEdge

/-- A step together with its absolute path, its topic and its ancestors, outermost first. -/
structure StepRef where
  path : String
  nodeId : String
  step : FlowStep
  ancestors : List FlowStep

/-- Every value once, at its first position, as a set lists its members. -/
def distinct (values : List String) : List String :=
  values.foldl (fun seen value => if value ∈ seen then seen else seen ++ [value]) []

/-- Collecting distinct values adds exactly the missing ones. -/
theorem mem_foldl_distinct (values seen : List String) (value : String) :
    value ∈ values.foldl (fun seen value => if value ∈ seen then seen else seen ++ [value]) seen ↔
      value ∈ seen ∨ value ∈ values := by
  induction values generalizing seen with
  | nil => simp
  | cons first rest ih =>
    rw [List.foldl_cons, ih, List.mem_cons]
    by_cases known : first ∈ seen
    · rw [if_pos known]
      constructor
      · rintro (old | later)
        · exact Or.inl old
        · exact Or.inr (Or.inr later)
      · rintro (old | rfl | later)
        · exact Or.inl old
        · exact Or.inl known
        · exact Or.inr later
    · rw [if_neg known, List.mem_append, List.mem_singleton, or_assoc]

@[simp] theorem mem_distinct (values : List String) (value : String) :
    value ∈ distinct values ↔ value ∈ values := by
  rw [distinct, mem_foldl_distinct]
  simp

theorem nodup_foldl_distinct (values seen : List String) (nodup : seen.Nodup) :
    (values.foldl (fun seen value => if value ∈ seen then seen else seen ++ [value])
      seen).Nodup := by
  induction values generalizing seen with
  | nil => exact nodup
  | cons first rest ih =>
    rw [List.foldl_cons]
    apply ih
    by_cases known : first ∈ seen
    · rwa [if_pos known]
    · rw [if_neg known, List.nodup_append]
      refine ⟨nodup, List.nodup_singleton _, ?_⟩
      intro old member new isNew same
      obtain rfl := List.mem_singleton.mp isNew
      exact known (same ▸ member)

theorem nodup_distinct (values : List String) : (distinct values).Nodup :=
  nodup_foldl_distinct values [] List.nodup_nil

def DEFAULT_ALWAYS_TOOLS : List String := ["contact_support", "log_note", "end_call"]

def DEFAULT_ALWAYS_ACTION_POLICIES : List FlowActionPolicy :=
  [ { tool := "contact_support", maxCalls := some 1, idempotency := some .perCall,
      effect := none, reconciliation := none, boundArguments := [] },
    { tool := "log_note", maxCalls := some 100, idempotency := some .perCallArguments,
      effect := none, reconciliation := none, boundArguments := [] },
    { tool := "end_call", maxCalls := some 1, idempotency := some .perCall,
      effect := none, reconciliation := none, boundArguments := [] } ]

/-- Tools visible for the whole call. -/
def alwaysTools (flow : AgentFlow) : List String :=
  distinct (flow.alwaysTools.getD DEFAULT_ALWAYS_TOOLS)

/-- The values of a map built from the policies by tool: a repeated tool keeps
its first position and its last policy. -/
def policiesByTool (policies : List FlowActionPolicy) : List FlowActionPolicy :=
  (policies.foldl (fun entries policy => ObjectFields.setField entries policy.tool policy)
    ([] : List (String × FlowActionPolicy))).map Prod.snd

/-- Explicit global policies override the defaults of granted tools. -/
def alwaysActionPolicies (flow : AgentFlow) : List FlowActionPolicy :=
  let granted := alwaysTools flow
  let explicit := policiesByTool flow.alwaysActionPolicies
  DEFAULT_ALWAYS_ACTION_POLICIES.filter (fun policy =>
      decide (policy.tool ∈ granted) && !explicit.any (fun other => other.tool = policy.tool))
    ++ explicit

mutual

/-- A step's own reference followed by those of its substeps. -/
def visitStep (nodeId parentPath : String) (ancestors : List FlowStep) : FlowStep → List StepRef
  | step@{ id := id, steps := steps, .. } =>
    { path := parentPath ++ "." ++ id, nodeId, step, ancestors } ::
      visitSteps nodeId (parentPath ++ "." ++ id) (ancestors ++ [step]) steps

/-- References of sibling steps in document order. -/
def visitSteps (nodeId parentPath : String) (ancestors : List FlowStep) :
    List FlowStep → List StepRef
  | [] => []
  | step :: rest =>
    visitStep nodeId parentPath ancestors step ++ visitSteps nodeId parentPath ancestors rest

end

/-- Every step of the flow with its absolute path, in document order. -/
def listStepRefs (flow : AgentFlow) : List StepRef :=
  flow.nodes.flatMap fun node => visitSteps node.id node.id [] node.steps

/-- The first step with the given absolute path. -/
def findStep (flow : AgentFlow) (path : String) : Option StepRef :=
  (listStepRefs flow).find? fun ref => ref.path = path

/-- Paths a step names as a transition or failure target. -/
def namedTargets (ref : StepRef) : List String :=
  ref.step.transitions.map FlowTransition.target ++ ref.step.onFailure.toList.filter (· ≠ "")

/-- Top-level steps of a topic. -/
def topicRoots (flow : AgentFlow) (nodeId : String) : List StepRef :=
  (listStepRefs flow).filter fun ref => decide (ref.nodeId = nodeId) && ref.ancestors.isEmpty

/-- Entry steps are explicit as soon as one top-level step sets `entry`;
otherwise they are the top-level steps that no step names as a target. -/
def topicEntryStepPaths (flow : AgentFlow) (nodeId : String) : List String :=
  let roots := topicRoots flow nodeId
  if roots.any (fun ref => ref.step.entry.isSome) then
    (roots.filter fun ref => ref.step.entry = some true).map StepRef.path
  else
    let targets := (listStepRefs flow).flatMap namedTargets
    (roots.filter fun ref => decide (ref.path ∉ targets)).map StepRef.path

end CallCenter.FlowDefinition
