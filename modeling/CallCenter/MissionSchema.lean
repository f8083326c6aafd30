import CallCenter.FlowStateSchema
import CallCenter.KeyedTables

/-!
# Mission definitions

A mission is a set of goals with dependencies and detours, and a set of capabilities
with prerequisites, confirmations, obligations and saga groups. `definitionIssues` lists
the cross references that the refinement of the schema reports, with their paths and
texts; `MissionDefinitionSchema` accepts a definition whose fields are well formed and
that raises no issue.

`toValue` gives the JSON object of every part, as it is hashed.
-/

namespace CallCenter.MissionSchema

open JsonValues FlowState FlowStateSchema

/-- Who vouches for a fact. -/
inductive FactAuthority where
  | caller
  | tool
  | policy
  | operator
  | system
deriving DecidableEq

def FactAuthority.name : FactAuthority → String
  | .caller => "caller"
  | .tool => "tool"
  | .policy => "policy"
  | .operator => "operator"
  | .system => "system"

/-- How much an action can change. -/
inductive ActionRisk where
  | read
  | reversible
  | consequential
  | irreversible
deriving DecidableEq

def ActionRisk.name : ActionRisk → String
  | .read => "read"
  | .reversible => "reversible"
  | .consequential => "consequential"
  | .irreversible => "irreversible"

/-- Comparisons of a fact with the value of a predicate. -/
inductive FactOperator where
  | present
  | equals
  | notEquals
  | oneOf
deriving DecidableEq

def FactOperator.name : FactOperator → String
  | .present => "exists"
  | .equals => "equals"
  | .notEquals => "not_equals"
  | .oneOf => "in"

/-- Whether a predicate looks at the focused goal or at the whole mission. -/
inductive PredicateScope where
  | goal
  | mission
deriving DecidableEq

def PredicateScope.name : PredicateScope → String
  | .goal => "goal"
  | .mission => "mission"

/-- A condition on the state of a mission. -/
inductive MissionPredicate where
  | fact (factId : String) (operator : FactOperator) (value : Option Value)
      (authorities : Option (List FactAuthority))
  | receipt (action : String) (scope : PredicateScope)
  | obligation (obligationType : String) (scope : PredicateScope)

inductive ObligationOwner where
  | agent
  | caller
  | human
  | system
deriving DecidableEq

def ObligationOwner.name : ObligationOwner → String
  | .agent => "agent"
  | .caller => "caller"
  | .human => "human"
  | .system => "system"

/-- What an open obligation holds up. -/
inductive ObligationBlock where
  | goalCompletion
  | missionCompletion
  | irreversibleActions
deriving DecidableEq

def ObligationBlock.name : ObligationBlock → String
  | .goalCompletion => "goal_completion"
  | .missionCompletion => "mission_completion"
  | .irreversibleActions => "irreversible_actions"

structure MissionObligationTemplate where
  obligationType : String
  description : String
  owner : ObligationOwner
  blocks : ObligationBlock

/-- Who may confirm a proposal. -/
inductive ConfirmationAuthority where
  | caller
  | operator
deriving DecidableEq

def ConfirmationAuthority.name : ConfirmationAuthority → String
  | .caller => "caller"
  | .operator => "operator"

structure Confirmation where
  prompt : String
  acceptedValues : List Value
  authorities : List ConfirmationAuthority

inductive MissionIdempotency where
  | perArguments
  | perGoal
  | none
deriving DecidableEq

def MissionIdempotency.name : MissionIdempotency → String
  | .perArguments => "per_arguments"
  | .perGoal => "per_goal"
  | .none => "none"

structure Saga where
  group : String
  compensationAction : Option String

structure MissionCapability where
  name : String
  description : String
  risk : ActionRisk
  goals : List String
  prerequisites : List MissionPredicate
  confirmation : Option Confirmation
  idempotency : MissionIdempotency
  opensObligations : List MissionObligationTemplate
  satisfiesObligationTypes : List String
  saga : Option Saga

structure MissionGoal where
  id : String
  label : String
  entry : Bool
  required : Bool
  dependsOn : List String
  capabilities : List String
  completion : List MissionPredicate
  allowedDetours : List String

structure MissionDefinition where
  id : String
  version : String
  label : String
  globalCapabilities : List String
  goals : List MissionGoal
  capabilities : List MissionCapability

/-! ## Texts -/

def isLower (c : Char) : Bool := decide (97 ≤ c.toNat ∧ c.toNat ≤ 122)

def isUpper (c : Char) : Bool := decide (65 ≤ c.toNat ∧ c.toNat ≤ 90)

/-- A first character, then between the given numbers of further ones. -/
def matchesShape (first other : Char → Bool) (least most : Nat) (text : String) : Bool :=
  match text.toList with
  | [] => false
  | head :: rest => first head && rest.all other && decide (least ≤ rest.length ∧ rest.length ≤ most)

/-- `ID`. -/
def isId : String → Bool :=
  matchesShape isLower (fun c => isLower c || c.isDigit || ['_', '.', ':', '-'].contains c) 1 127

/-- `TOOL`. -/
def isTool : String → Bool :=
  matchesShape isLower (fun c => isLower c || c.isDigit || ['_', '.', '-'].contains c) 1 95

/-- `EXTERNAL_ID`. -/
def isExternalId : String → Bool :=
  matchesShape (fun c => isUpper c || isLower c || c.isDigit)
    (fun c => isUpper c || isLower c || c.isDigit || ['.', '_', ':', '-'].contains c) 0 511

/-- Number of code units within bounds. -/
def lengthWithin (least most : Nat) (text : String) : Bool :=
  decide (least ≤ (utf16 text).length ∧ (utf16 text).length ≤ most)

def countWithin {α : Type} (least most : Nat) (items : List α) : Bool :=
  decide (least ≤ items.length ∧ items.length ≤ most)

/-! ## JSON -/

def textArray (texts : List String) : Value := .array (texts.map .string)

/-- A field that is absent when its value is. -/
def optionalField (key : String) (value : Option Value) : List (String × Value) :=
  match value with
  | none => []
  | some present => [(key, present)]

def MissionPredicate.toValue : MissionPredicate → Value
  | .fact factId operator value authorities =>
    .object ([("kind", .string "fact"), ("fact_id", .string factId),
        ("operator", .string operator.name)]
      ++ optionalField "value" value
      ++ optionalField "authorities" (authorities.map fun listed =>
        textArray (listed.map FactAuthority.name)))
  | .receipt action scope =>
    .object [("kind", .string "receipt"), ("action", .string action),
      ("status", .string "succeeded"), ("scope", .string scope.name)]
  | .obligation obligationType scope =>
    .object [("kind", .string "obligation"), ("obligation_type", .string obligationType),
      ("status", .string "satisfied"), ("scope", .string scope.name)]

def MissionObligationTemplate.toValue (template : MissionObligationTemplate) : Value :=
  .object [("type", .string template.obligationType), ("description", .string template.description),
    ("owner", .string template.owner.name), ("blocks", .string template.blocks.name)]

def Confirmation.toValue (confirmation : Confirmation) : Value :=
  .object [("prompt", .string confirmation.prompt),
    ("accepted_values", .array confirmation.acceptedValues),
    ("authorities", textArray (confirmation.authorities.map ConfirmationAuthority.name))]

def Saga.toValue (saga : Saga) : Value :=
  .object ([("group", .string saga.group)]
    ++ optionalField "compensation_action" (saga.compensationAction.map .string))

def MissionCapability.toValue (capability : MissionCapability) : Value :=
  .object ([("name", .string capability.name), ("description", .string capability.description),
      ("risk", .string capability.risk.name), ("goals", textArray capability.goals),
      ("prerequisites", .array (capability.prerequisites.map MissionPredicate.toValue))]
    ++ optionalField "confirmation" (capability.confirmation.map Confirmation.toValue)
    ++ [("idempotency", .string capability.idempotency.name), ("opens_obligations",
        .array (capability.opensObligations.map MissionObligationTemplate.toValue)),
      ("satisfies_obligation_types", textArray capability.satisfiesObligationTypes)]
    ++ optionalField "saga" (capability.saga.map Saga.toValue))

def MissionGoal.toValue (goal : MissionGoal) : Value :=
  .object [("id", .string goal.id), ("label", .string goal.label), ("entry", .bool goal.entry),
    ("required", .bool goal.required), ("depends_on", textArray goal.dependsOn),
    ("capabilities", textArray goal.capabilities),
    ("completion", .array (goal.completion.map MissionPredicate.toValue)),
    ("allowed_detours", textArray goal.allowedDetours)]

def MissionDefinition.toValue (definition : MissionDefinition) : Value :=
  .object [("schema_version", .ofNat 1), ("id", .string definition.id),
    ("version", .string definition.version), ("label", .string definition.label),
    ("global_capabilities", textArray definition.globalCapabilities),
    ("goals", .array (definition.goals.map MissionGoal.toValue)),
    ("capabilities", .array (definition.capabilities.map MissionCapability.toValue))]

/-! ## Field formats -/

def isArray : Value → Bool
  | .array _ => true
  | _ => false

def MissionPredicateSchema : MissionPredicate → Bool
  | .fact factId operator value authorities =>
    isId factId && value.all Value.isJson && authorities.all (countWithin 1 5)
      && (decide (operator = .present) || value.isSome)
      && (decide (operator ≠ .oneOf) || value.any isArray)
  | .receipt action _ => isTool action
  | .obligation obligationType _ => isId obligationType

def MissionObligationTemplateSchema (template : MissionObligationTemplate) : Bool :=
  isId template.obligationType && lengthWithin 1 1000 template.description

def ConfirmationSchema (confirmation : Confirmation) : Bool :=
  lengthWithin 1 1000 confirmation.prompt && confirmation.acceptedValues.all Value.isJson
    && countWithin 1 32 confirmation.acceptedValues && countWithin 1 2 confirmation.authorities

def SagaSchema (saga : Saga) : Bool := isId saga.group && saga.compensationAction.all isTool

def MissionCapabilitySchema (capability : MissionCapability) : Bool :=
  isTool capability.name && lengthWithin 1 2000 capability.description
    && capability.goals.all isId && countWithin 1 256 capability.goals
    && capability.prerequisites.all MissionPredicateSchema
    && countWithin 0 256 capability.prerequisites
    && capability.confirmation.all ConfirmationSchema
    && capability.opensObligations.all MissionObligationTemplateSchema
    && countWithin 0 64 capability.opensObligations
    && capability.satisfiesObligationTypes.all isId
    && countWithin 0 64 capability.satisfiesObligationTypes
    && capability.saga.all SagaSchema

def MissionGoalSchema (goal : MissionGoal) : Bool :=
  isId goal.id && lengthWithin 1 256 goal.label
    && goal.dependsOn.all isId && countWithin 0 256 goal.dependsOn
    && goal.capabilities.all isTool && countWithin 0 1024 goal.capabilities
    && goal.completion.all MissionPredicateSchema && countWithin 0 256 goal.completion
    && goal.allowedDetours.all isId && countWithin 0 256 goal.allowedDetours

def definitionFields (definition : MissionDefinition) : Bool :=
  isId definition.id && lengthWithin 1 128 definition.version && lengthWithin 1 256 definition.label
    && definition.globalCapabilities.all isTool && countWithin 0 1024 definition.globalCapabilities
    && definition.goals.all MissionGoalSchema && countWithin 1 256 definition.goals
    && definition.capabilities.all MissionCapabilitySchema
    && countWithin 1 1024 definition.capabilities

/-! ## Cross references -/

/-- An issue for every value that occurred before. -/
def uniqueFrom (path : List IssuePart) (label : String) : List String → Nat → List String → List Issue
  | _, _, [] => []
  | seen, index, value :: rest =>
    issueWhen (seen.contains value) (path ++ [.index index]) s!"duplicate {label} {value}"
      ++ uniqueFrom path label (value :: seen) (index + 1) rest

def uniqueIssues (values : List String) (path : List IssuePart) (label : String) : List Issue :=
  uniqueFrom path label [] 0 values

/-- A map from names keeps the last entry of each name. -/
def capabilityByName (definition : MissionDefinition) (name : String) : Option MissionCapability :=
  definition.capabilities.reverse.find? fun capability => capability.name = name

def knowsGoal (definition : MissionDefinition) (goalId : String) : Bool :=
  (definition.goals.map MissionGoal.id).contains goalId

def knowsCapability (definition : MissionDefinition) (name : String) : Bool :=
  (definition.capabilities.map MissionCapability.name).contains name

def goalCapabilityIssues (definition : MissionDefinition) (goal : MissionGoal)
    (path : List IssuePart) (capability : String) : List Issue :=
  match capabilityByName definition capability with
  | none => [⟨path, s!"unknown capability {capability}"⟩]
  | some contract =>
    issueWhen (!contract.goals.contains goal.id) path s!"{capability} does not grant goal {goal.id}"

def goalIssues (definition : MissionDefinition) (goal : MissionGoal) (index : Nat) : List Issue :=
  let field (name : String) : List IssuePart := [.field "goals", .index index, .field name]
  uniqueIssues goal.dependsOn (field "depends_on") "dependency"
    ++ uniqueIssues goal.capabilities (field "capabilities") "goal capability"
    ++ uniqueIssues goal.allowedDetours (field "allowed_detours") "detour"
    ++ goal.dependsOn.flatMap (fun dependency =>
      issueWhen (!knowsGoal definition dependency) (field "depends_on")
        s!"unknown goal {dependency}")
    ++ goal.allowedDetours.flatMap (fun detour =>
      issueWhen (!knowsGoal definition detour || decide (detour = goal.id))
        (field "allowed_detours") s!"invalid detour {detour}")
    ++ goal.capabilities.flatMap (goalCapabilityIssues definition goal (field "capabilities"))

/-- Visit candidates until one of them closes a cycle; visited goals are threaded. -/
def someCyclic (visit : List String → String → Bool × List String) :
    List String → List String → Bool × List String
  | visited, [] => (false, visited)
  | visited, candidate :: rest =>
    let outcome := visit visited candidate
    if outcome.1 then outcome else someCyclic visit outcome.2 rest

def dependenciesOf (definition : MissionDefinition) (goalId : String) : List String :=
  ((definition.goals.reverse.find? fun goal => goal.id = goalId).map MissionGoal.dependsOn).getD []

/-- Depth-first search for a cycle. The goals being visited are distinct, so the depth
stays below the number of goals and the fuel is never used up. -/
def visitGoal (definition : MissionDefinition) : Nat → List String → List String → String →
    Bool × List String
  | 0, _, visited, _ => (false, visited)
  | fuel + 1, visiting, visited, goalId =>
    if visiting.contains goalId then (true, visited)
    else if visited.contains goalId then (false, visited)
    else
      let outcome := someCyclic (visitGoal definition fuel (goalId :: visiting)) visited
        (dependenciesOf definition goalId)
      (outcome.1, goalId :: outcome.2)

def cycleIssues (definition : MissionDefinition) : Nat → List String → List MissionGoal → List Issue
  | _, _, [] => []
  | index, visited, goal :: rest =>
    let outcome := visitGoal definition (definition.goals.length + 2) [] visited goal.id
    issueWhen outcome.1 [.field "goals", .index index, .field "depends_on"]
        "goal dependency graph contains a cycle"
      ++ cycleIssues definition (index + 1) outcome.2 rest

def compensationIssues (definition : MissionDefinition) (capability : MissionCapability) :
    List Issue :=
  match (capability.saga.bind Saga.compensationAction).filter (· ≠ "") with
  | none => []
  | some action =>
    if knowsCapability definition action = false then
      [⟨[.field "capabilities"], s!"{capability.name} has unknown compensation action"⟩]
    else
      issueWhen ((capabilityByName definition action).any fun compensation =>
          compensation.risk = .irreversible) [.field "capabilities"]
        s!"{capability.name} compensation cannot itself be irreversible"

def capabilityIssues (definition : MissionDefinition) (capability : MissionCapability)
    (index : Nat) : List Issue :=
  let field (name : String) : List IssuePart := [.field "capabilities", .index index, .field name]
  uniqueIssues capability.goals (field "goals") "capability goal"
    ++ uniqueIssues (capability.opensObligations.map MissionObligationTemplate.obligationType)
      (field "opens_obligations") "opened obligation type"
    ++ uniqueIssues capability.satisfiesObligationTypes (field "satisfies_obligation_types")
      "satisfied obligation type"
    ++ capability.goals.flatMap (fun goal =>
      issueWhen (!knowsGoal definition goal) [.field "capabilities"]
        s!"{capability.name} references unknown goal {goal}")
    ++ compensationIssues definition capability

/-- Every issue of the refinement, in order. -/
def definitionIssues (definition : MissionDefinition) : List Issue :=
  uniqueIssues (definition.goals.map MissionGoal.id) [.field "goals"] "goal"
    ++ uniqueIssues (definition.capabilities.map MissionCapability.name) [.field "capabilities"]
      "capability"
    ++ uniqueIssues definition.globalCapabilities [.field "global_capabilities"] "global capability"
    ++ definition.goals.zipIdx.flatMap (fun entry => goalIssues definition entry.1 entry.2)
    ++ cycleIssues definition 0 [] definition.goals
    ++ definition.capabilities.zipIdx.flatMap (fun entry =>
      capabilityIssues definition entry.1 entry.2)
    ++ definition.globalCapabilities.flatMap (fun name =>
      issueWhen (!knowsCapability definition name) [.field "global_capabilities"]
        s!"unknown global capability {name}")

/-- The definitions that the schema accepts. -/
def MissionDefinitionSchema (definition : MissionDefinition) : Bool :=
  definitionFields definition && decide (definitionIssues definition = [])

/-- Only distinct values raise no issue. -/
theorem nodup_of_uniqueFrom_nil {path : List IssuePart} {label : String} {values seen : List String}
    {index : Nat} (unraised : uniqueFrom path label seen index values = []) :
    values.Nodup ∧ ∀ value ∈ values, value ∉ seen := by
  induction values generalizing seen index with
  | nil => simp
  | cons value rest ih =>
    rw [uniqueFrom, List.append_eq_nil_iff] at unraised
    have unseen : value ∉ seen := by
      by_contra known
      simp [issueWhen, known] at unraised
    have checked := (KeyedTables.distinct_cons_iff id value rest seen).mpr
      ⟨unseen, by simpa using ih unraised.2⟩
    simpa using checked

variable {definition : MissionDefinition} {item : MissionCapability}

variable {goal : MissionGoal}

section

variable (accepted : MissionDefinitionSchema definition = true)
include accepted

theorem goalIssues_nil (member : goal ∈ definition.goals) :
    ∃ index, goalIssues definition goal index = [] := by
  simp only [MissionDefinitionSchema, definitionIssues, Bool.and_eq_true, decide_eq_true_eq,
    List.append_eq_nil_iff, List.flatMap_eq_nil_iff] at accepted
  obtain ⟨index, located⟩ := List.mem_iff_getElem?.mp member
  exact ⟨index, accepted.2.1.1.1.2 (goal, index) (List.mk_mem_zipIdx_iff_getElem?.mpr located)⟩

theorem capabilityIssues_nil (member : item ∈ definition.capabilities) :
    ∃ index, capabilityIssues definition item index = [] := by
  simp only [MissionDefinitionSchema, definitionIssues, Bool.and_eq_true, decide_eq_true_eq,
    List.append_eq_nil_iff, List.flatMap_eq_nil_iff] at accepted
  obtain ⟨index, located⟩ := List.mem_iff_getElem?.mp member
  exact ⟨index, accepted.2.1.2 (item, index) (List.mk_mem_zipIdx_iff_getElem?.mpr located)⟩

/-- The goals of an accepted definition have distinct identities. -/
theorem goals_distinct : (definition.goals.map MissionGoal.id).Nodup := by
  simp only [MissionDefinitionSchema, definitionIssues, Bool.and_eq_true, decide_eq_true_eq,
    List.append_eq_nil_iff] at accepted
  exact (nodup_of_uniqueFrom_nil accepted.2.1.1.1.1.1.1).1

/-- The obligations that a capability of an accepted definition opens have distinct
types. -/
theorem opened_types_distinct (member : item ∈ definition.capabilities) :
    (item.opensObligations.map MissionObligationTemplate.obligationType).Nodup := by
  obtain ⟨index, issues⟩ := capabilityIssues_nil accepted member
  simp only [capabilityIssues, List.append_eq_nil_iff] at issues
  exact (nodup_of_uniqueFrom_nil issues.1.1.1.2).1

end

variable {name : String}

theorem knows_of_capabilityByName (found : capabilityByName definition name = some item) :
    knowsCapability definition name := by
  have member : item ∈ definition.capabilities :=
    List.mem_reverse.mp (List.mem_of_find?_eq_some found)
  have named : item.name = name := by simpa using List.find?_some found
  simp only [knowsCapability, List.contains_iff_mem]
  exact List.mem_map.mpr ⟨item, member, named⟩

section

variable (accepted : MissionDefinitionSchema definition = true)
include accepted

/-- An accepted definition knows its global capabilities. -/
theorem global_capability_known (member : name ∈ definition.globalCapabilities) :
    knowsCapability definition name := by
  simp only [MissionDefinitionSchema, definitionIssues, Bool.and_eq_true, decide_eq_true_eq,
    List.append_eq_nil_iff, List.flatMap_eq_nil_iff] at accepted
  have known := accepted.2.2 name member
  rw [issueWhen_eq_nil] at known
  simpa using known

/-- An accepted definition knows the capabilities of its goals. -/
theorem goal_capability_known (member : goal ∈ definition.goals)
    (listed : name ∈ goal.capabilities) :
    knowsCapability definition name := by
  obtain ⟨index, issues⟩ := goalIssues_nil accepted member
  simp only [goalIssues, List.append_eq_nil_iff, List.flatMap_eq_nil_iff] at issues
  have declared := issues.2 name listed
  unfold goalCapabilityIssues at declared
  split at declared
  · cases declared
  · next found => exact knows_of_capabilityByName found

/-- The capabilities of an accepted definition have distinct names. -/
theorem capabilities_distinct : (definition.capabilities.map MissionCapability.name).Nodup := by
  simp only [MissionDefinitionSchema, definitionIssues, Bool.and_eq_true, decide_eq_true_eq,
    List.append_eq_nil_iff] at accepted
  exact (nodup_of_uniqueFrom_nil accepted.2.1.1.1.1.1.2).1

/-- A capability that a goal of an accepted definition lists grants its authority to that
goal. -/
theorem goal_capability_grants (member : goal ∈ definition.goals)
    (listed : item.name ∈ goal.capabilities) (declared : item ∈ definition.capabilities) :
    goal.id ∈ item.goals := by
  have distinct := capabilities_distinct accepted
  obtain ⟨index, issues⟩ := goalIssues_nil accepted member
  simp only [goalIssues, List.append_eq_nil_iff, List.flatMap_eq_nil_iff] at issues
  have granted := issues.2 item.name listed
  unfold goalCapabilityIssues at granted
  split at granted
  · cases granted
  · next contract found =>
    have known : contract ∈ definition.capabilities :=
      List.mem_reverse.mp (List.mem_of_find?_eq_some found)
    have named : contract.name = item.name := by simpa using List.find?_some found
    have same : contract = item := List.inj_on_of_nodup_map distinct known declared named
    rw [issueWhen_eq_nil, same] at granted
    simpa using granted

/-- An accepted definition knows the compensations of its capabilities. -/
theorem compensation_known (member : item ∈ definition.capabilities)
    (compensated : (item.saga.bind Saga.compensationAction).filter (· ≠ "") = some name) :
    knowsCapability definition name := by
  obtain ⟨index, issues⟩ := capabilityIssues_nil accepted member
  simp only [capabilityIssues, List.append_eq_nil_iff] at issues
  have known : compensationIssues definition item = [] := issues.2
  unfold compensationIssues at known
  rw [compensated] at known
  dsimp only at known
  by_contra unknown
  rw [if_pos (Bool.eq_false_iff.mpr unknown)] at known
  cases known

/-- The compensations of an accepted definition have names. -/
theorem compensation_named {saga : Saga} (member : item ∈ definition.capabilities)
    (declared : item.saga = some saga) (compensated : saga.compensationAction = some name) :
    name ≠ "" := by
  simp only [MissionDefinitionSchema, definitionFields, Bool.and_eq_true, List.all_eq_true]
    at accepted
  have fields := accepted.1.1.2 item member
  simp only [MissionCapabilitySchema, declared, Option.all_some, SagaSchema, compensated,
    Bool.and_eq_true] at fields
  rintro rfl
  exact absurd fields.2.2 (by decide)

end

end CallCenter.MissionSchema
