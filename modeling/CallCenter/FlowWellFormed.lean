import CallCenter.FlowPaths
import CallCenter.KeyedTables

/-!
# What acceptance guarantees

A flow that the validator accepts has a valid shape and no error diagnostic. The
lemmas read the individual guarantees off the absence of errors: distinct node
identities and step paths, identities that are path segments, existing targets, and
the reachability of every step in the validator's own search.
-/

namespace CallCenter.FlowWellFormed

open FlowDefinition FlowValidation FlowPaths DottedPaths KeyedTables

/-- No diagnostic is an error. -/
def NoErrors (diagnostics : List FlowDiagnostic) : Prop :=
  ∀ diagnostic ∈ diagnostics, diagnostic.level ≠ .error

@[simp] theorem noErrors_append (left right : List FlowDiagnostic) :
    NoErrors (left ++ right) ↔ NoErrors left ∧ NoErrors right := by
  simp only [NoErrors, List.mem_append, or_imp, forall_and]

@[simp] theorem noErrors_errorWhen (condition : Bool) (path message : String) :
    NoErrors (errorWhen condition path message) ↔ condition = false := by
  cases condition <;> simp [NoErrors, errorWhen]

@[simp] theorem noErrors_flatMap {α : Type} (items : List α)
    (diagnose : α → List FlowDiagnostic) :
    NoErrors (items.flatMap diagnose) ↔ ∀ item ∈ items, NoErrors (diagnose item) := by
  simp only [NoErrors, List.mem_flatMap]
  constructor
  · intro noError item member diagnostic diagnosed
    exact noError diagnostic ⟨item, member, diagnosed⟩
  · rintro noError diagnostic ⟨item, member, diagnosed⟩
    exact noError item member diagnostic diagnosed

/-- Acceptance is a valid shape without errors. -/
theorem accepts_iff (flow : AgentFlow) :
    accepts flow = true ↔ AgentFlowSchema flow = true ∧ NoErrors (semanticDiagnostics flow) := by
  unfold accepts validateAgentFlow
  cases AgentFlowSchema flow with
  | false => simp
  | true => simp [NoErrors, List.all_eq_true]

theorem nodeDiagnostics_noErrors {v2 : Bool} {index : Nat} {seen : List String}
    {nodes : List FlowNode} (noErrors : NoErrors (nodeDiagnostics v2 index seen nodes)) :
    (nodes.map FlowNode.id).Nodup ∧ (∀ node ∈ nodes, node.id ∉ seen) ∧
      (v2 = true → ∀ node ∈ nodes, isFlowPathSegment node.id = true) := by
  induction nodes generalizing index seen with
  | nil => simp
  | cons node rest ih =>
    simp only [nodeDiagnostics, noErrors_append, noErrors_errorWhen] at noErrors
    obtain ⟨⟨fresh, segment⟩, later⟩ := noErrors
    obtain ⟨distinct, unseen, segments⟩ := ih later
    rw [← and_assoc, distinct_cons_iff]
    refine ⟨⟨by simpa using fresh, distinct, unseen⟩, ?_⟩
    intro isV2
    exact List.forall_mem_cons.mpr ⟨by simpa [isV2] using segment, segments isV2⟩

variable {flow : AgentFlow} {ref : StepRef}

/-- Each step passes its own checks, and no path repeats. -/
theorem stepsDiagnostics_noErrors {stepPaths seen : List String}
    {refs : List StepRef} (noErrors : NoErrors (stepsDiagnostics flow stepPaths seen refs)) :
    (refs.map StepRef.path).Nodup ∧ (∀ ref ∈ refs, ref.path ∉ seen) ∧
      ∀ ref ∈ refs, ∃ before, NoErrors (stepDiagnostics flow stepPaths before ref) := by
  induction refs generalizing seen with
  | nil => simp
  | cons ref rest ih =>
    simp only [stepsDiagnostics, noErrors_append] at noErrors
    obtain ⟨distinct, unseen, checked⟩ := ih noErrors.2
    have fresh : ref.path ∉ seen := by
      have first := noErrors.1
      simp only [stepDiagnostics, noErrors_append, noErrors_errorWhen] at first
      simpa using first.1.1.1.1.1.1.1.1
    rw [← and_assoc, distinct_cons_iff]
    exact ⟨⟨fresh, distinct, unseen⟩, List.forall_mem_cons.mpr ⟨⟨seen, noErrors.1⟩, checked⟩⟩

/-- The guarantees of an accepted Flow v2 on which the runtime relies. -/
structure WellFormed (flow : AgentFlow) : Prop where
  schema : AgentFlowSchema flow = true
  nodesDistinct : (flow.nodes.map FlowNode.id).Nodup
  nodeSegments : ∀ node ∈ flow.nodes, isFlowPathSegment node.id = true
  pathsDistinct : ((listStepRefs flow).map StepRef.path).Nodup
  stepSegments : ∀ ref ∈ listStepRefs flow, isFlowPathSegment ref.step.id = true
  transitionTargets : ∀ ref ∈ listStepRefs flow, ∀ transition ∈ ref.step.transitions,
    transition.target ∈ (listStepRefs flow).map StepRef.path
  failureTargets : ∀ ref ∈ listStepRefs flow, ∀ target, ref.step.onFailure = some target →
    target ≠ "" → target ∈ (listStepRefs flow).map StepRef.path
  searched : ∀ ref ∈ listStepRefs flow, ref.path ∈ reachableSteps flow

theorem wellFormed_of_accepts (accepted : accepts flow) (v2 : flow.schemaVersion = some 2) :
    WellFormed flow := by
  obtain ⟨schema, noErrors⟩ := (accepts_iff flow).mp accepted
  simp only [semanticDiagnostics, noErrors_append, v2, decide_true, if_true] at noErrors
  obtain ⟨⟨⟨⟨⟨⟨⟨nodes, _⟩, _⟩, _⟩, _⟩, steps⟩, graph⟩, _⟩ := noErrors
  obtain ⟨nodesDistinct, _, nodeSegments⟩ := nodeDiagnostics_noErrors nodes
  obtain ⟨pathsDistinct, _, checked⟩ := stepsDiagnostics_noErrors steps
  refine
    { schema := schema
      nodesDistinct := nodesDistinct
      nodeSegments := nodeSegments rfl
      pathsDistinct := pathsDistinct
      stepSegments := ?_
      transitionTargets := ?_
      failureTargets := ?_
      searched := ?_ }
  · intro ref listed
    obtain ⟨before, noErrors⟩ := checked ref listed
    simp only [stepDiagnostics, noErrors_append, noErrors_errorWhen, v2, decide_true,
      Bool.true_and] at noErrors
    simpa using noErrors.1.1.1.1.1.1.1.2
  · intro ref listed transition member
    obtain ⟨before, noErrors⟩ := checked ref listed
    simp only [stepDiagnostics, noErrors_append, noErrors_flatMap] at noErrors
    have target := noErrors.1.2 transition member
    simp only [transitionDiagnostics, noErrors_append, noErrors_errorWhen] at target
    simpa using target.1
  · intro ref listed target named nonempty
    obtain ⟨before, noErrors⟩ := checked ref listed
    simp only [stepDiagnostics, noErrors_append, named, noErrors_errorWhen] at noErrors
    simpa [nonempty] using noErrors.2
  · intro ref listed
    simp only [graphDiagnostics, noErrors_append, noErrors_flatMap, noErrors_errorWhen] at graph
    simpa using graph.2 ref listed

/-- Shape checks reach every step below a list of steps. -/
theorem visited_stepShape {nodeId parentPath : String} {ancestors steps : List FlowStep}
    (visited : Visited nodeId parentPath ancestors steps ref) (shaped : flowStepsSchema steps)
    (outer : ∀ ancestor ∈ ancestors, stepShape ancestor = true) :
    stepShape ref.step = true ∧ ∀ ancestor ∈ ref.ancestors, stepShape ancestor = true := by
  have member_shaped : ∀ {steps : List FlowStep} {step : FlowStep}, flowStepsSchema steps = true →
      step ∈ steps → stepShape step = true ∧ flowStepsSchema step.steps = true := by
    intro steps step shaped member
    induction steps with
    | nil => simp at member
    | cons first rest ih =>
      simp only [flowStepsSchema, Bool.and_eq_true] at shaped
      rcases List.mem_cons.mp member with rfl | later
      · cases step
        simpa only [FlowStepSchema, Bool.and_eq_true] using shaped.1
      · exact ih shaped.2 later
  induction visited with
  | sibling member => exact ⟨(member_shaped shaped member).1, outer⟩
  | nested member deeper ih =>
    obtain ⟨own, below⟩ := member_shaped shaped member
    apply ih below
    intro ancestor among
    rcases List.mem_append.mp among with upper | parent
    · exact outer ancestor upper
    · rwa [List.mem_singleton.mp parent]

/-- Every listed step of a flow of the right shape has the right shape itself. -/
theorem listed_stepShape (shaped : AgentFlowSchema flow) (listed : ref ∈ listStepRefs flow) :
    stepShape ref.step = true ∧ ∀ ancestor ∈ ref.ancestors, stepShape ancestor = true := by
  simp only [AgentFlowSchema, Bool.and_eq_true] at shaped
  obtain ⟨node, member, visited⟩ := (mem_listStepRefs_iff flow ref).mp listed
  have shapedNode := List.all_eq_true.mp shaped.1.2 node member
  simp only [FlowNodeSchema, Bool.and_eq_true] at shapedNode
  exact visited_stepShape visited shapedNode.1 (by simp)

/-- A path segment contains no dot and is not empty. -/
theorem segment_dotless {text : String} (segment : isFlowPathSegment text) :
    '.' ∉ text.toList ∧ text ≠ "" := by
  unfold isFlowPathSegment matchesIdentifier at segment
  split at segment
  · cases segment
  · rename_i c rest characters
    simp only [Bool.and_eq_true, List.all_eq_true] at segment
    refine ⟨?_, ?_⟩
    · rw [characters]
      intro dot
      rcases List.mem_cons.mp dot with rfl | later
      · exact absurd segment.1.1.1 (by decide)
      · exact absurd (segment.1.1.2 '.' later) (by decide)
    · rintro rfl
      simp at characters

/-- Identities along a path of an accepted flow contain no dots. -/
theorem WellFormed.dotFree (valid : WellFormed flow)
    (listed : ref ∈ listStepRefs flow) : DotFree (segments ref) := by
  intro segment member
  rcases List.mem_cons.mp member with rfl | later
  · obtain ⟨node, nodeMember, visited⟩ := (mem_listStepRefs_iff flow ref).mp listed
    rw [visited_nodeId visited]
    exact (segment_dotless (valid.nodeSegments node nodeMember)).1
  · rcases List.mem_append.mp later with above | own
    · obtain ⟨ancestor, ancestorMember, rfl⟩ := List.mem_map.mp above
      obtain ⟨front, back, split⟩ := List.append_of_mem ancestorMember
      obtain ⟨upper, upperListed, rfl, _⟩ := listed_ancestor listed split
      exact (segment_dotless (valid.stepSegments upper upperListed)).1
    · obtain rfl := List.mem_singleton.mp own
      exact (segment_dotless (valid.stepSegments ref listed)).1

end CallCenter.FlowWellFormed
