import CallCenter.FlowNavigation

/-!
# Paths of steps

The flattened list of steps follows the tree: a reference is a step reached by
descending from a node, its ancestors are the steps passed on the way, and its path
joins their identities. When no identity contains a dot, the ancestors that
`enterFlowStep` cuts from the path text are the ancestors in the tree.
-/

namespace CallCenter.FlowPaths

open FlowDefinition FlowNavigation DottedPaths

/-- Descent from sibling steps: to one of them, or below one of them. -/
inductive Visited (nodeId : String) : String → List FlowStep → List FlowStep → StepRef → Prop
  | sibling {parentPath : String} {ancestors steps : List FlowStep} {step : FlowStep}
      (member : step ∈ steps) :
      Visited nodeId parentPath ancestors steps
        ⟨parentPath ++ "." ++ step.id, nodeId, step, ancestors⟩
  | nested {parentPath : String} {ancestors steps : List FlowStep} {step : FlowStep}
      {ref : StepRef} (member : step ∈ steps)
      (deeper : Visited nodeId (parentPath ++ "." ++ step.id) (ancestors ++ [step]) step.steps
        ref) :
      Visited nodeId parentPath ancestors steps ref

theorem visitStep_eq (nodeId parentPath : String) (ancestors : List FlowStep) (step : FlowStep) :
    visitStep nodeId parentPath ancestors step =
      ⟨parentPath ++ "." ++ step.id, nodeId, step, ancestors⟩ ::
        visitSteps nodeId (parentPath ++ "." ++ step.id) (ancestors ++ [step]) step.steps := by
  cases step
  rfl

mutual

theorem visited_of_mem_visitStep (nodeId parentPath : String) (ancestors : List FlowStep) :
    ∀ (step : FlowStep) (ref : StepRef), ref ∈ visitStep nodeId parentPath ancestors step →
      Visited nodeId parentPath ancestors [step] ref
  | step@{ steps := steps, .. }, ref, member => by
    rw [visitStep_eq] at member
    rcases List.mem_cons.mp member with rfl | deeper
    · exact .sibling (by simp)
    · exact .nested (by simp) (visited_of_mem_visitSteps nodeId _ _ steps ref deeper)

theorem visited_of_mem_visitSteps (nodeId parentPath : String) (ancestors : List FlowStep) :
    ∀ (steps : List FlowStep) (ref : StepRef), ref ∈ visitSteps nodeId parentPath ancestors steps →
      Visited nodeId parentPath ancestors steps ref
  | [], ref, member => by simp [visitSteps] at member
  | step :: rest, ref, member => by
    rw [visitSteps] at member
    rcases List.mem_append.mp member with first | later
    · cases visited_of_mem_visitStep nodeId parentPath ancestors step ref first with
      | sibling only =>
        exact .sibling (by simp [List.mem_singleton.mp only])
      | nested only deeper =>
        obtain rfl := List.mem_singleton.mp only
        exact .nested (by simp) deeper
    · cases visited_of_mem_visitSteps nodeId parentPath ancestors rest ref later with
      | sibling earlier => exact .sibling (List.mem_cons_of_mem _ earlier)
      | nested earlier deeper => exact .nested (List.mem_cons_of_mem _ earlier) deeper

end

variable {ref : StepRef} {flow : AgentFlow} {nodeId parentPath : String}
  {ancestors steps back : List FlowStep}

/-- A member's own references are among its siblings'. -/
theorem mem_visitSteps_of_mem {step : FlowStep} (member : step ∈ steps)
    (visited : ref ∈ visitStep nodeId parentPath ancestors step) :
    ref ∈ visitSteps nodeId parentPath ancestors steps := by
  induction steps with
  | nil => simp at member
  | cons first rest ih =>
    rw [visitSteps]
    rcases List.mem_cons.mp member with rfl | later
    · exact List.mem_append_left _ visited
    · exact List.mem_append_right _ (ih later)

/-- The flattened list holds exactly the steps that descent reaches. -/
theorem mem_visitSteps_iff (nodeId parentPath : String) (ancestors steps : List FlowStep)
    (ref : StepRef) :
    ref ∈ visitSteps nodeId parentPath ancestors steps ↔
      Visited nodeId parentPath ancestors steps ref := by
  constructor
  · exact visited_of_mem_visitSteps nodeId parentPath ancestors steps ref
  · intro visited
    induction visited with
    | sibling member =>
      apply mem_visitSteps_of_mem member
      rw [visitStep_eq]
      exact List.mem_cons_self
    | nested member deeper ih =>
      apply mem_visitSteps_of_mem member
      rw [visitStep_eq]
      exact List.mem_cons_of_mem _ ih

theorem mem_listStepRefs_iff (flow : AgentFlow) (ref : StepRef) : ref ∈ listStepRefs flow ↔
      ∃ node ∈ flow.nodes, Visited node.id node.id [] node.steps ref := by
  simp only [listStepRefs, List.mem_flatMap, mem_visitSteps_iff]

/-- Identities along the descent to a step: its node, its ancestors and itself. -/
def segments (ref : StepRef) : List String :=
  ref.nodeId :: (ref.ancestors.map FlowStep.id ++ [ref.step.id])

section

variable (visited : Visited nodeId parentPath ancestors steps ref)
include visited

theorem visited_nodeId :
    ref.nodeId = nodeId := by
  induction visited with
  | sibling => rfl
  | nested _ _ ih => exact ih

/-- A path joins the identities along the descent. -/
theorem visited_path (parent : parentPath = joinDots (nodeId :: ancestors.map FlowStep.id)) :
    ref.path = joinDots (segments ref) := by
  induction visited with
  | sibling =>
    rw [segments, ← List.cons_append, joinDots_snoc _ _ (by simp), ← parent]
  | nested member deeper ih =>
    apply ih
    rw [parent, ← joinDots_snoc _ _ (by simp), List.map_append]
    rfl

end

/-- The path of a listed step joins its segments. -/
theorem path_eq_joinDots (listed : ref ∈ listStepRefs flow) :
    ref.path = joinDots (segments ref) := by
  obtain ⟨node, _, visited⟩ := (mem_listStepRefs_iff flow ref).mp listed
  exact visited_path visited (by simp)

theorem visited_path_dotted (visited : Visited nodeId parentPath ancestors steps ref) :
    '.' ∈ ref.path.toList := by
  induction visited with
  | sibling => simp
  | nested _ _ ih => exact ih

/-- A dot separates the node of a listed step from the step. -/
theorem listed_path_dotted (listed : ref ∈ listStepRefs flow) : '.' ∈ ref.path.toList := by
  obtain ⟨node, _, visited⟩ := (mem_listStepRefs_iff flow ref).mp listed
  exact visited_path_dotted visited

theorem listed_path_ne_empty (listed : ref ∈ listStepRefs flow) : ref.path ≠ "" := by
  intro empty
  have dotted := listed_path_dotted listed
  rw [empty] at dotted
  simp at dotted

theorem listed_of_findStep {path : String}
    (found : findStep flow path = some ref) : ref ∈ listStepRefs flow ∧ ref.path = path :=
  ⟨List.mem_of_find?_eq_some found, by simpa using List.find?_some found⟩

section

variable (visited : Visited nodeId parentPath ancestors steps ref)
include visited

/-- Descent only adds ancestors. -/
theorem visited_extends :
    ∃ extra, ref.ancestors = ancestors ++ extra := by
  induction visited with
  | sibling => exact ⟨[], by simp⟩
  | @nested _ _ _ step _ _ _ ih =>
    obtain ⟨extra, continued⟩ := ih
    exact ⟨step :: extra, by simpa using continued⟩

/-- A step that contains a visited step was itself visited, with the ancestors above it. -/
theorem visited_ancestor {front : List FlowStep} {ancestor : FlowStep}
    (inside : ancestors.length ≤ front.length) (split : ref.ancestors = front ++ ancestor :: back) :
    ∃ upper, Visited nodeId parentPath ancestors steps upper ∧ upper.step = ancestor ∧
      upper.ancestors = front := by
  induction visited with
  | sibling =>
    have length := congrArg List.length split
    simp only [List.length_append, List.length_cons] at length
    omega
  | @nested parentPath ancestors steps step ref member deeper ih =>
    by_cases next : ancestors.length + 1 ≤ front.length
    · obtain ⟨upper, visitedUpper, sameStep, sameAncestors⟩ :=
        ih (by simpa using next) split
      exact ⟨upper, .nested member visitedUpper, sameStep, sameAncestors⟩
    · obtain ⟨extra, continued⟩ := visited_extends deeper
      have equal : ancestors ++ step :: extra = front ++ ancestor :: back := by
        rw [← split, continued, List.append_assoc, List.singleton_append]
      obtain ⟨sameFront, sameTail⟩ := List.append_inj equal (by omega)
      refine ⟨_, .sibling member, ?_, sameFront⟩
      exact (List.cons.inj sameTail).1

end

/-- Every ancestor of a listed step is a listed step of the same node. -/
theorem listed_ancestor (listed : ref ∈ listStepRefs flow)
    {front : List FlowStep} {ancestor : FlowStep}
    (split : ref.ancestors = front ++ ancestor :: back) :
    ∃ upper ∈ listStepRefs flow, upper.step = ancestor ∧ upper.ancestors = front ∧
      upper.nodeId = ref.nodeId := by
  obtain ⟨node, nodeMember, visited⟩ := (mem_listStepRefs_iff flow ref).mp listed
  obtain ⟨upper, visitedUpper, sameStep, sameAncestors⟩ :=
    visited_ancestor visited (Nat.zero_le _) split
  refine ⟨upper, (mem_listStepRefs_iff flow upper).mpr ⟨node, nodeMember, visitedUpper⟩, sameStep,
    sameAncestors, ?_⟩
  rw [visited_nodeId visitedUpper, visited_nodeId visited]

/-- A substep of a visited step is visited. -/
theorem visited_child (visited : Visited nodeId parentPath ancestors steps ref) {child : FlowStep}
    (member : child ∈ ref.step.steps) :
    Visited nodeId parentPath ancestors steps
      ⟨ref.path ++ "." ++ child.id, nodeId, child, ref.ancestors ++ [ref.step]⟩ := by
  induction visited with
  | sibling siblingMember => exact .nested siblingMember (.sibling member)
  | nested siblingMember _ ih =>
    exact .nested siblingMember (ih member)

theorem listed_child (listed : ref ∈ listStepRefs flow)
    {child : FlowStep} (member : child ∈ ref.step.steps) :
    ⟨ref.path ++ "." ++ child.id, ref.nodeId, child, ref.ancestors ++ [ref.step]⟩ ∈
      listStepRefs flow := by
  obtain ⟨node, nodeMember, visited⟩ := (mem_listStepRefs_iff flow ref).mp listed
  rw [visited_nodeId visited]
  exact (mem_listStepRefs_iff flow _).mpr ⟨node, nodeMember, visited_child visited member⟩

/-- Paths of a step's ancestors in the tree, outermost first. -/
def treeAncestorPaths (ref : StepRef) : List String :=
  (List.range ref.ancestors.length).map fun index =>
    joinDots (ref.nodeId :: (ref.ancestors.take (index + 1)).map FlowStep.id)

/-- When identities contain no dots, cutting the path text finds the tree's ancestors. -/
theorem ancestorPaths_eq_tree (listed : ref ∈ listStepRefs flow)
    (free : DotFree (segments ref)) : ancestorPaths ref = treeAncestorPaths ref := by
  rw [ancestorPaths, treeAncestorPaths, path_eq_joinDots listed,
    splitDots_joinDots _ (by simp [segments]) free]
  apply List.map_congr_left
  intro index inRange
  have bound : index + 1 ≤ (ref.ancestors.map FlowStep.id).length := by
    have := List.mem_range.mp inRange
    rw [List.length_map]
    omega
  rw [segments, List.take_succ_cons, List.take_append_of_le_length bound, List.map_take]

/-- A step that contains a listed step is among its ancestors' paths. -/
theorem mem_treeAncestorPaths_of_split {upper : StepRef}
    (listed : upper ∈ listStepRefs flow) (sameNode : upper.nodeId = ref.nodeId)
    (split : ref.ancestors = upper.ancestors ++ upper.step :: back) :
    upper.path ∈ treeAncestorPaths ref := by
  refine List.mem_map.mpr ⟨upper.ancestors.length, ?_, ?_⟩
  · rw [List.mem_range, split, List.length_append, List.length_cons]
    omega
  · have taken : ref.ancestors.take (upper.ancestors.length + 1) =
        upper.ancestors ++ [upper.step] := by
      rw [split, ← List.singleton_append, ← List.append_assoc]
      exact List.take_left' (by simp)
    rw [path_eq_joinDots listed, taken, ← sameNode, List.map_append]
    rfl

/-- The path of a step continues the path of each of its ancestors after a dot. -/
theorem startsWith_of_mem_treeAncestorPaths (listed : ref ∈ listStepRefs flow) {path : String}
    (member : path ∈ treeAncestorPaths ref) :
    startsWith ref.path (path ++ ".") := by
  obtain ⟨index, _, rfl⟩ := List.mem_map.mp member
  have split : segments ref = (ref.nodeId :: (ref.ancestors.take (index + 1)).map FlowStep.id) ++
        ((ref.ancestors.drop (index + 1)).map FlowStep.id ++ [ref.step.id]) := by
    rw [List.cons_append, ← List.append_assoc, ← List.map_append, List.take_append_drop, segments]
  rw [path_eq_joinDots listed, split]
  exact startsWith_joinDots_append _ _ (by simp) (by simp)

end CallCenter.FlowPaths
