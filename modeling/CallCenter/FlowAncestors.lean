import CallCenter.FlowTransitions
import CallCenter.FlowWellFormed

/-!
# Ancestor closure of step authority

In a run of an accepted flow the completed steps are closed under ancestors in the
tree, the ancestors of the current step are completed, and nothing inside an open
step counts as completed. Inherited tools therefore come from completed steps.

The invariant is about the tree; the runtime works on path texts. Acceptance makes
the two agree.
-/

namespace CallCenter.FlowAncestors

open FlowDefinition FlowValidation Timestamps FlowState FlowNavigation FlowRuntime FlowTransitions
  FlowPaths FlowWellFormed DottedPaths

/-- The first path is that of a step which contains the step of the second path. -/
def IsAncestor (flow : AgentFlow) (upper lower : String) : Prop :=
  ∃ ref ∈ listStepRefs flow, ref.path = lower ∧ upper ∈ treeAncestorPaths ref

/-- The path of a step or of one of its descendants. -/
def InSubtree (flow : AgentFlow) (path candidate : String) : Prop :=
  candidate = path ∨ IsAncestor flow path candidate

/-- Completed steps and checkpoints respect the tree. -/
structure AncestorClosed (flow : AgentFlow) (state : FlowExecutionState) : Prop where
  completed : ∀ lower ∈ state.completedSteps, ∀ upper, IsAncestor flow upper lower →
    upper ∈ state.completedSteps
  current : ∀ path, state.currentStep = some path → ∀ upper, IsAncestor flow upper path →
    upper ∈ state.completedSteps
  checkpoints : ∀ checkpoint ∈ state.checkpoints, checkpoint.step ∈ state.completedSteps

variable {upper : String}

variable {flow : AgentFlow}

/-- Paths continue those of their ancestors after a dot. -/
theorem startsWith_of_isAncestor {lower : String} (ancestor : IsAncestor flow upper lower) :
    startsWith lower (upper ++ ".") := by
  obtain ⟨ref, listed, rfl, member⟩ := ancestor
  exact startsWith_of_mem_treeAncestorPaths listed member

theorem startsWith_trans {first second third : String} (upper : startsWith second (first ++ "."))
    (lower : startsWith third (second ++ ".")) :
    startsWith third (first ++ ".") := by
  rw [startsWith, List.isPrefixOf_iff_prefix] at upper lower ⊢
  have extended : second.toList <+: (second ++ ".").toList := by
    rw [String.toList_append]
    exact List.prefix_append _ _
  exact upper.trans (extended.trans lower)

/-- A path is not below itself. -/
theorem startsWith_irrefl {first second : String} (upper : startsWith second (first ++ "."))
    (lower : startsWith first (second ++ ".")) : False := by
  rw [startsWith, List.isPrefixOf_iff_prefix] at upper lower
  have longer := upper.length_le
  have shorter := lower.length_le
  simp only [String.toList_append, List.length_append] at longer shorter
  have dot : ".".toList.length = 1 := rfl
  omega

/-- An ancestor of a path that survives re-entry survives it too. -/
theorem survives_of_isAncestor {path lower : String} (ancestor : IsAncestor flow upper lower)
    (survives : inReenteredSubtree path lower = false) :
    inReenteredSubtree path upper = false := by
  have below := startsWith_of_isAncestor ancestor
  simp only [inReenteredSubtree, Bool.or_eq_false_iff, decide_eq_false_iff_not] at survives ⊢
  refine ⟨?_, ?_⟩
  · rintro rfl
    rw [below] at survives
    cases survives.2
  · cases above : startsWith upper (path ++ ".") with
    | false => rfl
    | true =>
      rw [startsWith_trans above below] at survives
      cases survives.2

/-- The ancestors of a re-entered path lie outside its subtree. -/
theorem ancestor_outside {path : String} (ancestor : IsAncestor flow upper path) :
    inReenteredSubtree path upper = false := by
  have below := startsWith_of_isAncestor ancestor
  simp only [inReenteredSubtree, Bool.or_eq_false_iff, decide_eq_false_iff_not]
  refine ⟨?_, ?_⟩
  · rintro rfl
    exact startsWith_irrefl below below
  · cases above : startsWith upper (path ++ ".") with
    | false => rfl
    | true => exact (startsWith_irrefl below above).elim

section Runs

variable {sha256 : String → String} {flow : AgentFlow}

/-- In an accepted flow a path determines its step. -/
theorem WellFormed.ref_unique (valid : WellFormed flow) {left right : StepRef}
    (leftListed : left ∈ listStepRefs flow) (rightListed : right ∈ listStepRefs flow)
    (same : left.path = right.path) : left = right :=
  List.inj_on_of_nodup_map valid.pathsDistinct leftListed rightListed same

variable {state : FlowExecutionState} {path : String} {ref : StepRef}

/-- An entered step has all its ancestors in the tree completed. -/
theorem entered_ancestors (valid : WellFormed flow)
    (admitted : EntryAdmitted sha256 flow state path ref) {upper : String}
    (ancestor : IsAncestor flow upper path) : upper ∈ state.completedSteps := by
  obtain ⟨other, listed, samePath, member⟩ := ancestor
  obtain ⟨found, foundPath⟩ := listed_of_findStep admitted.found
  obtain rfl := WellFormed.ref_unique valid found listed (foundPath.trans samePath.symm)
  rw [← ancestorPaths_eq_tree found (valid.dotFree found)] at member
  exact admitted.ancestors upper member

theorem entered_closed (valid : WellFormed flow) {attempts : Nat} {now : Instant}
    (admitted : EntryAdmitted sha256 flow state path ref) (closed : AncestorClosed flow state) :
    AncestorClosed flow (enteredState state ref path attempts now) where
  completed := by
    intro lower member upper ancestor
    obtain ⟨before, survives⟩ := List.mem_filter.mp member
    refine List.mem_filter.mpr ⟨closed.completed lower before upper ancestor, ?_⟩
    simpa using survives_of_isAncestor ancestor (by simpa using survives)
  current := by
    intro current isCurrent upper ancestor
    obtain rfl : path = current := Option.some.inj isCurrent
    exact List.mem_filter.mpr
      ⟨entered_ancestors valid admitted ancestor, by simp [ancestor_outside ancestor]⟩
  checkpoints := by
    intro checkpoint member
    obtain ⟨before, survives⟩ := List.mem_filter.mp member
    exact List.mem_filter.mpr ⟨closed.checkpoints checkpoint before, survives⟩

theorem recorded_closed (ref : StepRef)
    (outputs : List (String × JsonValues.Value)) (receipts : List FlowActionReceipt) (now : Instant)
    (current : state.currentStep = some path) (closed : AncestorClosed flow state) :
    AncestorClosed flow (recordedCompletion state ref path outputs receipts now) where
  completed := by
    intro lower member upper ancestor
    simp only [recordedCompletion, mem_distinct, List.mem_append, List.mem_singleton] at member ⊢
    rcases member with before | rfl
    · exact Or.inl (closed.completed lower before upper ancestor)
    · exact Or.inl (closed.current lower current upper ancestor)
  current := by
    intro active isActive upper ancestor
    simp only [recordedCompletion, mem_distinct, List.mem_append]
    exact Or.inl (closed.current active isActive upper ancestor)
  checkpoints := by
    intro checkpoint member
    simp only [recordedCompletion, mem_distinct, List.mem_append, List.mem_singleton]
    unfold recordedCompletion at member
    dsimp only at member
    split at member
    · rcases List.mem_append.mp member with before | added
      · exact Or.inl (closed.checkpoints checkpoint before)
      · right
        rw [List.mem_singleton.mp added]
    · exact Or.inl (closed.checkpoints checkpoint member)

/-- Closing the position leaves completed steps and checkpoints as they are. -/
theorem AncestorClosed.leave {next : FlowExecutionState} (closed : AncestorClosed flow state)
    (sameCompleted : next.completedSteps = state.completedSteps)
    (sameCheckpoints : next.checkpoints = state.checkpoints)
    (position : next.currentStep = none ∨ next.currentStep = state.currentStep) :
    AncestorClosed flow next where
  completed := by
    rw [sameCompleted]
    exact closed.completed
  current := by
    intro path isCurrent
    rw [sameCompleted]
    rcases position with left | kept
    · rw [left] at isCurrent
      cases isCurrent
    · exact closed.current path (kept ▸ isCurrent)
  checkpoints := by
    rw [sameCompleted, sameCheckpoints]
    exact closed.checkpoints

/-- One step keeps the tree closed. -/
theorem step_closed (valid : WellFormed flow) (state : FlowExecutionState) (timed : TimedOperation)
    (closed : AncestorClosed flow state) : AncestorClosed flow (step sha256 flow state timed) := by
  have transition : Transition sha256 flow state timed (step sha256 flow state timed) :=
    step_transition timed
  generalize step sha256 flow state timed = next at transition
  cases transition with
  | unchanged => exact closed
  | topicSelected => exact closed.leave rfl rfl (Or.inl rfl)
  | stepEntered admitted => exact entered_closed valid admitted closed
  | actionReserved | dispatchStarted | actionSettled | actionPromoted | absenceProved | staleMarked
  | rotated => exact closed.leave rfl rfl (Or.inr rfl)
  | @stepCompleted _ now _ ref _ outputs receipts admitted =>
    have recorded := recorded_closed ref outputs receipts now admitted.current closed
    unfold completedState
    split
    · exact recorded.leave rfl rfl (Or.inl rfl)
    · exact recorded.leave rfl rfl (Or.inr rfl)

theorem run_closed (valid : WellFormed flow) (created : Instant)
    (operations : List TimedOperation) :
    AncestorClosed flow (runFlow sha256 flow created operations) := by
  refine Runs.run_invariant (AncestorClosed flow) ?_ (step_closed valid) operations
  exact ⟨by simp [createFlowExecutionState], by simp [createFlowExecutionState],
    by simp [createFlowExecutionState]⟩

/-- The containing steps of a listed step, with their own references. -/
theorem isAncestor_of_mem_ancestors (listed : ref ∈ listStepRefs flow)
    {ancestor : FlowStep} (member : ancestor ∈ ref.ancestors) :
    ∃ upper ∈ listStepRefs flow, upper.step = ancestor ∧ IsAncestor flow upper.path ref.path := by
  obtain ⟨front, back, split⟩ := List.append_of_mem member
  obtain ⟨upper, upperListed, sameStep, sameAncestors, sameNode⟩ := listed_ancestor listed split
  refine ⟨upper, upperListed, sameStep, ref, listed, rfl, ?_⟩
  exact mem_treeAncestorPaths_of_split upperListed sameNode
    (by rw [sameStep, sameAncestors]; exact split)

/-- The open step is the current one. -/
theorem currentStep_of_openStep (isOpen : state.openStep = some path) :
    state.currentStep = some path ∧ path ∉ state.completedSteps := by
  obtain ⟨current, openPath⟩ := Option.filter_eq_some_iff.mp isOpen
  simp only [Bool.and_eq_true, Bool.not_eq_true', List.contains_eq_mem, decide_eq_false_iff_not]
    at openPath
  exact ⟨current, openPath.2⟩

end Runs

/-- In every reachable state of an accepted Flow v2, completed steps are closed under
ancestors, the ancestors of the current step are completed, an open step contains no
completed or checkpointed step, and every tool that is granted neither globally nor
by the topic belongs to the open step or to a completed ancestor of it. -/
theorem ancestor_closure (sha256 : String → String) (flow : AgentFlow)
    (accepted : accepts flow = true) (v2 : flow.schemaVersion = some 2) (created : Instant)
    (operations : List TimedOperation) :
    (∀ lower ∈ (runFlow sha256 flow created operations).completedSteps, ∀ upper,
      IsAncestor flow upper lower →
      upper ∈ (runFlow sha256 flow created operations).completedSteps) ∧
    (∀ path, (runFlow sha256 flow created operations).currentStep = some path → ∀ upper,
      IsAncestor flow upper path →
      upper ∈ (runFlow sha256 flow created operations).completedSteps) ∧
    (∀ path, (runFlow sha256 flow created operations).currentStep = some path →
      path ∉ (runFlow sha256 flow created operations).completedSteps →
      (∀ completed ∈ (runFlow sha256 flow created operations).completedSteps,
        ¬ InSubtree flow path completed) ∧
      ∀ checkpoint ∈ (runFlow sha256 flow created operations).checkpoints,
        ¬ InSubtree flow path checkpoint.step) ∧
    (∀ tool ∈ grantedTools flow (runFlow sha256 flow created operations), tool ∈ alwaysTools flow ∨
      (∃ node, topic flow (runFlow sha256 flow created operations).nodeId = some node ∧
        tool ∈ node.tools) ∨
      ∃ ref ∈ listStepRefs flow, (runFlow sha256 flow created operations).openStep = some ref.path ∧
        (tool ∈ ref.step.tools ∨ ∃ upper ∈ listStepRefs flow, tool ∈ upper.step.tools ∧
            IsAncestor flow upper.path ref.path ∧
            upper.path ∈ (runFlow sha256 flow created operations).completedSteps)) := by
  have closed : AncestorClosed flow (runFlow sha256 flow created operations) :=
    run_closed (wellFormed_of_accepts accepted v2) created operations
  generalize runFlow sha256 flow created operations = state at closed
  have outside (path : String) (incomplete : path ∉ state.completedSteps) :
      ∀ completed ∈ state.completedSteps, ¬ InSubtree flow path completed := by
    rintro completed member (rfl | ancestor)
    · exact incomplete member
    · exact incomplete (closed.completed completed member path ancestor)
  refine ⟨closed.completed, closed.current, ?_, ?_⟩
  · intro path _ incomplete
    refine ⟨outside path incomplete, ?_⟩
    intro checkpoint member
    exact outside path incomplete checkpoint.step (closed.checkpoints checkpoint member)
  · intro tool granted
    unfold grantedTools at granted
    split at granted
    · exact Or.inl granted
    simp only [mem_distinct, List.mem_append] at granted
    rcases granted with (always | fromTopic) | fromStep
    · exact Or.inl always
    · right
      left
      cases selected : topic flow state.nodeId with
      | none => simp [selected] at fromTopic
      | some node => exact ⟨node, rfl, by simpa [selected] using fromTopic⟩
    · right
      right
      split at fromStep
      · simp at fromStep
      rename_i ref active
      obtain ⟨path, isOpen, found⟩ := Option.bind_eq_some_iff.mp active
      obtain ⟨listed, rfl⟩ := listed_of_findStep found
      refine ⟨ref, listed, isOpen, ?_⟩
      rcases List.mem_append.mp fromStep with inherited | own
      · right
        obtain ⟨ancestor, member, offers⟩ := List.mem_flatMap.mp inherited
        obtain ⟨upper, upperListed, rfl, ancestorOf⟩ := isAncestor_of_mem_ancestors listed member
        exact ⟨upper, upperListed, offers, ancestorOf,
          closed.current ref.path (currentStep_of_openStep isOpen).1 upper.path ancestorOf⟩
      · exact Or.inl own

/-- A call that completes the order lookup and opens its nested confirmation. -/
def confirmationRun : List TimedOperation :=
  [⟨.selectTopic "orders", epoch⟩, ⟨.enterStep "orders.lookup", epoch⟩,
    ⟨.complete ⟨none, .undefined⟩, epoch⟩, ⟨.enterStep "orders.lookup.confirm", epoch⟩]

/-- The digest of the empty object, the only text that the confirmation run hashes. -/
def emptyObjectDigest (_ : String) : String :=
  "44136fa355b3678a1146ad16f7e8649e94fb4fc21fe77e8310c060f61caaff8a"

/-- The confirmation is open below its completed parent. -/
theorem confirmation_parent_completed :
    (runFlow emptyObjectDigest orderFlow epoch confirmationRun).openStep =
        some "orders.lookup.confirm" ∧
      "orders.lookup" ∈
        (runFlow emptyObjectDigest orderFlow epoch confirmationRun).completedSteps := by
  have closure := ancestor_closure emptyObjectDigest orderFlow (by decide +kernel) rfl epoch
    confirmationRun
  have parent : IsAncestor orderFlow "orders.lookup" "orders.lookup.confirm" :=
    ⟨(listStepRefs orderFlow)[1], List.getElem_mem _, by decide, by decide⟩
  exact ⟨by decide +kernel, closure.2.1 _ (by decide +kernel) _ parent⟩

end CallCenter.FlowAncestors
