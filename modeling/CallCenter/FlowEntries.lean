import CallCenter.FlowAncestors

/-!
# Which advertised steps can be entered

`allowedStepPaths` discloses where a call may go next, and `enterFlowStep` decides
again, with two checks of its own: every ancestor of the step must be completed, and
the attempts of a step that is still open must not be exhausted. In an accepted flow
without an entry limit these are the only reasons to refuse an advertised step.
-/

namespace CallCenter.FlowEntries

open FlowDefinition FlowValidation Timestamps FlowState FlowNavigation FlowRuntime FlowTransitions
  FlowPaths FlowWellFormed FlowAncestors

variable {sha256 : String → String} {flow : AgentFlow} {state : FlowExecutionState} {path : String}

/-- Entry steps are top-level steps of their topic. -/
theorem listed_of_entry {nodeId : String} (entry : path ∈ topicEntryStepPaths flow nodeId) :
    ∃ ref ∈ listStepRefs flow, ref.path = path := by
  have root : ∃ ref ∈ topicRoots flow nodeId, ref.path = path := by
    unfold topicEntryStepPaths at entry
    dsimp only at entry
    split at entry
    · obtain ⟨ref, member, rfl⟩ := List.mem_map.mp entry
      exact ⟨ref, List.mem_of_mem_filter member, rfl⟩
    · obtain ⟨ref, member, rfl⟩ := List.mem_map.mp entry
      exact ⟨ref, List.mem_of_mem_filter member, rfl⟩
  obtain ⟨ref, member, samePath⟩ := root
  exact ⟨ref, List.mem_of_mem_filter member, samePath⟩

variable {ref : StepRef}

/-- Children and transition targets of a listed step are listed. -/
theorem listed_of_successor (valid : WellFormed flow)
    (listed : ref ∈ listStepRefs flow) {outputs : List (String × JsonValues.Value)}
    (successor : path ∈ successfulNextSteps sha256 ref outputs) :
    ∃ next ∈ listStepRefs flow, next.path = path := by
  rw [successfulNextSteps, mem_distinct, List.mem_append] at successor
  rcases successor with child | target
  · obtain ⟨step, member, rfl⟩ := List.mem_map.mp child
    exact ⟨_, listed_child listed member, rfl⟩
  · obtain ⟨transition, member, rfl⟩ := List.mem_map.mp target
    have known := valid.transitionTargets ref listed transition (List.mem_of_mem_filter member)
    obtain ⟨next, nextListed, samePath⟩ := List.mem_map.mp known
    exact ⟨next, nextListed, samePath⟩

/-- What an advertised step tells about the state. -/
theorem advertised_cases (advertised : path ∈ allowedStepPaths sha256 flow state) :
    state.finished = false ∧ ((∃ nodeId, path ∈ topicEntryStepPaths flow nodeId ∧
          state.currentStep.filter (· ≠ "") = none) ∨
        ∃ current, findStep flow current.path = some current ∧
          state.currentStep = some current.path ∧
          ((current.path ∈ state.completedSteps ∧ ∃ outputs,
              path ∈ successfulNextSteps sha256 current outputs) ∨
            (current.path ∉ state.completedSteps ∧
              attemptLimit current.step ≤ (state.attempts.lookup current.path).getD 0 ∧
              failureRoute current.step = some path))) := by
  unfold allowedStepPaths at advertised
  split at advertised
  · simp at advertised
  rename_i running
  refine ⟨by simpa using running, ?_⟩
  split at advertised
  · simp at advertised
  split at advertised
  · simp at advertised
  split at advertised
  · rename_i noStep
    exact Or.inl ⟨_, advertised, noStep⟩
  rename_i currentStep atStep
  split at advertised
  · simp at advertised
  rename_i current found
  obtain ⟨_, samePath⟩ := listed_of_findStep found
  subst samePath
  refine Or.inr ⟨current, found, (Option.filter_eq_some_iff.mp atStep).1, ?_⟩
  split at advertised
  · rename_i completed
    exact Or.inl ⟨by simpa using completed, _, advertised⟩
  rename_i incomplete
  split at advertised
  · rename_i exhausted
    exact Or.inr ⟨by simpa using incomplete, exhausted, by simpa using advertised⟩
  · simp at advertised

section

variable (valid : WellFormed flow)
include valid

/-- Every advertised step exists. -/
theorem advertised_listed (advertised : path ∈ allowedStepPaths sha256 flow state) :
    ∃ ref ∈ listStepRefs flow, ref.path = path := by
  obtain ⟨_, ⟨nodeId, entry, _⟩ | ⟨current, found, _, next⟩⟩ := advertised_cases advertised
  · exact listed_of_entry entry
  have listed := (listed_of_findStep found).1
  rcases next with ⟨_, outputs, successor⟩ | ⟨_, _, routed⟩
  · exact listed_of_successor valid listed successor
  · obtain ⟨declared, nonempty⟩ := Option.filter_eq_some_iff.mp routed
    have known := valid.failureTargets current listed path declared (by simpa using nonempty)
    obtain ⟨ref, refListed, samePath⟩ := List.mem_map.mp known
    exact ⟨ref, refListed, samePath⟩

/-- In an accepted flow a listed step is found by its path. -/
theorem findStep_of_listed (listed : ref ∈ listStepRefs flow) :
    findStep flow ref.path = some ref := by
  cases found : findStep flow ref.path with
  | none =>
    have absent := List.find?_eq_none.mp found ref listed
    simp at absent
  | some =>
    obtain ⟨otherListed, samePath⟩ := listed_of_findStep found
    rw [WellFormed.ref_unique valid otherListed listed samePath]

/-- Every step of an accepted flow may be attempted at least once. -/
theorem attemptLimit_pos (listed : ref ∈ listStepRefs flow) : 1 ≤ attemptLimit ref.step := by
  have shape := (listed_stepShape valid.schema listed).1
  simp only [stepShape, Bool.and_eq_true] at shape
  unfold attemptLimit
  cases declared : ref.step.maxAttempts with
  | none => decide
  | some =>
    have bounds := shape.2
    rw [declared, Option.all_some, decide_eq_true_eq] at bounds
    exact bounds.1

end

/-- Among advertised steps, an open one is a failure route to itself and has used up its
attempts. -/
theorem open_advertised_exhausted (advertised : path ∈ allowedStepPaths sha256 flow state)
    (found : findStep flow path = some ref) (isOpen : isRetry state path) :
    attemptLimit ref.step < entryAttempts state path := by
  have attempts : entryAttempts state path = (state.attempts.lookup path).getD 0 + 1 := by
    rw [entryAttempts, if_pos isOpen]
  simp only [isRetry, Bool.and_eq_true, decide_eq_true_eq, Bool.not_eq_true',
    List.contains_eq_mem, decide_eq_false_iff_not] at isOpen
  obtain ⟨_, ⟨nodeId, _, noStep⟩ | ⟨current, foundCurrent, atCurrent, next⟩⟩ :=
    advertised_cases advertised
  · obtain ⟨listed, samePath⟩ := listed_of_findStep found
    have nonempty := listed_path_ne_empty listed
    rw [isOpen.1, Option.filter_some, if_pos (by simpa [samePath] using nonempty)] at noStep
    cases noStep
  · have samePath : current.path = path := Option.some.inj (atCurrent.symm.trans isOpen.1)
    subst samePath
    have sameRef : ref = current := Option.some.inj (found.symm.trans foundCurrent)
    subst sameRef
    rcases next with ⟨completed, _⟩ | ⟨_, exhausted, _⟩
    · exact absurd completed isOpen.2
    · omega

/-- The ancestors that entering checks are the ancestors in the tree. -/
theorem ancestors_completed_iff (valid : WellFormed flow) (listed : ref ∈ listStepRefs flow) :
    (∀ ancestor ∈ ancestorPaths ref, ancestor ∈ state.completedSteps) ↔
      ∀ upper, IsAncestor flow upper ref.path → upper ∈ state.completedSteps := by
  rw [ancestorPaths_eq_tree listed (valid.dotFree listed)]
  constructor
  · rintro completed upper ⟨other, otherListed, samePath, member⟩
    obtain rfl := WellFormed.ref_unique valid otherListed listed samePath
    exact completed upper member
  · intro completed upper member
    exact completed upper ⟨ref, listed, rfl, member⟩

/-- In every reachable state of an accepted Flow v2 without an entry limit whose current
step has no unresolved receipt, an advertised step can be entered exactly when all its
ancestors are completed and it is not the step that is still open. -/
theorem advertised_enterable_iff (sha256 : String → String) (flow : AgentFlow)
    (accepted : accepts flow = true) (v2 : flow.schemaVersion = some 2)
    (unlimited : flow.maxStepEntries = none) (created now : Instant)
    (operations : List TimedOperation)
    (resolved : ∀ current, (runFlow sha256 flow created operations).currentStep = some current →
      unresolvedReceipts (runFlow sha256 flow created operations) current = [])
    (path : String)
    (advertised : path ∈ allowedStepPaths sha256 flow (runFlow sha256 flow created operations)) :
    (∃ entry, enterFlowStep sha256 flow (runFlow sha256 flow created operations) path now =
      .ok entry) ↔
    (∀ upper, IsAncestor flow upper path →
      upper ∈ (runFlow sha256 flow created operations).completedSteps) ∧
    ((runFlow sha256 flow created operations).currentStep = some path →
      path ∈ (runFlow sha256 flow created operations).completedSteps) := by
  have valid := wellFormed_of_accepts accepted v2
  generalize runFlow sha256 flow created operations = state at resolved advertised ⊢
  obtain ⟨ref, listed, samePath⟩ := advertised_listed valid advertised
  subst samePath
  have found := findStep_of_listed valid listed
  rw [enterFlowStep_ok_iff, ← ancestors_completed_iff valid listed]
  constructor
  · rintro ⟨other, admitted⟩
    have sameRef : other = ref := Option.some.inj (admitted.found.symm.trans found)
    subst sameRef
    refine ⟨admitted.ancestors, ?_⟩
    intro atStep
    by_contra incomplete
    have isOpen : isRetry state other.path = true := by simp [isRetry, atStep, incomplete]
    have exhausted := open_advertised_exhausted advertised found isOpen
    have within := admitted.withinAttempts
    omega
  · rintro ⟨ancestors, closed⟩
    have fresh : isRetry state ref.path = false := by simpa [isRetry] using closed
    refine ⟨ref, ?_⟩
    exact
      { running := (advertised_cases advertised).1
        found := found
        resolved := fun current isOpen => resolved current (currentStep_of_openStep isOpen).1
        allowed := Or.inl advertised
        ancestors := ancestors
        withinAttempts := by
          rw [entryAttempts, fresh]
          exact attemptLimit_pos valid listed
        withinEntries := by simp [unlimited] }

/-- A start step whose transitions lead to a parent and to a child of that parent. -/
def bypassFlow : AgentFlow :=
  singleTopicFlow "work" [{ plainStep "start" with
        entry := some true
        transitions := [⟨"work.parent", none, none, none⟩, ⟨"work.parent.child", none, none, none⟩] },
      { plainStep "parent" with entry := some false, steps := [plainStep "child"] }]

/-- A step that routes its own failure to itself. -/
def selfRouteFlow : AgentFlow :=
  singleTopicFlow "work" [{ plainStep "again" with
        entry := some true, maxAttempts := some 1, onFailure := some "work.again" }]

/-- The start step is completed. -/
def bypassRun : List TimedOperation :=
  [⟨.selectTopic "work", epoch⟩, ⟨.enterStep "work.start", epoch⟩,
    ⟨.complete ⟨none, .undefined⟩, epoch⟩]

/-- The only attempt is used up. -/
def selfRouteRun : List TimedOperation :=
  [⟨.selectTopic "work", epoch⟩, ⟨.enterStep "work.again", epoch⟩]

/-- The code of a refusal. -/
def refusalCode {α : Type} : Except Failure α → Option ErrorCode
  | .error (.refused reason) => some reason.code
  | _ => none

/-- Two advertised steps that cannot be entered: a child whose parent is not completed,
and a step that routes its exhausted attempts to itself. No action was ever reserved. -/
theorem advertised_step_refused : accepts bypassFlow = true ∧
    "work.parent.child" ∈ allowedStepPaths emptyObjectDigest bypassFlow
      (runFlow emptyObjectDigest bypassFlow epoch bypassRun) ∧
    (runFlow emptyObjectDigest bypassFlow epoch bypassRun).actionReceipts.length = 0 ∧
    refusalCode (enterFlowStep emptyObjectDigest bypassFlow
      (runFlow emptyObjectDigest bypassFlow epoch bypassRun) "work.parent.child" epoch) =
        some .ancestorStepIncomplete ∧
    accepts selfRouteFlow = true ∧
    "work.again" ∈ allowedStepPaths emptyObjectDigest selfRouteFlow
      (runFlow emptyObjectDigest selfRouteFlow epoch selfRouteRun) ∧
    (runFlow emptyObjectDigest selfRouteFlow epoch selfRouteRun).actionReceipts.length = 0 ∧
    refusalCode (enterFlowStep emptyObjectDigest selfRouteFlow
      (runFlow emptyObjectDigest selfRouteFlow epoch selfRouteRun) "work.again" epoch) =
        some .attemptLimit := by
  decide +kernel

/-- After the start step its other target, the parent, can be entered. -/
theorem parent_enterable : ∃ entry, enterFlowStep emptyObjectDigest bypassFlow
      (runFlow emptyObjectDigest bypassFlow epoch bypassRun) "work.parent" epoch = .ok entry := by
  have accepted : accepts bypassFlow = true := by decide +kernel
  have valid := wellFormed_of_accepts accepted rfl
  have noReceipts : (runFlow emptyObjectDigest bypassFlow epoch bypassRun).actionReceipts = [] :=
    List.length_eq_zero_iff.mp (by decide +kernel)
  have listed : (listStepRefs bypassFlow)[1] ∈ listStepRefs bypassFlow := List.getElem_mem _
  have named : ((listStepRefs bypassFlow)[1]).path = "work.parent" := by decide
  have topLevel : ∀ upper, IsAncestor bypassFlow upper "work.parent" →
      upper ∈ (runFlow emptyObjectDigest bypassFlow epoch bypassRun).completedSteps := by
    rw [← named]
    exact (ancestors_completed_iff valid listed).mp (by decide +kernel)
  have entered := advertised_enterable_iff emptyObjectDigest bypassFlow accepted rfl rfl epoch epoch
    bypassRun (by simp [unresolvedReceipts, noReceipts]) "work.parent" (by decide +kernel)
  exact entered.mpr ⟨topLevel, by decide +kernel⟩

end CallCenter.FlowEntries
