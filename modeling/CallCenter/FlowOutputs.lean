import CallCenter.FlowReceipts
import CallCenter.FlowWellFormed

/-!
# Where bound outputs come from

A step may bind outputs to the results of its actions. The recorded value of such an
output is traced back through the run: to the completion that recorded it, to the only
receipt that could feed it there, and to the settlement or promotion that made this
receipt succeed. The value is the one at the declared path of the result supplied then.
-/

namespace CallCenter.FlowOutputs

open JsonValues FlowDefinition FlowValidation Timestamps FlowState FlowNavigation FlowActions
  FlowRuntime FlowTransitions FlowReceipts FlowPaths FlowWellFormed ListRewrites ObjectFields
  DottedPaths

section Bindings

variable {sha256 : String → String} {state : FlowExecutionState} {ref : StepRef}
  {supplied outputs : List (String × Value)}

variable {bindings : List FlowOutputBinding}

/-- Outputs of an accepted step are bound at most once. -/
theorem outputBindingDiagnostics_noErrors {path : String} {granted : List String} {index : Nat}
    {seen : List String}
    (noErrors : NoErrors (outputBindingDiagnostics path granted index seen bindings)) :
    (bindings.map FlowOutputBinding.output).Nodup ∧
      ∀ binding ∈ bindings, binding.output ∉ seen := by
  induction bindings generalizing index seen with
  | nil => simp
  | cons binding rest ih =>
    simp only [outputBindingDiagnostics, noErrors_append, noErrors_errorWhen] at noErrors
    obtain ⟨⟨⟨fresh, _⟩, _⟩, later⟩ := noErrors
    rw [KeyedTables.distinct_cons_iff]
    exact ⟨by simpa using fresh, ih later⟩

theorem bindings_distinct {flow : AgentFlow} (accepted : accepts flow)
    (listed : ref ∈ listStepRefs flow) :
    (ref.step.outputBindings.map FlowOutputBinding.output).Nodup := by
  obtain ⟨_, noErrors⟩ := (accepts_iff flow).mp accepted
  simp only [semanticDiagnostics, noErrors_append] at noErrors
  obtain ⟨⟨⟨_, steps⟩, _⟩, _⟩ := noErrors
  obtain ⟨_, _, checked⟩ := stepsDiagnostics_noErrors steps
  obtain ⟨before, stepErrors⟩ := checked ref listed
  simp only [stepDiagnostics, noErrors_append] at stepErrors
  exact (outputBindingDiagnostics_noErrors stepErrors.1.1.1.2).1

variable {initial : List (String × Value)}

/-- Binding leaves the outputs that no binding names as they were. -/
theorem bindOutputs_lookup_other
    (bound : bindOutputs sha256 state ref supplied bindings initial = .ok outputs) (key : String)
    (unbound : key ∉ bindings.map FlowOutputBinding.output) :
    outputs.lookup key = initial.lookup key := by
  induction bindings generalizing initial with
  | nil =>
    cases bound
    rfl
  | cons binding rest ih =>
    rw [List.map_cons, List.mem_cons, not_or] at unbound
    unfold bindOutputs at bound
    split at bound
    · cases bound
    rename_i value _
    rw [ih bound unbound.2, lookup_setField_ne _ _ _ _ unbound.1]

/-- Every bound output gets the value that its binding determines. -/
theorem bindOutputs_lookup (distinct : (bindings.map FlowOutputBinding.output).Nodup)
    (bound : bindOutputs sha256 state ref supplied bindings initial = .ok outputs)
    (binding : FlowOutputBinding) (member : binding ∈ bindings) :
    ∃ value, boundValue sha256 state ref supplied binding = .ok value ∧
      outputs.lookup binding.output = some value := by
  induction bindings generalizing initial with
  | nil => simp at member
  | cons first rest ih =>
    rw [List.map_cons, List.nodup_cons] at distinct
    unfold bindOutputs at bound
    split at bound
    · cases bound
    rename_i value computed
    rcases List.mem_cons.mp member with rfl | later
    · refine ⟨value, computed, ?_⟩
      rw [bindOutputs_lookup_other bound _ distinct.1, lookup_setField_self]
    · exact ih distinct.2 bound later

/-- A bound value is the one at the declared path of the only candidate's result. -/
theorem boundValue_ok {binding : FlowOutputBinding} {value : Value}
    (bound : boundValue sha256 state ref supplied binding = .ok value) :
    ∃ receipt, bindingCandidates state ref binding = [receipt] ∧
      resultAtPath (receipt.result.getD .undefined) binding.resultPath = some value ∧
      matchesValueType value binding.valueType = true := by
  unfold boundValue at bound
  split at bound
  · cases bound
  · cases bound
  rename_i receipt only
  refine ⟨receipt, only, ?_⟩
  split at bound
  · cases bound
  rename_i found resolved
  split at bound
  · cases bound
  rename_i typed
  split at bound
  · cases bound
  cases bound
  exact ⟨resolved, by simpa using typed⟩

/-- Nothing but itself is found inside an undefined result. -/
theorem resultAtPath_undefined {path : String} {value : Value}
    (resolved : resultAtPath .undefined path = some value) : value = .undefined := by
  unfold resultAtPath at resolved
  cases segments : (resultPathSegments path).filter (· ≠ "") with
  | nil =>
    rw [segments] at resolved
    simpa [valueAtSegments] using resolved.symm
  | cons =>
    rw [segments] at resolved
    simp [valueAtSegments, ownProperty] at resolved

end Bindings

/-! ## Values and candidates, in their own terms -/

/-- A property that a container itself has: a field of an object, an item of an array under
its position, or the array's length. -/
inductive OwnProperty : Value → String → Value → Prop where
  | field {fields : List (String × Value)} {key : String} {value : Value}
      (held : fields.lookup key = some value) : OwnProperty (.object fields) key value
  | item {items : List Value} {index : Nat} {value : Value}
      (held : items[index]? = some value) : OwnProperty (.array items) (toString index) value
  | length (items : List Value) : OwnProperty (.array items) "length" (.ofNat items.length)

/-- The value stands inside a result, each name leading to a property of the value before. -/
inductive StandsAt : Value → List String → Value → Prop where
  | here (value : Value) : StandsAt value [] value
  | inside {container inner value : Value} {name : String} {names : List String}
      (property : OwnProperty container name inner) (deeper : StandsAt inner names value) :
      StandsAt container (name :: names) value

/-- A path names its nonempty dot-separated parts, after an optional dollar sign. -/
def PathNames (path : String) (names : List String) : Prop :=
  ∃ parts, parts ≠ [] ∧ DotFree parts ∧ names = parts.filter (· ≠ "") ∧
    (path = "$" ++ joinDots parts ∨
      path = joinDots parts ∧ path.toList.head? ≠ some '$')

/-- The value stands in the result at a path of names that are not reserved. -/
def StandsAtPath (result : Value) (path : String) (value : Value) : Prop :=
  ∃ names, PathNames path names ∧
    (∀ name ∈ names, name ∉ ["__proto__", "prototype", "constructor"]) ∧
      StandsAt result names value

/-- The value is of the declared type; without a declaration every value is. -/
inductive OfType : Value → Option ValueType → Prop where
  | undeclared (value : Value) : OfType value none
  | string (text : String) : OfType (.string text) (some .string)
  | number (number : JsNumber) : OfType (.number number) (some .number)
  | boolean (truth : Bool) : OfType (.bool truth) (some .boolean)
  | object (fields : List (String × Value)) : OfType (.object fields) (some .object)
  | array (items : List Value) : OfType (.array items) (some .array)

/-- A receipt that may feed a binding of a step: the tool succeeded in this step, under the
present epoch or under a policy of the step that holds for the whole call. -/
structure Candidate (state : FlowExecutionState) (ref : StepRef) (binding : FlowOutputBinding)
    (receipt : FlowActionReceipt) : Prop where
  succeeded : receipt.status = .succeeded
  step : receipt.step = ref.path
  tool : receipt.tool = binding.tool
  scope : receipt.capabilityEpoch = state.capabilityEpoch ∨ ∃ policy,
    (ref.step.actionPolicies.find? fun policy => policy.tool = binding.tool) = some policy ∧
      (policy.idempotency = some .perCall ∨ policy.idempotency = some .perCallArguments)

/-- The receipt is a candidate, and no other receipt of the state is one. -/
def OnlyCandidate (state : FlowExecutionState) (ref : StepRef) (binding : FlowOutputBinding)
    (receipt : FlowActionReceipt) : Prop :=
  ∃ before after, state.actionReceipts = before ++ receipt :: after ∧
    Candidate state ref binding receipt ∧ ∀ other ∈ before ++ after, ¬Candidate state ref binding other

theorem ownProperty_some {container value : Value} {key : String}
    (found : ownProperty container key = some value) : OwnProperty container key value := by
  unfold ownProperty at found
  split at found
  · exact .field found
  · split at found
    · next items named =>
      cases found
      exact named ▸ .length items
    · obtain ⟨index, located, held⟩ := Option.bind_eq_some_iff.mp found
      have named : toString index = key := by simpa using List.find?_some located
      exact named ▸ .item held
  · cases found

theorem valueAtSegments_some {result value : Value} {names : List String}
    (found : valueAtSegments result names = some value) :
    (∀ name ∈ names, name ∉ UNSAFE_PATH_SEGMENTS) ∧ StandsAt result names value := by
  induction names generalizing result with
  | nil =>
    cases found
    exact ⟨by simp, .here _⟩
  | cons name rest ih =>
    unfold valueAtSegments at found
    split at found
    · cases found
    · next safe =>
      split at found
      · cases found
      · next inner property =>
        obtain ⟨others, deeper⟩ := ih found
        refine ⟨?_, .inside (ownProperty_some property) deeper⟩
        exact List.forall_mem_cons.mpr ⟨by simpa using safe, others⟩

/-- The parts of a text at its dots. -/
theorem splitDots_parts (text : String) :
    splitDots text ≠ [] ∧ DotFree (splitDots text) ∧ joinDots (splitDots text) = text := by
  have free : ∀ characters : List Char, ∀ part ∈ characters.splitOn '.', '.' ∉ part := by
    intro characters
    induction characters with
    | nil => simp
    | cons first rest ih =>
      rw [List.splitOn_cons_eq_if_modifyHead]
      obtain ⟨next, others, split⟩ := List.exists_cons_of_ne_nil (List.splitOn_ne_nil '.' rest)
      rw [split] at ih ⊢
      split
      · simpa using ih
      · next ordinary =>
        obtain ⟨known, later⟩ := List.forall_mem_cons.mp ih
        refine List.forall_mem_cons.mpr ⟨?_, later⟩
        rw [List.mem_cons, not_or]
        exact ⟨fun dot => ordinary (beq_iff_eq.mpr dot.symm), known⟩
  refine ⟨by simp [splitDots, List.splitOn_ne_nil], ?_, ?_⟩
  · intro part member
    obtain ⟨characters, known, rfl⟩ := List.mem_map.mp member
    simpa using free _ characters known
  · have inverse : String.toList ∘ String.ofList = id := by
      funext characters
      simp
    rw [joinDots, splitDots, List.map_map, inverse, List.map_id,
      List.intercalate_splitOn, String.ofList_toList]

theorem resultPathSegments_names (path : String) :
    PathNames path ((resultPathSegments path).filter (· ≠ "")) := by
  unfold resultPathSegments
  split
  · next root =>
    exact ⟨[""], by simp, by simp [DotFree], rfl, Or.inl (by simp [root])⟩
  · split
    · next rest dotted =>
      -- The dot after the dollar sign starts an empty part.
      obtain ⟨nonempty, free, joined⟩ := splitDots_parts (String.ofList rest)
      refine ⟨"" :: splitDots (String.ofList rest), by simp, ?_, by simp, Or.inl ?_⟩
      · exact List.forall_mem_cons.mpr ⟨by simp, free⟩
      · apply String.toList_inj.mp
        rw [← List.singleton_append, joinDots_append _ _ (by simp) nonempty, joined]
        simp [dotted]
    · next rest _ dollar =>
      obtain ⟨nonempty, free, joined⟩ := splitDots_parts (String.ofList rest)
      refine ⟨_, nonempty, free, rfl, Or.inl ?_⟩
      apply String.toList_inj.mp
      rw [joined]
      simp [dollar]
    · next plain =>
      obtain ⟨nonempty, free, joined⟩ := splitDots_parts (String.ofList path.toList)
      rw [String.ofList_toList] at joined
      refine ⟨_, nonempty, free, rfl, Or.inr ⟨?_, ?_⟩⟩
      · rw [String.ofList_toList, joined]
      · intro dollar
        obtain ⟨rest, starts⟩ := List.head?_eq_some_iff.mp dollar
        exact plain rest starts

theorem resultAtPath_some {result value : Value} {path : String}
    (found : resultAtPath result path = some value) : StandsAtPath result path value := by
  obtain ⟨safe, stands⟩ := valueAtSegments_some found
  exact ⟨_, resultPathSegments_names path, safe, stands⟩

theorem bindingIsCallScoped_iff (ref : StepRef) (tool : String) :
    bindingIsCallScoped ref tool = true ↔ ∃ policy,
      (ref.step.actionPolicies.find? fun policy => policy.tool = tool) = some policy ∧
        (policy.idempotency = some .perCall ∨ policy.idempotency = some .perCallArguments) := by
  unfold bindingIsCallScoped
  cases ref.step.actionPolicies.find? fun policy => policy.tool = tool with
  | none => simp
  | some policy => cases mode : policy.idempotency <;> simp [mode, isCallScoped]

section Candidates
variable {state : FlowExecutionState} {ref : StepRef} {binding : FlowOutputBinding}
  {receipt : FlowActionReceipt}

theorem mem_bindingCandidates : receipt ∈ bindingCandidates state ref binding ↔
    receipt ∈ state.actionReceipts ∧ Candidate state ref binding receipt := by
  rw [bindingCandidates, List.mem_filter]
  refine and_congr_right fun _ => ?_
  simp only [Bool.and_eq_true, Bool.or_eq_true, decide_eq_true_eq, bindingIsCallScoped_iff]
  exact ⟨fun known => ⟨known.1.1.1, known.1.1.2, known.1.2, known.2⟩,
    fun known => ⟨⟨⟨known.succeeded, known.step⟩, known.tool⟩, known.scope⟩⟩

theorem onlyCandidate_of_bindingCandidates
    (only : bindingCandidates state ref binding = [receipt]) :
    OnlyCandidate state ref binding receipt := by
  obtain ⟨before, after, split, none, _, last⟩ := List.filter_eq_cons_iff.mp only
  have candidate := mem_bindingCandidates.mp (only ▸ List.mem_singleton_self receipt)
  refine ⟨before, after, split, candidate.2, ?_⟩
  intro other member isCandidate
  have eligible := (List.mem_filter.mp (mem_bindingCandidates.mpr
    ⟨split ▸ by simp only [List.mem_append, List.mem_cons] at member ⊢; tauto, isCandidate⟩)).2
  rcases List.mem_append.mp member with earlier | later
  · exact none other earlier eligible
  · exact List.filter_eq_nil_iff.mp last other later eligible

end Candidates

theorem matchesValueType_ofType {value : Value} {type : Option ValueType}
    (matched : matchesValueType value type = true) : OfType value type := by
  unfold matchesValueType at matched
  split at matched <;> first | constructor | cases matched

section Receipts

variable {sha256 : String → String} {flow : AgentFlow} {state next : FlowExecutionState}
  {timed : TimedOperation}

/-- The request records the success of a receipt with the given result. -/
def SucceededBy (timed : TimedOperation) (receiptId : String) (result : Value) : Prop :=
  match timed.operation with
  | .settle args => args.receiptId = receiptId ∧ args.status = .succeeded ∧ args.result = result
  | .promote args => args.receiptId = receiptId ∧ args.result = result
  | _ => False

/-- A receipt that is still reserved has no result. -/
def ReservedEmpty (state : FlowExecutionState) : Prop :=
  ∀ receipt ∈ state.actionReceipts, receipt.status = .reserved → receipt.result = none

/-- Compaction keeps a result or drops it. -/
theorem compactReceipt_result {path : String} {before after : FlowActionReceipt}
    (compacted : compactReceipt path before = .ok after) :
    after.id = before.id ∧ after.status = before.status ∧
      (after.result = before.result ∨ after.result = none) := by
  obtain ⟨_, _, _, _, _, _, result, rfl⟩ := compactReceipt_kept compacted
  exact ⟨rfl, rfl, result⟩

section

variable (transition : Transition sha256 flow state timed next)
include transition

theorem transition_reservedEmpty (empty : ReservedEmpty state) : ReservedEmpty next := by
  cases transition with
  | unchanged | topicSelected | stepEntered | rotated => exact empty
  | actionReserved =>
    intro receipt member reserved
    rcases List.mem_append.mp member with earlier | fresh
    · exact empty receipt earlier reserved
    · rw [List.mem_singleton.mp fresh]
      rfl
  | dispatchStarted held isReserved =>
    have noResult := empty _ (current_mem held) isReserved
    exact forall_overwrite held empty fun _ => noResult
  | @actionSettled args _ _ _ held =>
    refine forall_overwrite held empty fun reserved => ?_
    cases settled : args.status <;> simp [settledReceipt, settled, Settlement.status] at reserved
  | actionPromoted held | absenceProved held =>
    refine forall_overwrite held empty fun reserved => ?_
    cases reserved
  | staleMarked =>
    intro receipt member reserved
    obtain ⟨original, earlier, rfl⟩ := List.mem_map.mp member
    unfold recoveredReceipt at reserved ⊢
    split
    · rename_i stale
      simp [stale] at reserved
    · rename_i current
      exact empty original earlier (by simpa [current] using reserved)
  | stepCompleted admitted =>
    have rewritten := compactCompletedStepReceipts_forall₂ admitted.compacted
    unfold completedState
    split
    all_goals
      intro receipt member reserved
      obtain ⟨original, earlier, compacted⟩ := exists_before rewritten member
      obtain ⟨_, sameStatus, kept | dropped⟩ := compactReceipt_result compacted
      · rw [kept]
        exact empty original earlier (sameStatus ▸ reserved)
      · exact dropped

/-- A succeeded receipt with a result had it before, or the step's own request
recorded the success with exactly this result. -/
theorem transition_succeeded (empty : ReservedEmpty state) {receipt : FlowActionReceipt}
    (member : receipt ∈ next.actionReceipts) (succeeded : receipt.status = .succeeded)
    {result : Value} (stored : receipt.result = some result) :
    (∃ original ∈ state.actionReceipts, original.id = receipt.id ∧
      original.status = .succeeded ∧ original.result = some result) ∨
    (SucceededBy timed receipt.id result ∧
      ∃ original ∈ state.actionReceipts, original.id = receipt.id ∧
        original.status ≠ .succeeded) := by
  by_cases known : receipt ∈ state.actionReceipts
  · exact Or.inl ⟨receipt, known, rfl, succeeded, stored⟩
  cases transition with
  | unchanged | topicSelected | stepEntered | rotated => exact absurd member known
  | actionReserved =>
    obtain fresh := (List.mem_append.mp member).resolve_left known
    rw [List.mem_singleton.mp fresh] at succeeded
    cases succeeded
  | dispatchStarted held isReserved =>
    obtain rfl := (mem_overwrite held member).resolve_right known
    simp [dispatchedReceipt, isReserved] at succeeded
  | @actionSettled args _ located _ held evident isReserved =>
    obtain rfl := (mem_overwrite held member).resolve_right known
    right
    have noResult := empty _ (current_mem held) isReserved
    have settled : args.status = .succeeded := by
      cases outcome : args.status <;>
        simp [settledReceipt, outcome, Settlement.status] at succeeded ⊢
    have given : args.result = result := by
      have supplied : args.supplied = some result := by
        simpa [settledReceipt, noResult] using stored
      unfold SettleArgs.supplied at supplied
      split at supplied
      · cases supplied
      · exact Option.some.inj supplied
    exact ⟨⟨held.2.symm, settled, given⟩, located.current, current_mem held, rfl,
      by simp [isReserved]⟩
  | @actionPromoted args _ located _ held indeterminate =>
    obtain rfl := (mem_overwrite held member).resolve_right known
    right
    have given : args.result = result := by simpa [promotedReceipt] using stored
    exact ⟨⟨held.2.symm, given⟩, located.current, current_mem held, rfl, by simp [indeterminate]⟩
  | absenceProved held =>
    obtain rfl := (mem_overwrite held member).resolve_right known
    cases succeeded
  | staleMarked =>
    left
    obtain ⟨original, earlier, rfl⟩ := List.mem_map.mp member
    unfold recoveredReceipt at succeeded stored ⊢
    split at succeeded
    · cases succeeded
    · rename_i current
      simp only [current] at stored ⊢
      exact ⟨original, earlier, rfl, succeeded, stored⟩
  | stepCompleted admitted =>
    left
    have rewritten := compactCompletedStepReceipts_forall₂ admitted.compacted
    unfold completedState at member
    split at member
    all_goals
      obtain ⟨original, earlier, compacted⟩ := exists_before rewritten member
      obtain ⟨sameId, sameStatus, kept | dropped⟩ := compactReceipt_result compacted
      · exact ⟨original, earlier, sameId.symm, sameStatus ▸ succeeded, kept ▸ stored⟩
      · rw [dropped] at stored
        cases stored

end

end Receipts

section History

variable {sha256 : String → String} {flow : AgentFlow} {created : Instant}

/-- The operation after `first` made a receipt succeed with the result it supplied. -/
structure MadeSucceeded (sha256 : String → String) (flow : AgentFlow) (created : Instant)
    (first : List TimedOperation) (timed : TimedOperation) (receiptId : String) (result : Value) :
    Prop where
  request : SucceededBy timed receiptId result
  before : ∃ receipt ∈ (runFlow sha256 flow created first).actionReceipts,
    receipt.id = receiptId ∧ receipt.status ≠ .succeeded
  after : ∃ receipt ∈ (runFlow sha256 flow created (first ++ [timed])).actionReceipts,
    receipt.id = receiptId ∧ receipt.status = .succeeded

theorem run_reservedEmpty (operations : List TimedOperation) :
    ReservedEmpty (runFlow sha256 flow created operations) := by
  refine Runs.run_invariant ReservedEmpty ?_ ?_ operations
  · simp [ReservedEmpty, createFlowExecutionState]
  · intro state timed empty
    exact transition_reservedEmpty (step_transition timed) empty

/-- Stored results of succeeded receipts were supplied by operations of the run. -/
def SuccessesTraced (sha256 : String → String) (flow : AgentFlow) (created : Instant)
    (operations : List TimedOperation) (state : FlowExecutionState) : Prop :=
  ∀ receipt ∈ state.actionReceipts, receipt.status = .succeeded →
    ∀ result, receipt.result = some result →
    ∃ first timed second, operations = first ++ timed :: second ∧
      MadeSucceeded sha256 flow created first timed receipt.id result

/-- Every stored result of a succeeded receipt was supplied by an earlier operation
that made the receipt succeed. -/
theorem run_successesTraced (operations : List TimedOperation) :
    SuccessesTraced sha256 flow created operations (runFlow sha256 flow created operations) := by
  -- The induction is on the end of the run: the last operation either recorded the
  -- success itself or left a receipt whose success is older.
  refine Runs.run_history (SuccessesTraced sha256 flow created) ?_ ?_ operations
  · simp [SuccessesTraced, createFlowExecutionState]
  · intro before timed ih receipt member succeeded result stored
    have transition : Transition sha256 flow (runFlow sha256 flow created before) timed
        (step sha256 flow (runFlow sha256 flow created before) timed) := step_transition timed
    rcases transition_succeeded transition (run_reservedEmpty before) member succeeded stored with
      ⟨original, earlier, sameId, wasSucceeded, wasStored⟩ | ⟨request, original, earlier, sameId, was⟩
    · obtain ⟨first, made, second, split, evidence⟩ :=
        ih original earlier wasSucceeded result wasStored
      refine ⟨first, made, second ++ [timed], by simp [split], ?_⟩
      rw [← sameId]
      exact evidence
    · refine ⟨before, timed, [], rfl, request, ⟨original, earlier, sameId, was⟩, ?_⟩
      refine ⟨receipt, ?_, rfl, succeeded⟩
      rw [runFlow, Runs.run_snoc]
      exact member

/-- A completion records its outputs under its own path and no other. -/
theorem completedState_outputs (state : FlowExecutionState) (ref : StepRef) (path asked : String)
    (outputs : List (String × Value)) (receipts : List FlowActionReceipt)
    (nextSteps : List String) (now : Instant) :
    (completedState (recordedCompletion state ref path outputs receipts now) nextSteps
        now).outputs.lookup asked =
      if asked = path then some outputs else state.outputs.lookup asked := by
  have recorded : (completedState (recordedCompletion state ref path outputs receipts now)
      nextSteps now).outputs = setField state.outputs path outputs := by
    unfold completedState
    split <;> rfl
  rw [recorded]
  by_cases same : asked = path
  · rw [if_pos same, same, lookup_setField_self]
  · rw [if_neg same, lookup_setField_ne _ _ _ _ same]

/-- Completed steps were completed by operations of the run, with the outputs that are
still recorded. -/
def CompletionsTraced (sha256 : String → String) (flow : AgentFlow) (created : Instant)
    (operations : List TimedOperation) (state : FlowExecutionState) : Prop :=
  ∀ path ∈ state.completedSteps, ∃ earlier args now later ref supplied outputs receipts,
    operations = earlier ++ ⟨.complete args, now⟩ :: later ∧
    CompletionAdmitted sha256 flow (runFlow sha256 flow created earlier) args path ref supplied
      outputs receipts now ∧
    path ∈ (runFlow sha256 flow created (earlier ++ [⟨.complete args, now⟩])).completedSteps ∧
    state.outputs.lookup path = some outputs

/-- A completed step that the last operation leaves alone keeps its origin. -/
theorem CompletionsTraced.extend {before : List TimedOperation} {state next : FlowExecutionState}
    (traced : CompletionsTraced sha256 flow created before state) (timed : TimedOperation)
    {path : String} (completed : path ∈ state.completedSteps)
    (kept : next.outputs.lookup path = state.outputs.lookup path) :
    ∃ earlier args now later ref supplied outputs receipts,
      before ++ [timed] = earlier ++ ⟨.complete args, now⟩ :: later ∧
      CompletionAdmitted sha256 flow (runFlow sha256 flow created earlier) args path ref supplied
        outputs receipts now ∧
      path ∈ (runFlow sha256 flow created (earlier ++ [⟨.complete args, now⟩])).completedSteps ∧
      next.outputs.lookup path = some outputs := by
  obtain ⟨earlier, args, now, later, ref, supplied, outputs, receipts, split, admitted, recorded,
    stored⟩ := traced path completed
  exact ⟨earlier, args, now, later ++ [timed], ref, supplied, outputs, receipts, by simp [split],
    admitted, recorded, kept.trans stored⟩

/-- Every completed step was completed by an earlier operation, whose outputs are still
the recorded ones. -/
theorem run_completionsTraced (operations : List TimedOperation) :
    CompletionsTraced sha256 flow created operations (runFlow sha256 flow created operations) := by
  refine Runs.run_history (CompletionsTraced sha256 flow created) ?_ ?_ operations
  · simp [CompletionsTraced, createFlowExecutionState]
  · intro before timed traced path completed
    have transition : Transition sha256 flow (runFlow sha256 flow created before) timed
        (step sha256 flow (runFlow sha256 flow created before) timed) := step_transition timed
    change CompletionsTraced sha256 flow created before (runFlow sha256 flow created before)
      at traced
    have reached : runFlow sha256 flow created (before ++ [timed]) =
        step sha256 flow (runFlow sha256 flow created before) timed := Runs.run_snoc _ _ _ _
    revert completed
    change path ∈ (step sha256 flow (runFlow sha256 flow created before) timed).completedSteps →
      ∃ earlier args now later ref supplied outputs receipts, _ ∧ _ ∧ _ ∧
        (step sha256 flow (runFlow sha256 flow created before) timed).outputs.lookup path = _
    generalize step sha256 flow (runFlow sha256 flow created before) timed = next
      at transition reached ⊢
    intro completed
    cases transition with
    | @stepEntered entered now ref admitted =>
      obtain ⟨wasCompleted, outside⟩ := List.mem_filter.mp completed
      have kept := lookup_filter_keys (runFlow sha256 flow created before).outputs
        (fun candidate => !inReenteredSubtree entered candidate) path outside
      exact traced.extend _ wasCompleted kept
    | @stepCompleted args now target ref supplied outputs receipts admitted =>
      by_cases same : path = target
      · subst same
        refine ⟨before, args, now, [], ref, supplied, outputs, receipts, rfl, admitted, ?_, ?_⟩
        · rw [reached]
          exact completed
        · rw [completedState_outputs, if_pos rfl]
      · have wasCompleted : path ∈ (runFlow sha256 flow created before).completedSteps := by
          unfold completedState at completed
          split at completed
          all_goals
            simpa [updateCapabilities, updateState, recordedCompletion, mem_distinct, same] using completed
        apply traced.extend _ wasCompleted
        rw [completedState_outputs, if_neg same]
    | _ => exact traced.extend _ completed rfl

end History

/-- The recorded value of an output of a step. -/
def recordedOutput (state : FlowExecutionState) (path output : String) : Option Value :=
  (state.outputs.lookup path).bind fun outputs => outputs.lookup output

/-- What a completion from a given state records for a bound output. The requests may
supply any outputs; the value depends on the state and the binding only. -/
theorem completion_binds {sha256 : String → String} {flow : AgentFlow} (accepted : accepts flow)
    {state : FlowExecutionState} {args : CompleteArgs} {path : String} {ref : StepRef}
    {supplied outputs : List (String × Value)} {receipts : List FlowActionReceipt} {now : Instant}
    (admitted : CompletionAdmitted sha256 flow state args path ref supplied outputs receipts now)
    {binding : FlowOutputBinding} (bound : binding ∈ ref.step.outputBindings) :
    ∃ receipt result value, bindingCandidates state ref binding = [receipt] ∧
      receipt.result = some result ∧ resultAtPath result binding.resultPath = some value ∧
      matchesValueType value binding.valueType = true ∧
      outputs.lookup binding.output = some value := by
  have distinct := bindings_distinct accepted (listed_of_findStep admitted.found).1
  obtain ⟨value, computed, stored⟩ := bindOutputs_lookup distinct admitted.verified binding bound
  obtain ⟨receipt, only, resolved, typed⟩ := boundValue_ok computed
  cases kept : receipt.result with
  | some result =>
    rw [kept] at resolved
    exact ⟨receipt, result, value, only, kept, resolved, typed, stored⟩
  | none =>
    -- The outputs are JSON, but a candidate without a result would bind an undefined value.
    rw [kept, Option.getD_none] at resolved
    have recorded := completedState_outputs state ref path path outputs receipts
      (allowedStepPaths sha256 flow (recordedCompletion state ref path outputs receipts now)) now
    rw [if_pos rfl] at recorded
    have json := (CanonicalText.stateJson_of_budget admitted.budget).1 (path, outputs)
      (mem_of_lookup _ _ _ recorded)
    have valueJson := (fieldsAreJson_iff outputs).mp json _ (mem_of_lookup _ _ _ stored)
    rw [resultAtPath_undefined resolved] at valueJson
    cases valueJson

/-- In every reachable state of an accepted flow, a bound output of a completed step was
recorded by one completion of the run. There, one receipt of the bound tool and step was
the only candidate; an earlier settlement or promotion made it succeed; and the output is
the value at the declared path of the result supplied then, of the declared type. Any
other completion request in that place would have recorded the same value. -/
theorem bound_outputs_are_receipt_values (sha256 : String → String) (flow : AgentFlow)
    (accepted : accepts flow = true) (created : Instant) (operations : List TimedOperation)
    (path : String) (completed : path ∈ (runFlow sha256 flow created operations).completedSteps)
    (ref : StepRef) (found : findStep flow path = some ref) (binding : FlowOutputBinding)
    (bound : binding ∈ ref.step.outputBindings) :
    ∃ earlier args now later first timed second receipt result value,
      operations = earlier ++ ⟨.complete args, now⟩ :: later ∧
      earlier = first ++ timed :: second ∧
      path ∉ (runFlow sha256 flow created earlier).completedSteps ∧
      path ∈ (runFlow sha256 flow created (earlier ++ [⟨.complete args, now⟩])).completedSteps ∧
      OnlyCandidate (runFlow sha256 flow created earlier) ref binding receipt ∧
      receipt.tool = binding.tool ∧ receipt.step = path ∧
      MadeSucceeded sha256 flow created first timed receipt.id result ∧
      StandsAtPath result binding.resultPath value ∧ OfType value binding.valueType ∧
      recordedOutput (runFlow sha256 flow created operations) path binding.output = some value ∧
      ∀ otherArgs otherNow completion,
        completeFlowStep sha256 flow (runFlow sha256 flow created earlier) otherArgs otherNow =
          .ok completion →
        recordedOutput completion.state path binding.output = some value := by
  obtain ⟨earlier, args, now, later, recordedRef, supplied, outputs, receipts, split, admitted,
    recorded, stored⟩ := run_completionsTraced operations path completed
  have sameRef : recordedRef = ref := Option.some.inj (admitted.found.symm.trans found)
  subst sameRef
  obtain ⟨receipt, result, value, only, kept, resolved, typed, written⟩ :=
    completion_binds accepted admitted bound
  have candidate : receipt ∈ bindingCandidates (runFlow sha256 flow created earlier) recordedRef
      binding := by
    rw [only]
    exact List.mem_singleton_self receipt
  obtain ⟨member, eligible⟩ := mem_bindingCandidates.mp candidate
  obtain ⟨first, timed, second, earlierSplit, made⟩ :=
    run_successesTraced earlier receipt member eligible.succeeded result kept
  refine ⟨earlier, args, now, later, first, timed, second, receipt, result, value, split,
    earlierSplit, admitted.incomplete, recorded, onlyCandidate_of_bindingCandidates only,
    eligible.tool, ?_, made, resultAtPath_some resolved, matchesValueType_ofType typed, ?_, ?_⟩
  · rw [eligible.step]
    exact (listed_of_findStep found).2
  · rw [recordedOutput, stored]
    exact written
  · intro otherArgs otherNow completion other
    rcases completeFlowStep_cases other with ⟨_, current, isCurrent, repeated⟩ |
      ⟨otherPath, otherRef, otherSupplied, otherOutputs, otherReceipts, otherAdmitted, next⟩
    · rw [admitted.current] at isCurrent
      cases isCurrent
      exact absurd repeated admitted.incomplete
    · have samePath : path = otherPath :=
        Option.some.inj (admitted.current.symm.trans otherAdmitted.current)
      subst samePath
      have sameRef : otherRef = recordedRef :=
        Option.some.inj (otherAdmitted.found.symm.trans found)
      subst sameRef
      obtain ⟨_, otherResult, otherValue, otherOnly, otherKept, otherResolved, _, otherWritten⟩ :=
        completion_binds accepted otherAdmitted bound
      cases only.symm.trans otherOnly
      cases kept.symm.trans otherKept
      rw [resolved] at otherResolved
      rw [recordedOutput, next, completedState_outputs, if_pos rfl, Option.bind_some,
        otherWritten, otherResolved]

/-- The order lookup binds the number of the order that its tool found. -/
def boundOrderFlow : AgentFlow :=
  singleTopicFlow "orders" [{ plainStep "lookup" with
        tools := ["find_order"]
        outputBindings :=
          [{ output := "order", tool := "find_order", resultPath := "$.id",
             valueType := some .string }] }]

/-- Digests of the texts that the bound lookup hashes. -/
def boundOrderDigest : String → String :=
  CanonicalText.tableDigest
    [("\x7b\x7d", "44136fa355b3678a1146ad16f7e8649e94fb4fc21fe77e8310c060f61caaff8a"),
      ("\x7b\"id\":\"A7\"\x7d", "d6e412b983ecaa79799651ab0efeaf951612a8aebdb08177a58c35df61ad23b8"),
      ("\x7b\"receiptId\":\"receipt-1\",\"step\":\"orders.lookup\",\"tool\":\"find_order\"\x7d",
        "7db008957f8b14cdcdda17fca70f99c56521e1de5f46e63b5accc6408ed799cb")]

/-- A lookup that finds order A7, and the completion of its step. -/
def boundOrderRun : List TimedOperation :=
  [⟨.selectTopic "orders", epoch⟩, ⟨.enterStep "orders.lookup", epoch⟩, ⟨.reserve
      { receiptId := "receipt-1", invocationId := "q1w2e3r4t5y6u7i8o9p0a1s2", tool := "find_order",
        arguments := [], capabilityEpoch := 2, providerInvocationId := none }, epoch⟩,
    ⟨.markDispatchStarted "receipt-1", epoch⟩,
    ⟨.settle
      { receiptId := "receipt-1", status := .succeeded, result := .object [("id", .string "A7")],
        error := none }, epoch⟩,
    ⟨.complete ⟨none, .undefined⟩, epoch⟩]

/-- The completed lookup records A7, which stands in the result that was settled. -/
theorem found_order_is_recorded :
    recordedOutput (runFlow boundOrderDigest boundOrderFlow epoch boundOrderRun) "orders.lookup"
        "order" = some (.string "A7") ∧
      ∃ first timed second receiptId result, boundOrderRun = first ++ timed :: second ∧
        MadeSucceeded boundOrderDigest boundOrderFlow epoch first timed receiptId result ∧
        StandsAtPath result "$.id" (.string "A7") ∧ OfType (.string "A7") (some .string) := by
  have computed : (recordedOutput (runFlow boundOrderDigest boundOrderFlow epoch boundOrderRun)
      "orders.lookup" "order").bind Value.asString = some "A7" := by
    decide +kernel
  obtain ⟨earlier, _, _, later, first, timed, second, receipt, result, value, split, inner, _, _, _,
      _, _, made, stands, typed, recorded, _⟩ :=
    bound_outputs_are_receipt_values boundOrderDigest boundOrderFlow (by decide +kernel) epoch
      boundOrderRun "orders.lookup" (by decide +kernel) ((listStepRefs boundOrderFlow)[0]) rfl
      { output := "order", tool := "find_order", resultPath := "$.id", valueType := some .string }
      List.mem_cons_self
  rw [recorded] at computed
  obtain rfl := eq_string_of_asString computed
  exact ⟨recorded, first, timed, _, receipt.id, result, by rw [split, inner, List.append_assoc,
    List.cons_append], made, stands, typed⟩

end CallCenter.FlowOutputs
