import CallCenter.FlowOutputs
import CallCenter.Sha256

/-!
# Evidence of a step that is entered again

Receipts that are valid across the call let a step that is entered again reuse what an earlier
attempt found: the reservation replays and nothing is executed. But completing a step drops the
results of its receipts. The step can be completed again exactly as long as the receipts that its
bindings read still store theirs.
-/

namespace CallCenter.FlowEvidence

open JsonValues ObjectFields FlowDefinition FlowValidation Timestamps FlowState FlowNavigation
  FlowActions FlowRuntime FlowPaths FlowTransitions FlowOutputs CanonicalText

/-! ## Stored values are JSON -/

variable {sha256 : String → String} {flow : AgentFlow} {state next : FlowExecutionState}

theorem transition_json {timed : TimedOperation} (transition : Transition sha256 flow state timed next)
    (known : StateJson state) : StateJson next := by
  cases transition with
  | unchanged | topicSelected | rotated => exact known
  | stepEntered => exact ⟨fun entry member => known.1 entry (List.mem_of_mem_filter member), known.2⟩
  | dispatchStarted held | absenceProved held =>
    have current := known.2 _ (current_mem held)
    exact ⟨known.1, forall_overwrite held known.2 current⟩
  | actionSettled _ _ _ _ budget | actionPromoted _ _ _ _ budget => exact stateJson_of_budget budget
  | staleMarked =>
    refine ⟨known.1, fun receipt member => ?_⟩
    obtain ⟨original, earlier, rfl⟩ := List.mem_map.mp member
    unfold recoveredReceipt
    split
    all_goals exact known.2 original earlier
  | actionReserved admitted | stepCompleted admitted => exact stateJson_of_budget admitted.budget

theorem run_json (created : Instant) (operations : List TimedOperation) :
    StateJson (runFlow sha256 flow created operations) := by
  refine Runs.run_invariant StateJson ?_ (fun _ timed => transition_json (step_transition timed))
    operations
  simp [StateJson, createFlowExecutionState]

/-- What is found inside a JSON value is JSON. -/
theorem valueAtSegments_json {value inner : Value} {segments : List String} (json : value.isJson)
    (found : valueAtSegments value segments = some inner) :
    inner.isJson := by
  induction segments generalizing value with
  | nil =>
    cases found
    exact json
  | cons segment rest ih =>
    rw [valueAtSegments] at found
    split at found
    · cases found
    split at found
    · cases found
    rename_i property owned
    refine ih ?_ found
    unfold ownProperty at owned
    split at owned
    · exact (fieldsAreJson_iff _).mp json _ (mem_of_lookup _ _ _ owned)
    · split at owned
      · cases owned
        rfl
      · obtain ⟨index, _, listed⟩ := Option.bind_eq_some_iff.mp owned
        exact (itemsAreJson_iff _).mp json _ (List.mem_of_getElem? listed)
    · cases owned

/-! ## Completion -/

theorem recordedBytes_total (recorded : Option Nat) {value : Value} (json : value.isJson) :
    ∃ bytes, recordedBytes recorded value = .ok bytes := by
  cases recorded with
  | none => exact ⟨_, (flowJsonBytes_ok_iff value _).mpr ⟨json, rfl⟩⟩
  | some bytes => exact ⟨bytes, rfl⟩

theorem compactReceipt_total (path : String) {receipt : FlowActionReceipt}
    (json : ReceiptJson receipt) :
    ∃ compacted, compactReceipt path receipt = .ok compacted ∧ ReceiptJson compacted := by
  have arguments : ∃ middle, compactArguments receipt = .ok middle ∧ ReceiptJson middle := by
    unfold compactArguments
    split
    · exact ⟨receipt, rfl, json⟩
    · next fields stored =>
      obtain ⟨bytes, sized⟩ := recordedBytes_total receipt.argumentsBytes (json.1 fields stored)
      rw [sized]
      exact ⟨_, rfl, by simp, json.2⟩
  obtain ⟨middle, shortened, middleJson⟩ := arguments
  unfold compactReceipt
  split
  · exact ⟨receipt, rfl, json⟩
  · rw [shortened]
    dsimp only
    unfold compactResult
    split
    · exact ⟨middle, rfl, middleJson⟩
    · exact ⟨_, rfl, middleJson.1, by simp⟩
    · next value _ stored =>
      obtain ⟨bytes, sized⟩ := recordedBytes_total middle.resultBytes (middleJson.2 value stored)
      rw [sized]
      exact ⟨_, rfl, middleJson.1, by simp⟩

theorem compactReceipts_total (path : String) {receipts : List FlowActionReceipt}
    (json : ∀ receipt ∈ receipts, ReceiptJson receipt) :
    ∃ compacted, compactCompletedStepReceipts path receipts = .ok compacted ∧
      ∀ receipt ∈ compacted, ReceiptJson receipt := by
  induction receipts with
  | nil => exact ⟨[], rfl, by simp⟩
  | cons first rest ih =>
    obtain ⟨head, shortened, headJson⟩ := compactReceipt_total path (json first List.mem_cons_self)
    obtain ⟨others, compacted, othersJson⟩ :=
      ih fun receipt member => json receipt (List.mem_cons_of_mem _ member)
    refine ⟨head :: others, ?_, List.forall_mem_cons.mpr ⟨headJson, othersJson⟩⟩
    rw [compactCompletedStepReceipts, shortened, compacted]
    rfl

/-- The outcome is a completion, or the state would not fit into its storage. -/
def CompletesWithinStorage (outcome : Except Failure StepCompletion) : Prop :=
  (∃ completion, outcome = .ok completion) ∨ ∃ code error, outcome = refuse code error ∧
      (code = .flowReceiptQuotaExceeded ∨ code = .flowStateStorageQuotaExceeded)

theorem setField_json {fields : List (String × Value)} (json : (Value.object fields).isJson)
    (key : String) {value : Value} (valueJson : value.isJson) :
    (Value.object (setField fields key value)).isJson :=
  (fieldsAreJson_iff _).mpr (forall_setField ((fieldsAreJson_iff _).mp json) valueJson)

/-- Recording verified outputs fails for want of storage only. -/
theorem finishFlowStep_total (known : StateJson state) (ref : StepRef) (path : String)
    {outputs : List (String × Value)} (json : (Value.object outputs).isJson) (now : Instant) :
    CompletesWithinStorage (finishFlowStep sha256 flow state ref path outputs now) := by
  obtain ⟨receipts, compacted, receiptsJson⟩ := compactReceipts_total path known.2
  have recorded : ∀ nextSteps, StateJson
      (completedState (recordedCompletion state ref path outputs receipts now) nextSteps now) := by
    intro nextSteps
    unfold completedState
    split
    all_goals exact ⟨forall_setField known.1 json, receiptsJson⟩
  simp only [finishFlowStep, compacted]
  generalize allowedStepPaths sha256 flow _ = nextSteps
  have sized := (flowJsonBytes_ok_iff _ _).mpr ⟨(state_isJson_iff _).mpr (recorded nextSteps), rfl⟩
  unfold withinBudget flowStateStorageBytes
  rw [sized]
  dsimp only
  split
  · exact Or.inr ⟨_, _, rfl, Or.inl rfl⟩
  split
  · exact Or.inr ⟨_, _, rfl, Or.inr rfl⟩
  · exact Or.inl ⟨_, rfl⟩

theorem bindOutputs_total {ref : StepRef} {bindings : List FlowOutputBinding}
    (each : ∀ binding ∈ bindings, ∃ value,
      boundValue sha256 state ref [] binding = .ok value ∧ value.isJson = true)
    {initial : List (String × Value)} (json : (Value.object initial).isJson) :
    ∃ outputs, bindOutputs sha256 state ref [] bindings initial = .ok outputs ∧
      (Value.object outputs).isJson = true := by
  induction bindings generalizing initial with
  | nil => exact ⟨initial, rfl, json⟩
  | cons first rest ih =>
    obtain ⟨value, computed, valueJson⟩ := each first List.mem_cons_self
    rw [bindOutputs, computed]
    exact ih (fun binding member => each binding (List.mem_cons_of_mem _ member))
      (setField_json json first.output valueJson)

/-! ## Evidence -/

section Evidence
variable (sha256 flow) (created : Instant) (operations : List TimedOperation) (ref : StepRef)

/-- The step can be completed as far as its receipts go: none is open, every required output is
bound, and each binding has one candidate, whose settlement brought a value of the declared
type. -/
structure Evidenced : Prop where
  settled : unresolvedReceipts (runFlow sha256 flow created operations) ref.path = []
  bound : ∀ key ∈ ref.step.requiredOutputs,
    ∃ binding ∈ ref.step.outputBindings, binding.output = key
  evident : ∀ binding ∈ ref.step.outputBindings, ∃ receipt,
    bindingCandidates (runFlow sha256 flow created operations) ref binding = [receipt] ∧
      ∀ first timed second result, operations = first ++ timed :: second →
        MadeSucceeded sha256 flow created first timed receipt.id result →
          ∃ value, resultAtPath result binding.resultPath = some value ∧
            matchesValueType value binding.valueType = true ∧ isNullish value = false

/-- The step is completed, or the receipts that its bindings read store their results. -/
def Retained : Prop :=
  ref.path ∈ (runFlow sha256 flow created operations).completedSteps ∨
    ∀ binding ∈ ref.step.outputBindings,
      ∀ receipt ∈ bindingCandidates (runFlow sha256 flow created operations) ref binding,
        receipt.result ≠ none

end Evidence

/-- In every reachable state of an accepted flow, an active step with complete evidence completes
within its storage if the receipts that its bindings read still store their results; otherwise,
as after a completion that dropped them, it does not. -/
theorem evidence_completes_iff_retained (sha256 : String → String) (flow : AgentFlow)
    (accepted : accepts flow = true) (created : Instant) (operations : List TimedOperation)
    (path : String) (ref : StepRef) (found : findStep flow path = some ref)
    (active : (runFlow sha256 flow created operations).currentStep = some path)
    (evidenced : Evidenced sha256 flow created operations ref) (now : Instant) :
    (Retained sha256 flow created operations ref → CompletesWithinStorage
        (completeFlowStep sha256 flow (runFlow sha256 flow created operations)
          ⟨none, .object []⟩ now)) ∧
      (¬ Retained sha256 flow created operations ref → ∀ completion,
        completeFlowStep sha256 flow (runFlow sha256 flow created operations)
          ⟨none, .object []⟩ now ≠ .ok completion) := by
  obtain ⟨listed, rfl⟩ := listed_of_findStep found
  constructor
  · intro retained
    have targeted : ((none : Option String).or
        (runFlow sha256 flow created operations).currentStep).filter (fun path =>
          decide (path ≠ "") && decide (some path =
            (runFlow sha256 flow created operations).currentStep)) = some ref.path := by
      simp [active, listed_path_ne_empty listed]
    have supplied : suppliedOutputs sha256 ⟨none, .object []⟩ = .ok [] := rfl
    simp only [completeFlowStep, targeted, found, evidenced.settled, supplied]
    split
    · exact Or.inl ⟨_, rfl⟩
    · next incomplete =>
      have kept := retained.resolve_left (by simpa using incomplete)
      have each : ∀ binding ∈ ref.step.outputBindings, ∃ value,
          boundValue sha256 (runFlow sha256 flow created operations) ref [] binding = .ok value ∧
            value.isJson = true ∧ isNullish value = false := by
        intro binding member
        obtain ⟨receipt, only, settledBy⟩ := evidenced.evident binding member
        have candidate : receipt ∈ bindingCandidates (runFlow sha256 flow created operations) ref
            binding := only ▸ List.mem_singleton_self receipt
        obtain ⟨known, eligible⟩ := List.mem_filter.mp candidate
        simp only [Bool.and_eq_true, decide_eq_true_eq] at eligible
        obtain ⟨result, stored⟩ := Option.ne_none_iff_exists'.mp (kept binding member receipt candidate)
        obtain ⟨first, timed, second, split, made⟩ :=
          run_successesTraced operations receipt known eligible.1.1.1 result stored
        obtain ⟨value, resolved, typed, present⟩ := settledBy first timed second result split made
        refine ⟨value, ?_, valueAtSegments_json (((run_json created operations).2 receipt known).2
          result stored) resolved, present⟩
        simp [boundValue, only, stored, resolved, typed]
      obtain ⟨outputs, verified, json⟩ := bindOutputs_total
        (fun binding member => (each binding member).imp fun _ known => ⟨known.1, known.2.1⟩)
        (show (Value.object []).isJson = true from rfl)
      have complete : ref.step.requiredOutputs.filter (isMissingOutput outputs) = [] := by
        refine List.filter_eq_nil_iff.mpr fun key required => ?_
        obtain ⟨binding, member, rfl⟩ := evidenced.bound key required
        obtain ⟨value, computed, written⟩ :=
          bindOutputs_lookup (bindings_distinct accepted listed) verified binding member
        obtain ⟨same, known, -, present⟩ := each binding member
        cases computed.symm.trans known
        simp [isMissingOutput, written, present]
      simp only [verifiedOutputs, verified, complete]
      exact finishFlowStep_total (run_json created operations) ref ref.path json now
  · intro lost completion completed
    refine lost ?_
    rcases completeFlowStep_cases completed with ⟨_, other, isCurrent, repeated⟩ |
      ⟨other, otherRef, supplied, outputs, receipts, admitted, _⟩
    · rw [active] at isCurrent
      cases isCurrent
      exact Or.inl repeated
    · have samePath : ref.path = other := Option.some.inj (active.symm.trans admitted.current)
      subst samePath
      have sameRef : otherRef = ref := Option.some.inj (admitted.found.symm.trans found)
      subst sameRef
      refine Or.inr fun binding member receipt candidate => ?_
      obtain ⟨_, _, _, only, kept, _⟩ := completion_binds accepted admitted member
      rw [only, List.mem_singleton] at candidate
      simp [candidate, kept]

/-- A lookup whose tool is called once per call, with a transition back to itself. -/
def retriedFlow : AgentFlow :=
  singleTopicFlow "orders" [{ plainStep "lookup" with
        entry := some true
        tools := ["find_order"]
        requiredOutputs := ["order"]
        outputBindings :=
          [{ output := "order", tool := "find_order", resultPath := "$.id",
             valueType := some .string }]
        actionPolicies := [⟨"find_order", none, some .perCall, none, none, []⟩]
        transitions := [⟨"orders.lookup", none, none, none⟩] }]

/-- The completed lookup, entered again, with its reservation replayed. -/
def retriedRun : List TimedOperation :=
  boundOrderRun ++ [⟨.enterStep "orders.lookup", epoch⟩, ⟨.reserve
        { receiptId := "receipt-2", invocationId := "q1w2e3r4t5y6u7i8o9p0a1s3",
          tool := "find_order", arguments := [], capabilityEpoch := 4,
          providerInvocationId := none }, epoch⟩]

def lookupRef : StepRef := (listStepRefs retriedFlow)[0]

/-- The run is at the lookup, with nothing open and one candidate for each binding. -/
def AtLookup (operations : List TimedOperation) : Prop :=
  let state := runFlow Sha256.digest retriedFlow epoch operations
  state.currentStep = some "orders.lookup" ∧ unresolvedReceipts state lookupRef.path = [] ∧
    ∀ binding ∈ lookupRef.step.outputBindings,
      (bindingCandidates state lookupRef binding).length = 1

/-- The only settlement of the run brings the order. -/
theorem retried_evidenced {operations : List TimedOperation} (part : operations ⊆ retriedRun)
    (entered : AtLookup operations) :
    Evidenced Sha256.digest retriedFlow epoch operations lookupRef where
  settled := entered.2.1
  bound := by decide
  evident := by
    intro binding bound
    obtain ⟨receipt, only⟩ := List.length_eq_one_iff.mp (entered.2.2 binding bound)
    refine ⟨receipt, only, fun first timed second result split made => ⟨.string "A7", ?_⟩⟩
    obtain rfl : binding = ⟨"order", "find_order", "$.id", some .string⟩ :=
      List.mem_singleton.mp bound
    have member : timed ∈ retriedRun := part (by simp [split])
    obtain rfl : result = .object [("id", .string "A7")] := by
      have succeeded := made.1
      simp only [retriedRun, boundOrderRun, List.cons_append, List.nil_append, List.mem_cons,
        List.not_mem_nil, or_false] at member
      rcases member with rfl | rfl | rfl | rfl | rfl | rfl | rfl | rfl
      case inr.inr.inr.inr.inl => exact succeeded.2.2.symm
      all_goals cases succeeded
    exact ⟨rfl, rfl, rfl⟩

/-- The lookup completes the first time. -/
theorem found_order_completes : CompletesWithinStorage (completeFlowStep Sha256.digest retriedFlow
      (runFlow Sha256.digest retriedFlow epoch (boundOrderRun.take 5)) ⟨none, .object []⟩
      epoch) := by
  have part : boundOrderRun.take 5 ⊆ retriedRun :=
    fun _ member => List.mem_append_left _ (List.mem_of_mem_take member)
  have entered : AtLookup (boundOrderRun.take 5) ∧ ∀ binding ∈ lookupRef.step.outputBindings,
      ∀ receipt ∈ bindingCandidates (runFlow Sha256.digest retriedFlow epoch
        (boundOrderRun.take 5)) lookupRef binding, receipt.result ≠ none := by
    unfold AtLookup
    decide +kernel
  exact (evidence_completes_iff_retained Sha256.digest retriedFlow (by decide +kernel) epoch
    (boundOrderRun.take 5) "orders.lookup" lookupRef rfl entered.1.1
    (retried_evidenced part entered.1) epoch).1 (Or.inr entered.2)

/-- Completed and entered again, the lookup has the same evidence, but its completion reports
that the result is missing. -/
theorem retried_order_lost :
    accepts retriedFlow = true ∧ findStep retriedFlow "orders.lookup" = some lookupRef ∧
      (runFlow Sha256.digest retriedFlow epoch retriedRun).currentStep = some "orders.lookup" ∧
      Evidenced Sha256.digest retriedFlow epoch retriedRun lookupRef ∧
      (completeFlowStep Sha256.digest retriedFlow
          (runFlow Sha256.digest retriedFlow epoch retriedRun) ⟨none, .object []⟩ epoch).map
          StepCompletion.nextSteps =
        refuse .missingReceiptOutput
          "receipt receipt-1 has no safe result path \"$.id\" for output \"order\"" := by
  have entered : AtLookup retriedRun ∧ (completeFlowStep Sha256.digest retriedFlow
          (runFlow Sha256.digest retriedFlow epoch retriedRun) ⟨none, .object []⟩ epoch).map
          StepCompletion.nextSteps =
        refuse .missingReceiptOutput
          "receipt receipt-1 has no safe result path \"$.id\" for output \"order\"" := by
    unfold AtLookup
    decide +kernel
  exact ⟨by decide +kernel, rfl, entered.1.1, retried_evidenced (List.Subset.refl _) entered.1,
    entered.2⟩

end CallCenter.FlowEvidence
