import CallCenter.FlowReceipts
import CallCenter.FlowStateSchema
import CallCenter.FlowWellFormed

/-!
# Runs keep the schema

Every operation of the runtime takes a valid state to a valid state, except in three
situations. A proof of absence turns an indeterminate receipt into a failed one and
leaves the result that an earlier settlement stored; the completion of a step compacts
the stored result of a failed receipt as if it had succeeded; and a reservation stores
arguments with an own `__proto__` key, which parsing drops before their hash is
compared. The schema rejects all three states.

`KeepsEvidence` excludes these situations. Each transition is then shown to preserve
validity, first for the receipt it rewrites and then for the state.
-/

namespace CallCenter.FlowSchemaRuns

open JsonValues FlowDefinition FlowValidation Timestamps FlowState FlowNavigation FlowActions
  FlowRuntime FlowTransitions FlowReceipts FlowStateSchema FlowPaths FlowWellFormed CanonicalText
  ListRewrites ObjectFields

section ToolNames

theorem isToolName_ne_empty {tool : String} (named : isToolName tool) : tool ≠ "" := by
  rintro rfl
  exact absurd named (by decide)

/-- Every tool that a flow of the right shape grants has a name. -/
theorem grantedTools_named {flow : AgentFlow} (shaped : AgentFlowSchema flow)
    (state : FlowExecutionState) : ∀ tool ∈ grantedTools flow state, tool ≠ "" := by
  have parts := shaped
  simp only [AgentFlowSchema, Bool.and_eq_true] at parts
  obtain ⟨⟨⟨⟨⟨-, always⟩, -⟩, -⟩, nodes⟩, -⟩ := parts
  have global : ∀ tool ∈ alwaysTools flow, tool ≠ "" := by
    intro tool granted
    rw [alwaysTools, mem_distinct] at granted
    cases declared : flow.alwaysTools with
    | none =>
      rw [declared, Option.getD_none] at granted
      have named : ∀ name ∈ DEFAULT_ALWAYS_TOOLS, name ≠ "" := by decide
      exact named tool granted
    | some =>
      rw [declared, Option.all_some, List.all_eq_true] at always
      rw [declared, Option.getD_some] at granted
      exact isToolName_ne_empty (always tool granted)
  have ofStep : ∀ step : FlowStep, stepShape step = true → ∀ tool ∈ step.tools, tool ≠ "" := by
    intro step shape tool offered
    simp only [stepShape, Bool.and_eq_true] at shape
    exact isToolName_ne_empty (List.all_eq_true.mp shape.1.1.1.1.1.1.1.2 tool offered)
  intro tool granted
  unfold grantedTools at granted
  split at granted
  · exact global tool granted
  simp only [mem_distinct, List.mem_append] at granted
  rcases granted with (inAll | fromTopic) | fromStep
  · exact global tool inAll
  · cases selected : topic flow state.nodeId with
    | none => simp [selected] at fromTopic
    | some node =>
      have shapedNode := List.all_eq_true.mp nodes node (List.mem_of_find?_eq_some selected)
      simp only [FlowNodeSchema, Bool.and_eq_true, List.all_eq_true] at shapedNode
      exact isToolName_ne_empty (shapedNode.2 tool (by simpa [selected] using fromTopic))
  · split at fromStep
    · simp at fromStep
    rename_i ref active
    obtain ⟨path, -, found⟩ := Option.bind_eq_some_iff.mp active
    obtain ⟨own, inherited⟩ := listed_stepShape shaped (listed_of_findStep found).1
    rcases List.mem_append.mp fromStep with fromAncestor | offered
    · obtain ⟨ancestor, among, offered⟩ := List.mem_flatMap.mp fromAncestor
      exact ofStep ancestor (inherited ancestor among) tool offered
    · exact ofStep ref.step own tool offered

/-- A capability scope always names a step or a position. -/
theorem flowCapabilityScope_named (state : FlowExecutionState) :
    (flowCapabilityScope state).step ≠ "" := by
  have marked (text : String) : "$flow." ++ text ≠ "" := by
    intro empty
    have lengths := congrArg String.length empty
    simp at lengths
  unfold flowCapabilityScope
  split
  · rename_i path isOpen
    have openPath := (Option.filter_eq_some_iff.mp isOpen).2
    simp only [Bool.and_eq_true, decide_eq_true_eq] at openPath
    exact openPath.1
  split
  · exact marked _
  split
  · exact marked _
  · decide

end ToolNames

section Receipts

variable {sha256 : String → String}

variable {receipt before : FlowActionReceipt} {evidence : Option (String × Nat)}

variable {after current : FlowActionReceipt}

/-- Rewriting keeps the field formats when the new proof and digest have theirs. -/
theorem shape_of_evolves (evolves : Evolves before after) (shape : FlowActionReceiptSchema before)
    (proof : after.reconciliationProofId.all (· ≠ "")) (digest : after.resultHash.all isHexDigest) :
    FlowActionReceiptSchema after := by
  simp only [FlowActionReceiptSchema, Bool.and_eq_true] at shape ⊢
  rw [evolves.id, evolves.key, evolves.step, evolves.tool, evolves.argumentsHash,
    evolves.invocation, evolves.provider]
  exact ⟨⟨shape.1.1, proof⟩, digest⟩

theorem shape_texts (shape : FlowActionReceiptSchema receipt) :
    receipt.reconciliationProofId.all (· ≠ "") = true ∧
      receipt.resultHash.all isHexDigest = true := by
  simp only [FlowActionReceiptSchema, Bool.and_eq_true] at shape
  exact ⟨shape.1.2, shape.2⟩

/-- A result without a payload has no evidence; any other has that of its text. -/
theorem resultEvidence_cases {result : Option Value}
    (evident : resultEvidence sha256 result = .ok evidence) :
    (result = none ∧ evidence = none) ∨
    ∃ value, result = some value ∧ value.isJson = true ∧
      evidence = some (sha256 value.text, value.text.utf8ByteSize) := by
  unfold resultEvidence at evident
  split at evident
  · cases evident
    exact Or.inl ⟨rfl, rfl⟩
  · rename_i value
    split at evident
    · cases evident
    · rename_i computed found
      split at evident
      · cases evident
      · cases evident
        obtain ⟨hash, bytes⟩ := computed
        obtain ⟨json, rfl, rfl⟩ := (valueEvidence_ok_iff sha256 value hash bytes).mp found
        exact Or.inr ⟨value, rfl, json, rfl⟩

/-- A reserved receipt stores no result. -/
theorem reserved_result (valid : ReceiptValid sha256 receipt)
    (reserved : receipt.status = .reserved) :
    receipt.result = none ∧ receipt.resultCompacted = false ∧ receipt.resultHash = none ∧
      receipt.reconciliationProofId = none := by
  have noResult : receipt.result = none := by
    cases stored : receipt.result with
    | none => rfl
    | some value => exact absurd reserved (valid.resultPresent value stored).2.2
  have noProof : receipt.reconciliationProofId = none := by
    cases stored : receipt.reconciliationProofId with
    | none => rfl
    | some =>
      rcases valid.proved (by simp [stored]) with succeeded | ⟨failed, _⟩
      · simp [reserved] at succeeded
      · simp [reserved] at failed
  rcases valid.resultAbsent noResult with ⟨kept, unhashed⟩ | ⟨_, _, succeeded⟩
  · exact ⟨noResult, kept, unhashed, noProof⟩
  · simp [reserved] at succeeded

/-- An unresolved receipt still stores its arguments. -/
theorem unresolved_arguments (valid : ReceiptValid sha256 receipt)
    (unresolved : receipt.status = .reserved ∨ receipt.status = .indeterminate) :
    receipt.arguments ≠ none := by
  intro dropped
  obtain ⟨_, _, succeeded | failed⟩ := valid.argumentsAbsent dropped
  · rcases unresolved with reserved | indeterminate <;> simp_all
  · rcases unresolved with reserved | indeterminate <;> simp_all

theorem dispatchedReceipt_valid (now : Instant) (valid : ReceiptValid sha256 current)
    (undispatched : current.dispatchStartedAt = none) :
    ReceiptValid sha256 (dispatchedReceipt current now) := by
  have attempts := valid.attempts
  rw [undispatched] at attempts
  exact { valid with
      shape := valid.shape
      attempts := by simpa [dispatchedReceipt] using attempts
      dispatched := fun _ => rfl }

section

variable (hex : ∀ text, isHexDigest (sha256 text) = true)
include hex

/-- A settlement replaces the missing result by the supplied one and its evidence. -/
theorem settledReceipt_valid {args : SettleArgs} (now : Instant)
    (valid : ReceiptValid sha256 current) (reserved : current.status = .reserved)
    (evident : resultEvidence sha256 args.supplied = .ok evidence)
    (dispatched : args.status ≠ .failed → current.dispatchStartedAt.isSome = true) :
    ReceiptValid sha256 (settledReceipt current args evidence now) := by
  obtain ⟨noResult, kept, unhashed, noProof⟩ := reserved_result valid reserved
  have settled : args.status.status ≠ .reserved := by cases args.status <;> simp [Settlement.status]
  have stored : current.arguments ≠ none := unresolved_arguments valid (Or.inl reserved)
  have evolves : Evolves current (settledReceipt current args evidence now) :=
    unresolved_evolves (Or.inl reserved) rfl
  have namedProof := (shape_texts valid.shape).1
  refine { valid with
      shape := shape_of_evolves evolves valid.shape namedProof ?_
      argumentsAbsent := fun dropped => absurd dropped stored
      resultPresent := ?_
      resultAbsent := ?_
      dispatched := ?_
      settled := by simpa [settledReceipt] using settled
      proved := by simp [settledReceipt, noProof] }
  · rcases resultEvidence_cases evident with ⟨_, rfl⟩ | ⟨value, _, _, rfl⟩
    · simp [settledReceipt, unhashed]
    · simp [settledReceipt, hex]
  · intro value present
    rcases resultEvidence_cases evident with ⟨omitted, rfl⟩ | ⟨supplied, given, json, rfl⟩
    · simp [settledReceipt, omitted, noResult] at present
    · have same : supplied = value := by simpa [settledReceipt, given] using present
      subst same
      exact ⟨⟨json, rfl, rfl⟩, kept, settled⟩
  · intro absent
    rcases resultEvidence_cases evident with ⟨omitted, rfl⟩ | ⟨supplied, given, json, rfl⟩
    · exact Or.inl ⟨kept, by simp [settledReceipt, unhashed]⟩
    · simp [settledReceipt, given] at absent
  · intro outcome
    apply dispatched
    intro failed
    simp [settledReceipt, failed, Settlement.status] at outcome

/-- A promotion stores the proven result and its evidence. -/
theorem promotedReceipt_valid {args : PromoteArgs} (now : Instant)
    (valid : ReceiptValid sha256 current) (indeterminate : current.status = .indeterminate)
    (dispatched : current.dispatchStartedAt.isSome)
    (evident : resultEvidence sha256 (some args.result) = .ok evidence)
    (named : args.proofId ≠ "") :
    ReceiptValid sha256 (promotedReceipt current args evidence now) := by
  have uncompacted : current.resultCompacted = false := by
    cases stored : current.result with
    | some value => exact (valid.resultPresent value stored).2.1
    | none =>
      rcases valid.resultAbsent stored with ⟨kept, _⟩ | ⟨_, _, succeeded⟩
      · exact kept
      · simp [indeterminate] at succeeded
  have stored : current.arguments ≠ none := unresolved_arguments valid (Or.inr indeterminate)
  have evolves : Evolves current (promotedReceipt current args evidence now) :=
    unresolved_evolves (Or.inr indeterminate) rfl
  rcases resultEvidence_cases evident with ⟨omitted, _⟩ | ⟨value, given, json, rfl⟩
  · cases omitted
  cases given
  exact { valid with
      shape := shape_of_evolves evolves valid.shape (by simp [promotedReceipt, named])
        (by simp [promotedReceipt, hex])
      argumentsAbsent := fun dropped => absurd dropped stored
      resultPresent := by
        intro value present
        cases present
        exact ⟨⟨json, rfl, rfl⟩, uncompacted, by simp [promotedReceipt]⟩
      resultAbsent := by simp [promotedReceipt]
      dispatched := fun _ => dispatched
      settled := by simp [promotedReceipt]
      proved := fun _ => Or.inl rfl }

end

/-- A proof of absence is sound for a receipt that stores no result. -/
theorem absentReceipt_valid {args : AbsenceArgs} (now : Instant)
    (valid : ReceiptValid sha256 current) (indeterminate : current.status = .indeterminate)
    (named : args.proofId ≠ "") (noResult : current.result = none) :
    ReceiptValid sha256 (absentReceipt current args now) := by
  have stored : current.arguments ≠ none := unresolved_arguments valid (Or.inr indeterminate)
  have evolves : Evolves current (absentReceipt current args now) :=
    unresolved_evolves (Or.inr indeterminate) rfl
  have hexDigest := (shape_texts valid.shape).2
  exact { valid with
      shape := shape_of_evolves evolves valid.shape (by simp [absentReceipt, named]) hexDigest
      argumentsAbsent := fun dropped => absurd dropped stored
      resultPresent := by simp [absentReceipt, noResult]
      resultAbsent := by
        rcases valid.resultAbsent noResult with kept | ⟨_, _, succeeded⟩
        · exact fun _ => Or.inl kept
        · simp [indeterminate] at succeeded
      dispatched := by simp [absentReceipt]
      settled := by simp [absentReceipt]
      proved := fun _ => Or.inr ⟨rfl, noResult⟩ }

theorem recoveredReceipt_valid (receiptIds : List String)
    (now : Instant) (valid : ReceiptValid sha256 receipt) :
    ReceiptValid sha256 (recoveredReceipt receiptIds receipt now) := by
  unfold recoveredReceipt
  split
  · rename_i stale
    simp only [isStaleDispatch, Bool.and_eq_true, decide_eq_true_eq] at stale
    obtain ⟨noResult, kept, unhashed, noProof⟩ := reserved_result valid stale.1.2
    have stored : receipt.arguments ≠ none := unresolved_arguments valid (Or.inl stale.1.2)
    exact { valid with
        shape := valid.shape
        argumentsAbsent := fun dropped => absurd dropped stored
        resultPresent := by simp [noResult]
        resultAbsent := fun _ => Or.inl ⟨kept, unhashed⟩
        dispatched := fun _ => stale.2
        settled := by simp
        proved := by simp [noProof] }
  · exact valid

section

variable (valid : ReceiptValid sha256 before)
include valid

/-- Compacting the arguments of a receipt with a known outcome. -/
theorem compactArguments_valid (outcome : before.status = .succeeded ∨ before.status = .failed)
    (compacted : compactArguments before = .ok after) : ReceiptValid sha256 after := by
  unfold compactArguments at compacted
  split at compacted
  · cases compacted
    exact valid
  · obtain ⟨bytes, _, rfl⟩ := map_ok_iff.mp compacted
    exact { valid with
        shape := valid.shape
        argumentsParsed := rfl
        argumentsPresent := by simp
        argumentsAbsent := fun _ => ⟨rfl, rfl, outcome⟩ }

/-- Compacting the result is sound for a receipt that succeeded or stores none. -/
theorem compactResult_valid (sound : before.status = .succeeded ∨ before.result = none)
    (compacted : compactResult before = .ok after) : ReceiptValid sha256 after := by
  cases stored : before.result with
  | none =>
    simp only [compactResult, stored] at compacted
    cases compacted
    exact valid
  | some value =>
    obtain ⟨evident, _, _⟩ := valid.resultPresent value stored
    have succeeded : before.status = .succeeded := by simpa [stored] using sound
    have defined : value ≠ .undefined := by
      rintro rfl
      exact absurd evident.1 (by decide)
    unfold compactResult at compacted
    split at compacted
    · simp_all
    · simp_all
    · obtain ⟨bytes, _, rfl⟩ := map_ok_iff.mp compacted
      exact { valid with
          shape := valid.shape
          resultPresent := by simp
          resultAbsent := fun _ => Or.inr ⟨rfl, by simp [evident.2.1], succeeded⟩
          proved := fun _ => Or.inl succeeded }

/-- Completion compacts a receipt soundly unless it failed and stores a result. -/
theorem compactReceipt_valid {path : String}
    (sound : before.step = path → before.status = .failed → before.result = none)
    (compacted : compactReceipt path before = .ok after) : ReceiptValid sha256 after := by
  unfold compactReceipt at compacted
  split at compacted
  · cases compacted
    exact valid
  rename_i concerned
  simp only [not_or, not_not, not_and] at concerned
  obtain ⟨own, known⟩ := concerned
  have outcome : before.status = .succeeded ∨ before.status = .failed := by
    by_cases succeeded : before.status = .succeeded
    · exact Or.inl succeeded
    · exact Or.inr (known succeeded)
  split at compacted
  · cases compacted
  rename_i middle compactedArguments
  have middleValid := compactArguments_valid valid outcome compactedArguments
  obtain ⟨_, _, _, rfl⟩ := compactArguments_kept compactedArguments
  refine compactResult_valid middleValid ?_ compacted
  rcases outcome with succeeded | failed
  · exact Or.inl succeeded
  · exact Or.inr (sound own failed)

end

/-- A fresh reservation carries the evidence of its arguments and nothing else. -/
theorem newReceipt_valid (hex : ∀ text, isHexDigest (sha256 text) = true) {flow : AgentFlow}
    (shaped : AgentFlowSchema flow) {state : FlowExecutionState} {args : ReserveArgs}
    {key hash : String} {bytes : Nat} {now : Instant}
    (admitted : ReservationAdmitted sha256 flow state args key hash bytes now)
    (named : "__proto__" ∉ args.arguments.map Prod.fst) :
    ReceiptValid sha256 (newReceipt state args key hash bytes now) := by
  have parsed : parsedRecord args.arguments = args.arguments := by
    refine List.filter_eq_self.mpr fun field member => decide_eq_true fun same => named ?_
    exact same ▸ List.mem_map_of_mem member
  obtain ⟨json, rfl, rfl⟩ := (valueEvidence_ok_iff sha256 _ hash bytes).mp admitted.evidence
  have keyed : key ≠ "" := by
    obtain ⟨_, hashed⟩ := (hashFlowValue_ok_iff sha256 _ key).mp admitted.key
    rintro rfl
    have digest := hex (idempotencyMaterial (flowCapabilityScope state) args.tool
      (governingMode flow state args.tool) (sha256 (Value.object args.arguments).text)
      args.receiptId).text
    rw [← hashed] at digest
    exact absurd digest (by decide)
  have provider : (args.providerInvocationId.filter (· ≠ "")).all (fun provider =>
      decide (1 ≤ (utf16 provider).length ∧ (utf16 provider).length ≤ 256)) = true := by
    cases given : args.providerInvocationId.filter (· ≠ "") with
    | none => rfl
    | some identity =>
      have bounds := admitted.provider identity (Option.filter_eq_some_iff.mp given).1
      simpa using bounds
  have shape : FlowActionReceiptSchema (newReceipt state args key
      (sha256 (Value.object args.arguments).text) (Value.object args.arguments).text.utf8ByteSize
      now) = true := by
    have scopeNamed := flowCapabilityScope_named state
    have toolNamed := grantedTools_named shaped state args.tool admitted.granted
    have invocation : (some args.invocationId).all isFlowActionInvocationId :=
      admitted.invocation
    simp only [FlowActionReceiptSchema, newReceipt, freshReceipt, Bool.and_eq_true]
    exact ⟨⟨⟨⟨⟨⟨⟨⟨decide_eq_true admitted.named, decide_eq_true keyed⟩,
      decide_eq_true scopeNamed⟩, decide_eq_true toolNamed⟩, hex _⟩, invocation⟩, provider⟩,
      rfl⟩, rfl⟩
  exact
    { shape := shape
      argumentsParsed := congrArg some parsed
      argumentsPresent := by
        intro fields present
        cases present
        exact ⟨⟨json, rfl, rfl⟩, rfl⟩
      argumentsAbsent := by simp [newReceipt, freshReceipt]
      resultPresent := by simp [newReceipt, freshReceipt]
      resultAbsent := fun _ => Or.inl ⟨rfl, rfl⟩
      attempts := rfl
      dispatched := by simp [newReceipt, freshReceipt]
      settled := by simp [newReceipt, freshReceipt]
      proved := by simp [newReceipt, freshReceipt] }

end Receipts

/-- The operation does not separate a payload from its evidence: absence is proved only of
receipts without a result, a step is completed only when its failed receipts store none, and
reserved arguments have no own `__proto__` key. -/
def EvidenceSafe (state : FlowExecutionState) (timed : TimedOperation) : Prop :=
  match timed.operation with
  | .reserve args => "__proto__" ∉ args.arguments.map Prod.fst
  | .proveAbsent args => ∀ receipt ∈ state.actionReceipts, receipt.id = args.receiptId →
      receipt.status = .indeterminate → receipt.result = none
  | .complete _ => ∀ receipt ∈ state.actionReceipts, some receipt.step = state.currentStep →
      receipt.status = .failed → receipt.result = none
  | _ => True

instance (state : FlowExecutionState) (timed : TimedOperation) :
    Decidable (EvidenceSafe state timed) := by
  unfold EvidenceSafe
  split <;> infer_instance

/-- An operation that returns a state is safe for the evidence; one that fails may be any. -/
def KeepsEvidence (sha256 : String → String) (flow : AgentFlow) (state : FlowExecutionState)
    (timed : TimedOperation) : Prop :=
  (applyOperation sha256 flow state timed).toOption.isSome = true → EvidenceSafe state timed

instance (sha256 : String → String) (flow : AgentFlow) (state : FlowExecutionState)
    (timed : TimedOperation) : Decidable (KeepsEvidence sha256 flow state timed) :=
  inferInstanceAs (Decidable (_ → _))

/-- A promotion names its proof. -/
def NamesProof (timed : TimedOperation) : Prop :=
  ∀ args, timed.operation = .promote args → args.proofId ≠ ""

section States

variable {sha256 : String → String} {flow : AgentFlow} {state next : FlowExecutionState}
  {timed : TimedOperation}

/-- Each transition that is safe for the evidence leaves every receipt valid. -/
theorem transition_receiptsValid (hex : ∀ text, isHexDigest (sha256 text) = true)
    (shaped : AgentFlowSchema flow) (transition : Transition sha256 flow state timed next)
    (named : NamesProof timed) (keeps : EvidenceSafe state timed)
    (valid : ∀ receipt ∈ state.actionReceipts, ReceiptValid sha256 receipt) :
    ∀ receipt ∈ next.actionReceipts, ReceiptValid sha256 receipt := by
  cases transition with
  | unchanged | topicSelected | stepEntered => exact valid
  | actionReserved admitted =>
    intro receipt member
    rcases List.mem_append.mp member with earlier | fresh
    · exact valid receipt earlier
    · rw [List.mem_singleton.mp fresh]
      exact newReceipt_valid hex shaped admitted keeps
  | dispatchStarted held reserved undispatched =>
    exact forall_overwrite held valid
      (dispatchedReceipt_valid _ (valid _ (current_mem held)) undispatched)
  | actionSettled held evident reserved dispatched =>
    exact forall_overwrite held valid
      (settledReceipt_valid hex _ (valid _ (current_mem held)) reserved evident dispatched)
  | actionPromoted held indeterminate dispatched evident =>
    exact forall_overwrite held valid
      (promotedReceipt_valid hex _ (valid _ (current_mem held)) indeterminate dispatched evident
        (named _ rfl))
  | absenceProved held indeterminate dispatched proved =>
    have noResult := keeps _ (current_mem held) held.2 indeterminate
    exact forall_overwrite held valid
      (absentReceipt_valid _ (valid _ (current_mem held)) indeterminate proved noResult)
  | staleMarked =>
    intro receipt member
    obtain ⟨original, earlier, rfl⟩ := List.mem_map.mp member
    exact recoveredReceipt_valid _ _ (valid original earlier)
  | rotated => exact valid
  | @stepCompleted _ now path ref _ outputs receipts admitted =>
    have rewritten := compactCompletedStepReceipts_forall₂ admitted.compacted
    have all : ∀ receipt ∈ receipts, ReceiptValid sha256 receipt := by
      intro receipt member
      obtain ⟨original, earlier, compacted⟩ := exists_before rewritten member
      refine compactReceipt_valid (valid original earlier) ?_ compacted
      rintro rfl failed
      exact keeps original earlier admitted.current.symm failed
    unfold completedState
    split <;> exact all

theorem identitiesDiffer_evolves {left right left' right' : FlowActionReceipt}
    (leftEvolves : Evolves left left') (rightEvolves : Evolves right right')
    (differ : IdentitiesDiffer left right) : IdentitiesDiffer left' right' where
  receiptId := by rw [leftEvolves.id, rightEvolves.id]; exact differ.receiptId
  invocation := by rw [leftEvolves.invocation, rightEvolves.invocation]; exact differ.invocation
  provider := by rw [leftEvolves.provider, rightEvolves.provider]; exact differ.provider

/-- Admission compares a new receipt's identities with those of all earlier ones. -/
theorem transition_identities (transition : Transition sha256 flow state timed next)
    (apart : state.actionReceipts.Pairwise IdentitiesDiffer) :
    next.actionReceipts.Pairwise IdentitiesDiffer := by
  rcases transition_receipts transition with evolved | ⟨args, key, hash, bytes, now, -, admitted, rfl⟩
  · exact pairwise_rewritten (fun _ _ _ _ => identitiesDiffer_evolves) evolved apart
  · refine List.pairwise_append.mpr ⟨apart, List.pairwise_singleton _ _, ?_⟩
    intro receipt earlier fresh isFresh
    rw [List.mem_singleton.mp isFresh]
    refine ⟨admitted.freshId receipt earlier, ?_, ?_⟩
    · intro identity used same
      exact admitted.freshInvocation receipt earlier (used.trans same.symm)
    · intro identity used same
      exact admitted.freshProvider identity same receipt earlier used

/-- Entering a step drops its subtree from every record of completion alike. -/
theorem enteredState_position (position : PositionValid state) (ref : StepRef) (path : String)
    (attempts : Nat) (now : Instant) :
    PositionValid (enteredState state ref path attempts now) where
  completedDistinct := position.completedDistinct.filter _
  completedParsed := fun member => position.completedParsed (List.mem_of_mem_filter member)
  routing := by simp [enteredState, updateCapabilities, updateState]
  active := by simp [enteredState, updateCapabilities, updateState]
  terminal := by simp [enteredState, updateCapabilities, updateState, FlowExecutionState.finished]
  outputs := by
    intro step
    have before := position.outputs step
    rw [hasField_iff] at before ⊢
    simp only [enteredState, updateCapabilities, updateState, List.mem_filter, ← before,
      List.mem_map]
    constructor
    · rintro ⟨entry, ⟨member, outside⟩, rfl⟩
      exact ⟨⟨entry, member, rfl⟩, outside⟩
    · rintro ⟨⟨entry, member, rfl⟩, outside⟩
      exact ⟨entry, ⟨member, outside⟩, rfl⟩
  outputsJson := by
    intro entry member
    exact position.outputsJson entry (List.mem_of_mem_filter member)
  checkpoints := by
    intro checkpoint member
    obtain ⟨known, outside⟩ := List.mem_filter.mp member
    exact List.mem_filter.mpr ⟨position.checkpoints checkpoint known, outside⟩

/-- A completion records the step, its outputs and its checkpoint together. -/
theorem completedState_position (position : PositionValid state) {args : CompleteArgs}
    {path : String} {ref : StepRef} {supplied outputs : List (String × Value)}
    {receipts : List FlowActionReceipt} {now : Instant}
    (admitted : CompletionAdmitted sha256 flow state args path ref supplied outputs receipts now) :
    PositionValid (completedState (recordedCompletion state ref path outputs receipts now)
      (allowedStepPaths sha256 flow (recordedCompletion state ref path outputs receipts now))
      now) := by
  have json := (stateJson_of_budget admitted.budget).1
  have isActive : state.status = .active := by
    cases status : state.status with
    | active => rfl
    | routing =>
      have noStep := (position.routing status).2
      simp [admitted.current] at noStep
    | completed | failed =>
      have noStep := position.terminal (by simp [FlowExecutionState.finished, status])
      simp [admitted.current] at noStep
  have hasTopic := position.active isActive
  have parsed : "__proto__" ∉ distinct (state.completedSteps ++ [path]) := by
    rw [mem_distinct, List.mem_append, List.mem_singleton, not_or]
    refine ⟨position.completedParsed, ?_⟩
    obtain ⟨listed, rfl⟩ := listed_of_findStep admitted.found
    intro same
    have dotted := listed_path_dotted listed
    rw [← same] at dotted
    exact absurd dotted (by decide)
  have recorded : ∀ step, hasField (setField state.outputs path outputs) step = true ↔
      step ∈ distinct (state.completedSteps ++ [path]) := by
    intro step
    have before := position.outputs step
    rw [hasField_iff] at before ⊢
    rw [mem_keys_setField, before, mem_distinct, List.mem_append, List.mem_singleton, or_comm]
  have checkpointed : ∀ checkpoint ∈
      (if ref.step.checkpoint then state.checkpoints ++ [⟨path, now⟩] else state.checkpoints),
      checkpoint.step ∈ distinct (state.completedSteps ++ [path]) := by
    intro checkpoint member
    rw [mem_distinct, List.mem_append]
    split at member
    · rcases List.mem_append.mp member with earlier | fresh
      · exact Or.inl (position.checkpoints checkpoint earlier)
      · rw [List.mem_singleton.mp fresh]
        exact Or.inr List.mem_cons_self
    · exact Or.inl (position.checkpoints checkpoint member)
  unfold completedState at json ⊢
  split
  · exact
      { completedDistinct := nodup_distinct _
        completedParsed := parsed
        routing := by simp [updateCapabilities, updateState]
        active := by simp [updateCapabilities, updateState]
        terminal := fun _ => rfl
        outputs := recorded
        outputsJson := by simpa [*] using json
        checkpoints := checkpointed }
  · exact
      { completedDistinct := nodup_distinct _
        completedParsed := parsed
        routing := by simp [updateCapabilities, updateState, recordedCompletion, isActive]
        active := fun _ => hasTopic
        terminal := by
          simp [updateCapabilities, updateState, recordedCompletion, FlowExecutionState.finished,
            isActive]
        outputs := recorded
        outputsJson := by simpa [*] using json
        checkpoints := checkpointed }

/-- Each transition keeps the rules about the position. -/
theorem transition_position (transition : Transition sha256 flow state timed next)
    (position : PositionValid state) : PositionValid next := by
  cases transition with
  | unchanged => exact position
  | topicSelected =>
    exact { position with
        routing := by simp [updateCapabilities, updateState]
        active := by simp [updateCapabilities, updateState]
        terminal := fun _ => rfl }
  | stepEntered => exact enteredState_position position _ _ _ _
  | stepCompleted admitted => exact completedState_position position admitted
  | _ => exact { position with }

/-- A step that keeps evidence takes a valid state to a valid state. -/
theorem step_valid (hex : ∀ text, isHexDigest (sha256 text) = true)
    (shaped : AgentFlowSchema flow) (named : NamesProof timed)
    (keeps : KeepsEvidence sha256 flow state timed) (valid : StateValid sha256 state) :
    StateValid sha256 (step sha256 flow state timed) := by
  have transition : Transition sha256 flow state timed (step sha256 flow state timed) :=
    step_transition timed
  cases returned : applyOperation sha256 flow state timed with
  | error =>
    rw [step, returned]
    exact valid
  | ok next =>
    have safe : EvidenceSafe state timed := keeps (by rw [returned]; rfl)
    exact
      { toPositionValid := transition_position transition valid.toPositionValid
        receipts := transition_receiptsValid hex shaped transition named safe valid.receipts
        identities := transition_identities transition valid.identities }

end States

/-- In a run of an accepted flow that names the proofs of its promotions and keeps
evidence at every step, every state passes the schema. The digest is only assumed to
be a digest: 64 hexadecimal digits. -/
theorem runs_satisfy_schema (sha256 : String → String)
    (hex : ∀ text, isHexDigest (sha256 text) = true) (flow : AgentFlow)
    (accepted : accepts flow = true) (created : Instant) (operations : List TimedOperation)
    (named : ∀ timed ∈ operations, NamesProof timed)
    (keeps : Runs.Meets (step sha256 flow) (KeepsEvidence sha256 flow)
      (createFlowExecutionState created) operations) (before after : List TimedOperation)
    (split : operations = before ++ after) :
    FlowExecutionStateSchema sha256 (runFlow sha256 flow created before) = true := by
  subst split
  have shaped : AgentFlowSchema flow = true := ((accepts_iff flow).mp accepted).1
  have initial : StateValid sha256 (createFlowExecutionState created) := by
    constructor
    · constructor <;> simp [createFlowExecutionState, FlowExecutionState.finished, hasField]
    · simp [createFlowExecutionState]
    · simp [createFlowExecutionState]
  have namedBefore : ∀ timed ∈ before, NamesProof timed := fun timed member =>
    named timed (List.mem_append_left _ member)
  have met := Runs.meets_and_inputs namedBefore (Runs.meets_left keeps)
  have valid : StateValid sha256 (runFlow sha256 flow created before) :=
    Runs.run_invariant_meets (StateValid sha256) initial
      (fun _ _ condition => step_valid hex shaped condition.1 condition.2) before met
  exact valid.schema

/-- Texts that the order calls below hash, with their digests. -/
def orderDigests : List (String × String) :=
  [("\x7b\x7d", "44136fa355b3678a1146ad16f7e8649e94fb4fc21fe77e8310c060f61caaff8a"),
    ("true", "b5bea41b6c623f7c09f1bf24dcae58ebab3c0cdd90ad966bc43a45b44867e12b"),
    ("\x7b\"__proto__\":1\x7d", "5a01b4879e11f6261f39c2f190ffde6edb6b012c42064d68312ee2f6eaf1957a"),
    ("\x7b\"receiptId\":\"receipt-1\",\"step\":\"orders.lookup\",\"tool\":\"find_order\"\x7d",
      "7db008957f8b14cdcdda17fca70f99c56521e1de5f46e63b5accc6408ed799cb")]

/-- The digest of a text of the order calls; any other text gets that of the empty one. -/
def orderDigest (text : String) : String :=
  (orderDigests.lookup text).getD "e3b0c44298fc1c149afbf4c8996fb92427ae41e4649b934ca495991b7852b855"

theorem orderDigest_hex (text : String) : isHexDigest (orderDigest text) := by
  have hexTable : ∀ entry ∈ orderDigests, isHexDigest entry.2 = true := by decide +kernel
  unfold orderDigest
  cases listed : orderDigests.lookup text with
  | none => decide +kernel
  | some digest => exact hexTable (text, digest) (mem_of_lookup orderDigests text digest listed)

/-- An order lookup that was reserved with the given arguments. -/
def reservedLookup (arguments : List (String × Value)) : List TimedOperation :=
  [⟨.selectTopic "orders", epoch⟩, ⟨.enterStep "orders.lookup", epoch⟩, ⟨.reserve
      { receiptId := "receipt-1", invocationId := "q1w2e3r4t5y6u7i8o9p0a1s2", tool := "find_order",
        arguments, capabilityEpoch := 2, providerInvocationId := none }, epoch⟩]

/-- An order lookup that was dispatched and then settled with the given outcome. -/
def settledLookup (status : Settlement) (result : Value) : List TimedOperation :=
  reservedLookup [] ++ [⟨.markDispatchStarted "receipt-1", epoch⟩,
    ⟨.settle { receiptId := "receipt-1", status, result, error := none }, epoch⟩]

/-- The lookup is proved absent. -/
def provedAbsent : TimedOperation :=
  ⟨.proveAbsent { receiptId := "receipt-1", proofId := "proof-1" }, epoch⟩

/-- The lookup step is completed without supplied outputs. -/
def completedLookup : TimedOperation := ⟨.complete ⟨none, .undefined⟩, epoch⟩

/-- The calls of the order flow end in a state that raises these issues and fails the schema. -/
def RejectedFor (operations : List TimedOperation) (issues : List Issue) : Prop :=
  let state := runFlow orderDigest orderFlow epoch operations
  stateIssues orderDigest (parsedState state) = issues ∧
    FlowExecutionStateSchema orderDigest state = false

theorem rejectedFor_of_issues {operations : List TimedOperation} {issue : Issue} {rest : List Issue}
    (raised : stateIssues orderDigest (parsedState (runFlow orderDigest orderFlow epoch operations)) =
      issue :: rest) : RejectedFor operations (issue :: rest) :=
  ⟨raised, by simp [FlowExecutionStateSchema, raised]⟩

/-- A result stored by an indeterminate settlement survives the proof of absence, one
stored by a failed settlement is compacted as a success, and arguments with an own
`__proto__` key lose it before their hash is compared. -/
theorem stored_result_breaks_schema : accepts orderFlow = true ∧
    RejectedFor (settledLookup .indeterminate (.bool true) ++ [provedAbsent])
      [⟨[.field "actionReceipts", .index 0, .field "result"],
        "authoritatively absent actions cannot carry a committed result"⟩] ∧
    RejectedFor (settledLookup .failed (.bool true) ++ [completedLookup])
      [⟨[.field "actionReceipts", .index 0, .field "resultCompacted"],
        "compacted result evidence is invalid"⟩] ∧
    RejectedFor (reservedLookup [("__proto__", .ofNat 1)])
      [⟨[.field "actionReceipts", .index 0, .field "argumentsHash"],
          "action argument evidence hash is invalid"⟩,
        ⟨[.field "actionReceipts", .index 0, .field "argumentsBytes"],
          "action argument byte evidence is invalid"⟩] := by
  refine ⟨by decide +kernel, ?_, ?_, ?_⟩
  · exact rejectedFor_of_issues (by decide +kernel)
  · exact rejectedFor_of_issues (by decide +kernel)
  · exact rejectedFor_of_issues (by decide +kernel)

/-- A lookup that was settled as indeterminate without a result is proved absent, and
its step is completed: the whole call keeps the schema. -/
theorem absent_lookup_keeps_schema :
    FlowExecutionStateSchema orderDigest (runFlow orderDigest orderFlow epoch
      (settledLookup .indeterminate .undefined ++ [provedAbsent, completedLookup])) = true := by
  have named : ∀ timed ∈ settledLookup .indeterminate .undefined ++ [provedAbsent, completedLookup],
      NamesProof timed := by
    simp [NamesProof, settledLookup, reservedLookup, provedAbsent, completedLookup]
  exact runs_satisfy_schema orderDigest orderDigest_hex orderFlow (by decide +kernel) epoch
    (settledLookup .indeterminate .undefined ++ [provedAbsent, completedLookup]) named
    (by decide +kernel) _ [] (List.append_nil _).symm

end CallCenter.FlowSchemaRuns
