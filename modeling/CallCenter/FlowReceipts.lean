import CallCenter.FlowTransitions

/-!
# How receipts change

A step of a run rewrites the receipts position by position, or appends one fresh
receipt. A rewritten receipt keeps its identity, its key and its evidence of what
was asked; an outcome that is known never changes, and a dispatch boundary that was
crossed stays crossed.
-/

namespace CallCenter.FlowReceipts

open FlowDefinition Timestamps FlowState FlowActions FlowRuntime FlowTransitions ListRewrites

/-- What every rewriting of a receipt preserves. -/
structure Evolves (before after : FlowActionReceipt) : Prop where
  id : after.id = before.id
  key : after.idempotencyKey = before.idempotencyKey
  step : after.step = before.step
  tool : after.tool = before.tool
  epoch : after.capabilityEpoch = before.capabilityEpoch
  argumentsHash : after.argumentsHash = before.argumentsHash
  invocation : after.invocationId = before.invocationId
  provider : after.providerInvocationId = before.providerInvocationId
  outcome : before.status = .succeeded ∨ before.status = .failed → after.status = before.status
  dispatch : before.dispatchStartedAt.isSome = true →
    after.dispatchStartedAt = before.dispatchStartedAt

theorem Evolves.refl (receipt : FlowActionReceipt) : Evolves receipt receipt :=
  ⟨rfl, rfl, rfl, rfl, rfl, rfl, rfl, rfl, fun _ => rfl, fun _ => rfl⟩

variable {before after : FlowActionReceipt}

/-- A receipt that is not failed was not failed before. -/
theorem Evolves.live (evolves : Evolves before after) (live : after.status ≠ .failed) :
    before.status ≠ .failed := by
  intro failed
  exact live ((evolves.outcome (Or.inr failed)).trans failed)

theorem dispatchedReceipt_evolves {current : FlowActionReceipt} (now : Instant)
    (undispatched : current.dispatchStartedAt = none) :
    Evolves current (dispatchedReceipt current now) where
  id := rfl
  key := rfl
  step := rfl
  tool := rfl
  epoch := rfl
  argumentsHash := rfl
  invocation := rfl
  provider := rfl
  outcome := fun _ => rfl
  dispatch := by simp [undispatched]

/-- A receipt without a known outcome may change its status and its result. -/
theorem unresolved_evolves (unresolved : before.status = .reserved ∨ before.status = .indeterminate)
    (rewritten : after = { before with
      status := after.status
      result := after.result
      resultHash := after.resultHash
      resultBytes := after.resultBytes
      error := after.error
      reconciliationProofId := after.reconciliationProofId
      settledAt := after.settledAt }) :
    Evolves before after := by
  rw [rewritten]
  refine ⟨rfl, rfl, rfl, rfl, rfl, rfl, rfl, rfl, ?_, fun _ => rfl⟩
  rintro (succeeded | failed)
  · rcases unresolved with reserved | indeterminate <;> simp_all
  · rcases unresolved with reserved | indeterminate <;> simp_all

theorem recoveredReceipt_evolves (receiptIds : List String) (receipt : FlowActionReceipt)
    (now : Instant) : Evolves receipt (recoveredReceipt receiptIds receipt now) := by
  unfold recoveredReceipt
  split
  · rename_i stale
    simp only [isStaleDispatch, Bool.and_eq_true, decide_eq_true_eq] at stale
    exact unresolved_evolves (Or.inl stale.1.2) rfl
  · exact .refl receipt

/-- Compacting arguments touches their payload, size and flag only. -/
theorem compactArguments_kept (compacted : compactArguments before = .ok after) :
    ∃ arguments bytes flag, after = { before with
      arguments := arguments, argumentsBytes := bytes, argumentsCompacted := flag } := by
  unfold compactArguments at compacted
  split at compacted
  · cases compacted
    exact ⟨_, _, _, rfl⟩
  · obtain ⟨bytes, _, rfl⟩ := map_ok_iff.mp compacted
    exact ⟨_, _, _, rfl⟩

/-- Compacting a receipt touches its payloads, their sizes and flags only, and keeps or drops its
result. -/
theorem compactReceipt_kept {path : String} (compacted : compactReceipt path before = .ok after) :
    ∃ arguments bytes flag result room cut,
      (result = before.result ∨ result = none) ∧ after = { before with
        arguments := arguments, argumentsBytes := bytes, argumentsCompacted := flag
        result := result, resultBytes := room, resultCompacted := cut } := by
  unfold compactReceipt at compacted
  split at compacted
  · cases compacted
    exact ⟨_, _, _, _, _, _, Or.inl rfl, rfl⟩
  split at compacted
  · cases compacted
  rename_i middle compactedArguments
  obtain ⟨_, _, _, rfl⟩ := compactArguments_kept compactedArguments
  unfold compactResult at compacted
  split at compacted
  · cases compacted
    exact ⟨_, _, _, _, _, _, Or.inl rfl, rfl⟩
  · cases compacted
    exact ⟨_, _, _, _, _, _, Or.inr rfl, rfl⟩
  · obtain ⟨_, _, rfl⟩ := map_ok_iff.mp compacted
    exact ⟨_, _, _, _, _, _, Or.inr rfl, rfl⟩

theorem compactReceipt_evolves {path : String}
    (compacted : compactReceipt path before = .ok after) : Evolves before after := by
  obtain ⟨_, _, _, _, _, _, _, rfl⟩ := compactReceipt_kept compacted
  exact ⟨rfl, rfl, rfl, rfl, rfl, rfl, rfl, rfl, fun _ => rfl, fun _ => rfl⟩

/-- Compaction works position by position. -/
theorem compactCompletedStepReceipts_forall₂ {path : String} {before after : List FlowActionReceipt}
    (compacted : compactCompletedStepReceipts path before = .ok after) :
    List.Forall₂ (fun receipt rewritten => compactReceipt path receipt = .ok rewritten)
      before after := by
  induction before generalizing after with
  | nil =>
    cases compacted
    exact .nil
  | cons receipt rest ih =>
    unfold compactCompletedStepReceipts at compacted
    split at compacted
    · cases compacted
    rename_i rewritten first
    obtain ⟨others, later, rfl⟩ := map_ok_iff.mp compacted
    exact .cons first (ih later)

/-- Overwriting one position evolves the list when it evolves that receipt. -/
theorem overwrite_evolves {state : FlowExecutionState} {receiptId : String}
    {located : Located FlowActionReceipt} {replacement : FlowActionReceipt}
    (held : Holds state receiptId located) (evolves : Evolves located.current replacement) :
    List.Forall₂ Evolves state.actionReceipts (located.overwrite replacement) := by
  rw [held.1]
  have same (receipts : List FlowActionReceipt) : List.Forall₂ Evolves receipts receipts :=
    List.forall₂_same.mpr fun receipt _ => .refl receipt
  exact List.rel_append (same located.before) (.cons evolves (same located.after))

variable {sha256 : String → String} {flow : AgentFlow}

/-- A step evolves the receipts in place, or appends a freshly admitted one. -/
theorem transition_receipts {state next : FlowExecutionState} {timed : TimedOperation}
    (transition : Transition sha256 flow state timed next) :
    List.Forall₂ Evolves state.actionReceipts next.actionReceipts ∨
    ∃ args key hash bytes now, timed = ⟨.reserve args, now⟩ ∧
      ReservationAdmitted sha256 flow state args key hash bytes now ∧
      next = reservedState state (newReceipt state args key hash bytes now) now := by
  have kept : List.Forall₂ Evolves state.actionReceipts state.actionReceipts :=
    List.forall₂_same.mpr fun receipt _ => .refl receipt
  cases transition with
  | unchanged | topicSelected | stepEntered => exact Or.inl kept
  | actionReserved admitted => exact Or.inr ⟨_, _, _, _, _, rfl, admitted, rfl⟩
  | dispatchStarted held reserved undispatched =>
    exact Or.inl (overwrite_evolves held (dispatchedReceipt_evolves _ undispatched))
  | actionSettled held evident reserved =>
    exact Or.inl (overwrite_evolves held (unresolved_evolves (Or.inl reserved) rfl))
  | actionPromoted held indeterminate | absenceProved held indeterminate =>
    exact Or.inl (overwrite_evolves held (unresolved_evolves (Or.inr indeterminate) rfl))
  | staleMarked =>
    left
    refine List.forall₂_map_right_iff.mpr (List.forall₂_same.mpr ?_)
    intro receipt _
    exact recoveredReceipt_evolves _ receipt _
  | rotated => exact Or.inl kept
  | stepCompleted admitted =>
    left
    have evolved := (compactCompletedStepReceipts_forall₂ admitted.compacted).imp
      fun _ _ compacted => compactReceipt_evolves compacted
    unfold completedState
    split <;> exact evolved

/-! ## Receipts over a run -/

theorem Evolves.trans {last : FlowActionReceipt} (earlier : Evolves before after)
    (later : Evolves after last) : Evolves before last where
  id := later.id.trans earlier.id
  key := later.key.trans earlier.key
  step := later.step.trans earlier.step
  tool := later.tool.trans earlier.tool
  epoch := later.epoch.trans earlier.epoch
  argumentsHash := later.argumentsHash.trans earlier.argumentsHash
  invocation := later.invocation.trans earlier.invocation
  provider := later.provider.trans earlier.provider
  outcome known := by
    have kept := earlier.outcome known
    exact (later.outcome (by rwa [kept])).trans kept
  dispatch crossed := by
    have kept := earlier.dispatch crossed
    exact (later.dispatch (by rwa [kept])).trans kept

/-- Receipts keep their positions over a run, and each evolves in place. -/
theorem receipts_evolve_in_place (sha256 : String → String) (flow : AgentFlow) (created : Instant)
    (before after : List TimedOperation) :
    let earlier := (runFlow sha256 flow created before).actionReceipts
    List.Forall₂ Evolves earlier
      ((runFlow sha256 flow created (before ++ after)).actionReceipts.take earlier.length) := by
  rw [runFlow, runFlow, Runs.run_append]
  generalize Runs.run (step sha256 flow) (createFlowExecutionState created) before = state
  refine Runs.run_invariant (fun reached : FlowExecutionState => List.Forall₂ Evolves
    state.actionReceipts (reached.actionReceipts.take state.actionReceipts.length)) ?_ ?_ after
  · rw [List.take_length]
    exact List.forall₂_same.mpr fun receipt _ => .refl receipt
  · intro reached timed known
    rcases transition_receipts (step_transition timed) with
      evolved | ⟨args, key, hash, bytes, now, -, -, next⟩
    · exact forall₂_comp (fun _ _ _ earlier later => earlier.trans later) known
        (List.forall₂_take _ evolved)
    · -- The fresh receipt stands behind all that were there before.
      have within := known.length_eq.trans_le (List.length_take_le' _ _)
      rw [next]
      exact (List.take_append_of_le_length within).symm ▸ known

end CallCenter.FlowReceipts
