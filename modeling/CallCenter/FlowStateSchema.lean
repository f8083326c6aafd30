import CallCenter.CanonicalText

/-!
# The schema of a persisted state

`FlowExecutionStateSchema` is checked whenever a state is read or written. Its base
checks are field formats; its refinement rules couple fields across the state and
across the receipts. The rules are kept as the list of issues they raise, each with
its path and text, in the source's order. They read the parsed state, whose records
have lost an own `__proto__` key: arguments with such a key no longer have the hash
that was recorded for them.

`StateValid` states the same rules as propositions. A valid state raises no issue.
-/

namespace CallCenter.FlowStateSchema

open JsonValues FlowState ObjectFields CanonicalText

/-- A component of an issue's path. -/
inductive IssuePart where
  | field (name : String)
  | index (position : Nat)
deriving DecidableEq

/-- A refinement rule that a state breaks. -/
structure Issue where
  path : List IssuePart
  message : String
deriving DecidableEq

/-- A conditional issue. -/
def issueWhen (condition : Bool) (path : List IssuePart) (message : String) : List Issue :=
  if condition then [⟨path, message⟩] else []

/-- Field formats of a receipt. -/
def FlowActionReceiptSchema (receipt : FlowActionReceipt) : Bool :=
  decide (receipt.id ≠ "") && decide (receipt.idempotencyKey ≠ "")
    && decide (receipt.step ≠ "") && decide (receipt.tool ≠ "")
    && isHexDigest receipt.argumentsHash
    && receipt.invocationId.all isFlowActionInvocationId
    && receipt.providerInvocationId.all (fun provider =>
      decide (1 ≤ (utf16 provider).length ∧ (utf16 provider).length ≤ 256))
    && receipt.reconciliationProofId.all (· ≠ "")
    && receipt.resultHash.all isHexDigest

/-- The first value that already occurred before its position. -/
def firstDuplicate : List String → List String → Option String
  | _, [] => none
  | seen, value :: rest =>
    if value ∈ seen then some value else firstDuplicate (value :: seen) rest

/-- Rules about the position and the completed steps. -/
def positionIssues (state : FlowExecutionState) : List Issue :=
  (match (firstDuplicate [] state.completedSteps).filter (· ≠ "") with
    | some step => [⟨[.field "completedSteps"], s!"duplicate completed step \"{step}\""⟩]
    | none => [])
    ++ issueWhen (decide (state.status = .routing ∧
        (state.nodeId ≠ none ∨ state.currentStep ≠ none))) []
      "routing state cannot retain a topic or active step"
    ++ issueWhen (decide (state.status = .active ∧ state.nodeId = none)) [.field "nodeId"]
      "active state requires a selected topic"
    ++ issueWhen (decide ((state.status = .completed ∨ state.status = .failed) ∧
        state.currentStep ≠ none)) [.field "currentStep"]
      "terminal state cannot retain an active step"

/-- Rules that tie outputs to completed steps. -/
def outputIssues (sha256 : String → String) (state : FlowExecutionState) : List Issue :=
  (state.completedSteps.flatMap fun step =>
      issueWhen (!hasField state.outputs step) [.field "outputs", .field step]
        "completed step is missing its durable output record")
    ++ state.outputs.flatMap fun entry =>
      issueWhen (!state.completedSteps.contains entry.1) [.field "outputs", .field entry.1]
          "output record belongs to an incomplete step"
        ++ match hashFlowValue sha256 (.object entry.2) with
          | .ok _ => []
          | .error message => [⟨[.field "outputs", .field entry.1], message⟩]

/-- Checkpoints belong to completed steps. -/
def checkpointIssues (completedSteps : List String) : Nat → List Checkpoint → List Issue
  | _, [] => []
  | index, checkpoint :: rest =>
    issueWhen (!completedSteps.contains checkpoint.step) [.field "checkpoints", .index index]
        "checkpoint belongs to an incomplete step"
      ++ checkpointIssues completedSteps (index + 1) rest

/-- A text that is present and not empty. -/
def present (text : Option String) : Option String := text.filter (· ≠ "")

/-- The identities that earlier receipts use. -/
structure SeenIdentities where
  receiptIds : List String
  invocationIds : List String
  providerInvocationIds : List String

/-- Record the identities of one more receipt. -/
def SeenIdentities.record (seen : SeenIdentities) (receipt : FlowActionReceipt) :
    SeenIdentities where
  receiptIds := receipt.id :: seen.receiptIds
  invocationIds := (present receipt.invocationId).toList ++ seen.invocationIds
  providerInvocationIds :=
    (present receipt.providerInvocationId).toList ++ seen.providerInvocationIds

/-- Identities of a receipt that an earlier receipt uses already. -/
def identityIssues (path : List IssuePart) (seen : SeenIdentities) (receipt : FlowActionReceipt) :
    List Issue :=
  issueWhen (seen.receiptIds.contains receipt.id) (path ++ [.field "id"])
      "duplicate action receipt identity"
    ++ issueWhen ((present receipt.invocationId).any seen.invocationIds.contains)
      (path ++ [.field "invocationId"]) "duplicate downstream invocation identity"
    ++ issueWhen ((present receipt.providerInvocationId).any seen.providerInvocationIds.contains)
      (path ++ [.field "providerInvocationId"]) "duplicate provider invocation identity"

/-- Evidence that a receipt keeps of a payload: its hash and its size. -/
def evidenceIssues (sha256 : String → String) (path : List IssuePart) (value : Value)
    (hash : Option String) (bytes : Option Nat) (payload hashField bytesField hashMessage
    bytesMessage : String) : List Issue :=
  match valueEvidence sha256 value with
  | .error message => [⟨path ++ [.field payload], message⟩]
  | .ok (actualHash, actualBytes) =>
    issueWhen (decide (some actualHash ≠ hash)) (path ++ [.field hashField]) hashMessage
      ++ issueWhen (bytes.any (· ≠ actualBytes)) (path ++ [.field bytesField]) bytesMessage

/-- Rules about the arguments of a receipt. -/
def argumentIssues (sha256 : String → String) (path : List IssuePart)
    (receipt : FlowActionReceipt) : List Issue :=
  match receipt.arguments with
  | none =>
    issueWhen (!receipt.argumentsCompacted || receipt.argumentsBytes.isNone
        || decide (receipt.status = .reserved) || decide (receipt.status = .indeterminate))
      (path ++ [.field "arguments"]) "unsettled action arguments cannot be compacted"
  | some fields =>
    evidenceIssues sha256 path (.object fields) (some receipt.argumentsHash)
        receipt.argumentsBytes "arguments" "argumentsHash" "argumentsBytes"
        "action argument evidence hash is invalid" "action argument byte evidence is invalid"
      ++ issueWhen receipt.argumentsCompacted (path ++ [.field "argumentsCompacted"])
        "action arguments cannot be both present and compacted"

/-- Rules about the result of a receipt. -/
def resultIssues (sha256 : String → String) (path : List IssuePart)
    (receipt : FlowActionReceipt) : List Issue :=
  if receipt.resultCompacted && (receipt.result.isSome
      || (present receipt.resultHash).isNone
      || decide (receipt.status ≠ .succeeded)) then
    [⟨path ++ [.field "resultCompacted"], "compacted result evidence is invalid"⟩]
  else if !receipt.resultCompacted && decide (receipt.result.isSome ≠ receipt.resultHash.isSome) then
    [⟨path ++ [.field "resultHash"],
      "action result and its evidence hash must be present together"⟩]
  else
    match receipt.result with
    | none => []
    | some value =>
      evidenceIssues sha256 path value receipt.resultHash receipt.resultBytes "result"
        "resultHash" "resultBytes" "action result evidence hash is invalid"
        "action result byte evidence is invalid"

/-- Rules about dispatch, settlement and reconciliation of a receipt. -/
def lifecycleIssues (path : List IssuePart) (receipt : FlowActionReceipt) : List Issue :=
  let dispatched := receipt.dispatchStartedAt.isSome
  let attempts := receipt.dispatchAttempt.getD 0
  let proved := (present receipt.reconciliationProofId).isSome
  issueWhen (dispatched && decide (attempts < 1)) (path ++ [.field "dispatchAttempt"])
      "dispatched action needs a positive attempt count"
    ++ issueWhen (!dispatched && decide (attempts ≠ 0)) (path ++ [.field "dispatchAttempt"])
      "undispatched action cannot have dispatch attempts"
    ++ issueWhen (decide (receipt.status = .succeeded ∨ receipt.status = .indeterminate)
        && !dispatched) (path ++ [.field "dispatchStartedAt"])
      s!"{receipt.status.name} action is missing its dispatch boundary"
    ++ issueWhen (decide (receipt.status = .reserved) == receipt.settledAt.isSome)
      (path ++ [.field "settledAt"]) "receipt status and settlement timestamp disagree"
    ++ issueWhen (proved && decide (receipt.status ≠ .succeeded) && decide (receipt.status ≠ .failed))
      (path ++ [.field "reconciliationProofId"])
      "only proof-resolved receipts may carry reconciliation evidence"
    ++ issueWhen (proved && decide (receipt.status = .failed) && receipt.result.isSome)
      (path ++ [.field "result"]) "authoritatively absent actions cannot carry a committed result"

/-- Rules about the receipts, each checked against those before it. -/
def receiptsIssues (sha256 : String → String) :
    Nat → SeenIdentities → List FlowActionReceipt → List Issue
  | _, _, [] => []
  | index, seen, receipt :: rest =>
    let path := [IssuePart.field "actionReceipts", .index index]
    identityIssues path seen receipt ++ argumentIssues sha256 path receipt
      ++ resultIssues sha256 path receipt ++ lifecycleIssues path receipt
      ++ receiptsIssues sha256 (index + 1) (seen.record receipt) rest

/-- All refinement issues of a state. -/
def stateIssues (sha256 : String → String) (state : FlowExecutionState) : List Issue :=
  positionIssues state ++ outputIssues sha256 state
    ++ checkpointIssues state.completedSteps 0 state.checkpoints
    ++ receiptsIssues sha256 0 ⟨[], [], []⟩ state.actionReceipts

/-- Parsing a record leaves out an own `__proto__` key. -/
def parsedRecord {α : Type} (fields : List (String × α)) : List (String × α) :=
  fields.filter fun field => decide (field.1 ≠ "__proto__")

/-- The state that the refinement rules read. -/
def parsedState (state : FlowExecutionState) : FlowExecutionState :=
  { state with
    attempts := parsedRecord state.attempts
    outputs := (parsedRecord state.outputs).map fun entry => (entry.1, parsedRecord entry.2)
    actionReceipts := state.actionReceipts.map fun receipt =>
      { receipt with arguments := receipt.arguments.map parsedRecord } }

/-- The state passes every field format, and parsed it passes every refinement rule. -/
def FlowExecutionStateSchema (sha256 : String → String) (state : FlowExecutionState) : Bool :=
  state.actionReceipts.all FlowActionReceiptSchema &&
    (stateIssues sha256 (parsedState state)).isEmpty

/-- No issue where the condition fails. -/
@[simp] theorem issueWhen_eq_nil {condition : Bool} {path : List IssuePart} {message : String} :
    issueWhen condition path message = [] ↔ condition = false := by
  cases condition <;> simp [issueWhen]

/-- Stored evidence agrees with the payload it describes. -/
def Evident (sha256 : String → String) (value : Value) (hash : Option String)
    (bytes : Option Nat) : Prop :=
  value.isJson = true ∧ hash = some (sha256 value.text) ∧ bytes = some value.text.utf8ByteSize

/-- Evidence that agrees raises no issue. -/
theorem evidenceIssues_eq_nil {sha256 : String → String} {value : Value} {hash : Option String}
    {bytes : Option Nat} (evident : Evident sha256 value hash bytes) (path : List IssuePart)
    (payload hashField bytesField hashMessage bytesMessage : String) :
    evidenceIssues sha256 path value hash bytes payload hashField bytesField hashMessage
      bytesMessage = [] := by
  obtain ⟨json, rfl, rfl⟩ := evident
  have computed : valueEvidence sha256 value = .ok (sha256 value.text, value.text.utf8ByteSize) :=
    (valueEvidence_ok_iff sha256 value _ _).mpr ⟨json, rfl, rfl⟩
  simp [evidenceIssues, computed]

/-- What the rules ask of a receipt on its own. Recorded sizes and attempt counts are
exact, as the operations record them. -/
structure ReceiptValid (sha256 : String → String) (receipt : FlowActionReceipt) : Prop where
  shape : FlowActionReceiptSchema receipt = true
  argumentsParsed : receipt.arguments.map parsedRecord = receipt.arguments
  argumentsPresent : ∀ fields, receipt.arguments = some fields →
    Evident sha256 (.object fields) (some receipt.argumentsHash) receipt.argumentsBytes ∧
      receipt.argumentsCompacted = false
  argumentsAbsent : receipt.arguments = none →
    receipt.argumentsCompacted = true ∧ receipt.argumentsBytes.isSome = true ∧
      (receipt.status = .succeeded ∨ receipt.status = .failed)
  resultPresent : ∀ value, receipt.result = some value →
    Evident sha256 value receipt.resultHash receipt.resultBytes ∧
      receipt.resultCompacted = false ∧ receipt.status ≠ .reserved
  resultAbsent : receipt.result = none →
    (receipt.resultCompacted = false ∧ receipt.resultHash = none) ∨
      (receipt.resultCompacted = true ∧ receipt.resultHash.isSome = true ∧
        receipt.status = .succeeded)
  attempts : receipt.dispatchAttempt.getD 0 = if receipt.dispatchStartedAt.isSome then 1 else 0
  dispatched : receipt.status = .succeeded ∨ receipt.status = .indeterminate →
    receipt.dispatchStartedAt.isSome = true
  settled : receipt.settledAt.isSome = true ↔ receipt.status ≠ .reserved
  proved : receipt.reconciliationProofId.isSome = true →
    receipt.status = .succeeded ∨ (receipt.status = .failed ∧ receipt.result = none)

namespace ReceiptValid

variable {sha256 : String → String} {receipt : FlowActionReceipt}

section

variable (valid : ReceiptValid sha256 receipt)
include valid

/-- The arguments of a valid receipt raise no issue. -/
theorem argumentIssues_eq_nil (path : List IssuePart) :
    argumentIssues sha256 path receipt = [] := by
  cases stored : receipt.arguments with
  | none =>
    obtain ⟨compacted, sized, outcome⟩ := valid.argumentsAbsent stored
    rcases outcome with succeeded | failed
    · simp [argumentIssues, stored, compacted, sized, succeeded, ← Option.not_isSome]
    · simp [argumentIssues, stored, compacted, sized, failed, ← Option.not_isSome]
  | some fields =>
    obtain ⟨evident, kept⟩ := valid.argumentsPresent fields stored
    simp [argumentIssues, stored, evidenceIssues_eq_nil evident, kept]

/-- The recorded digest of a result is not the empty text. -/
theorem present_resultHash : present receipt.resultHash = receipt.resultHash := by
  cases stored : receipt.resultHash with
  | none => rfl
  | some hash =>
    have shape := valid.shape
    simp only [FlowActionReceiptSchema, Bool.and_eq_true, stored, Option.all_some] at shape
    have nonempty : hash ≠ "" := by
      rintro rfl
      exact absurd shape.2 (by decide)
    simp [present, nonempty]

/-- Nor does its result. -/
theorem resultIssues_eq_nil (path : List IssuePart) : resultIssues sha256 path receipt = [] := by
  unfold resultIssues
  rw [valid.present_resultHash]
  cases stored : receipt.result with
  | none =>
    rcases valid.resultAbsent stored with ⟨kept, unhashed⟩ | ⟨compacted, hashed, succeeded⟩
    · simp [kept, unhashed]
    · simp [compacted, hashed, succeeded, ← Option.not_isSome]
  | some value =>
    obtain ⟨evident, kept, -⟩ := valid.resultPresent value stored
    simp [kept, evident.2.1, evidenceIssues_eq_nil ⟨evident.1, rfl, evident.2.2⟩]

/-- Nor does its lifecycle. -/
theorem lifecycleIssues_eq_nil (path : List IssuePart) : lifecycleIssues path receipt = [] := by
  have counted := valid.attempts
  have dispatched := valid.dispatched
  have settled := valid.settled
  have proof : (present receipt.reconciliationProofId).isSome = true →
      receipt.status = .succeeded ∨ (receipt.status = .failed ∧ receipt.result = none) := by
    intro named
    obtain ⟨proofId, kept⟩ := Option.isSome_iff_exists.mp named
    apply valid.proved
    rw [(Option.filter_eq_some_iff.mp kept).1]
    rfl
  simp only [lifecycleIssues, List.append_eq_nil_iff, issueWhen_eq_nil]
  refine ⟨⟨⟨⟨⟨?_, ?_⟩, ?_⟩, ?_⟩, ?_⟩, ?_⟩
  · cases started : receipt.dispatchStartedAt.isSome <;> simp [started, counted]
  · cases started : receipt.dispatchStartedAt.isSome <;> simp [started, counted]
  · cases started : receipt.dispatchStartedAt.isSome <;> simp_all
  · cases status : receipt.status <;> simp_all
  · cases named : (present receipt.reconciliationProofId).isSome with
    | false => simp
    | true => rcases proof named with succeeded | ⟨failed, -⟩ <;> simp_all
  · cases named : (present receipt.reconciliationProofId).isSome with
    | false => simp
    | true => rcases proof named with succeeded | ⟨failed, absent⟩ <;> simp_all

end

end ReceiptValid

/-- Two receipts share no identity. -/
structure IdentitiesDiffer (left right : FlowActionReceipt) : Prop where
  receiptId : left.id ≠ right.id
  invocation : ∀ identity, left.invocationId = some identity → right.invocationId ≠ some identity
  provider : ∀ identity, left.providerInvocationId = some identity →
    right.providerInvocationId ≠ some identity

/-- Every recorded identity belongs to a receipt that differs from the given one. -/
def SeenIdentities.DiffersFrom (seen : SeenIdentities) (receipt : FlowActionReceipt) : Prop :=
  receipt.id ∉ seen.receiptIds ∧
    (∀ identity ∈ seen.invocationIds, receipt.invocationId ≠ some identity) ∧
    ∀ identity ∈ seen.providerInvocationIds, receipt.providerInvocationId ≠ some identity

variable {seen : SeenIdentities}

/-- Fresh identities raise no issue. -/
theorem identityIssues_eq_nil {receipt : FlowActionReceipt}
    (differs : seen.DiffersFrom receipt) (path : List IssuePart) :
    identityIssues path seen receipt = [] := by
  obtain ⟨freshId, freshInvocation, freshProvider⟩ := differs
  simp only [identityIssues, List.append_eq_nil_iff, issueWhen_eq_nil]
  refine ⟨⟨by simpa using freshId, ?_⟩, ?_⟩
  · cases named : present receipt.invocationId with
    | none => rfl
    | some identity =>
      have given := (Option.filter_eq_some_iff.mp named).1
      simpa using fun member => freshInvocation identity member given
  · cases named : present receipt.providerInvocationId with
    | none => rfl
    | some identity =>
      have given := (Option.filter_eq_some_iff.mp named).1
      simpa using fun member => freshProvider identity member given

/-- They stay fresh after another receipt. -/
theorem SeenIdentities.record_differs {receipt other : FlowActionReceipt}
    (differs : seen.DiffersFrom other) (apart : IdentitiesDiffer receipt other) :
    (seen.record receipt).DiffersFrom other := by
  obtain ⟨freshId, freshInvocation, freshProvider⟩ := differs
  refine ⟨?_, ?_, ?_⟩
  · simp only [SeenIdentities.record, List.mem_cons, not_or]
    exact ⟨apart.receiptId.symm, freshId⟩
  · intro identity member
    rcases List.mem_append.mp member with own | earlier
    · exact apart.invocation identity (Option.filter_eq_some_iff.mp (Option.mem_toList.mp own)).1
    · exact freshInvocation identity earlier
  · intro identity member
    rcases List.mem_append.mp member with own | earlier
    · exact apart.provider identity (Option.filter_eq_some_iff.mp (Option.mem_toList.mp own)).1
    · exact freshProvider identity earlier

/-- Valid receipts without a shared identity raise no issue. -/
theorem receiptsIssues_eq_nil {sha256 : String → String} {index : Nat}
    {receipts : List FlowActionReceipt} (valid : ∀ receipt ∈ receipts, ReceiptValid sha256 receipt)
    (differ : ∀ receipt ∈ receipts, seen.DiffersFrom receipt)
    (apart : receipts.Pairwise IdentitiesDiffer) :
    receiptsIssues sha256 index seen receipts = [] := by
  induction receipts generalizing index seen with
  | nil => rfl
  | cons receipt rest ih =>
    obtain ⟨headApart, restApart⟩ := List.pairwise_cons.mp apart
    have own := valid receipt List.mem_cons_self
    have later : receiptsIssues sha256 (index + 1) (seen.record receipt) rest = [] := by
      refine ih (fun other member => valid other (List.mem_cons_of_mem _ member)) ?_ restApart
      intro other member
      exact SeenIdentities.record_differs (differ other (List.mem_cons_of_mem _ member))
        (headApart other member)
    simp [receiptsIssues, identityIssues_eq_nil (differ receipt List.mem_cons_self),
      own.argumentIssues_eq_nil, own.resultIssues_eq_nil, own.lifecycleIssues_eq_nil, later]

/-- What the rules ask of everything but the receipts. -/
structure PositionValid (state : FlowExecutionState) : Prop where
  completedDistinct : state.completedSteps.Nodup
  completedParsed : "__proto__" ∉ state.completedSteps
  routing : state.status = .routing → state.nodeId = none ∧ state.currentStep = none
  active : state.status = .active → state.nodeId ≠ none
  terminal : state.finished = true → state.currentStep = none
  outputs : ∀ step, hasField state.outputs step = true ↔ step ∈ state.completedSteps
  outputsJson : ∀ entry ∈ state.outputs, (Value.object entry.2).isJson = true
  checkpoints : ∀ checkpoint ∈ state.checkpoints, checkpoint.step ∈ state.completedSteps

/-- What the rules ask of a state. -/
structure StateValid (sha256 : String → String) (state : FlowExecutionState) : Prop
    extends PositionValid state where
  receipts : ∀ receipt ∈ state.actionReceipts, ReceiptValid sha256 receipt
  identities : state.actionReceipts.Pairwise IdentitiesDiffer

/-- Distinct values have no duplicate. -/
theorem firstDuplicate_eq_none {values seen : List String} (distinct : values.Nodup)
    (fresh : ∀ value ∈ values, value ∉ seen) : firstDuplicate seen values = none := by
  induction values generalizing seen with
  | nil => rfl
  | cons value rest ih =>
    obtain ⟨new, restDistinct⟩ := List.nodup_cons.mp distinct
    rw [firstDuplicate, if_neg (fresh value List.mem_cons_self)]
    apply ih restDistinct
    intro other member
    rw [List.mem_cons, not_or]
    exact ⟨fun same => new (same ▸ member), fresh other (List.mem_cons_of_mem _ member)⟩

/-- Checkpoints of completed steps raise no issue. -/
theorem checkpointIssues_eq_nil {completedSteps : List String} {index : Nat}
    {checkpoints : List Checkpoint}
    (completed : ∀ checkpoint ∈ checkpoints, checkpoint.step ∈ completedSteps) :
    checkpointIssues completedSteps index checkpoints = [] := by
  induction checkpoints generalizing index with
  | nil => rfl
  | cons checkpoint rest ih =>
    have own := completed checkpoint List.mem_cons_self
    have later : checkpointIssues completedSteps (index + 1) rest = [] :=
      ih fun other member => completed other (List.mem_cons_of_mem _ member)
    simp [checkpointIssues, own, later]

section States

variable {sha256 : String → String} {state : FlowExecutionState}

/-- A valid position raises no issue. -/
theorem PositionValid.positionIssues_eq_nil (valid : PositionValid state) :
    positionIssues (parsedState state) = [] := by
  change positionIssues state = []
  have distinct : firstDuplicate [] state.completedSteps = none :=
    firstDuplicate_eq_none valid.completedDistinct (by simp)
  have routing := valid.routing
  have active := valid.active
  have terminal := valid.terminal
  simp only [FlowExecutionState.finished, decide_eq_true_eq] at terminal
  simp only [positionIssues, distinct, Option.filter_none, List.nil_append,
    List.append_eq_nil_iff, issueWhen_eq_nil, decide_eq_false_iff_not]
  refine ⟨⟨?_, ?_⟩, ?_⟩
  · rintro ⟨isRouting, kept⟩
    obtain ⟨noTopic, noStep⟩ := routing isRouting
    rcases kept with hasTopic | hasStep
    · exact hasTopic noTopic
    · exact hasStep noStep
  · rintro ⟨isActive, noTopic⟩
    exact active isActive noTopic
  · rintro ⟨isTerminal, hasStep⟩
    exact hasStep (terminal isTerminal)

/-- What is left of a JSON record is JSON. -/
theorem parsedRecord_json {fields : List (String × Value)}
    (json : (Value.object fields).isJson = true) :
    (Value.object (parsedRecord fields)).isJson = true := by
  rw [Value.isJson, fieldsAreJson_iff] at json ⊢
  intro field member
  exact json field (List.mem_of_mem_filter member)

/-- Valid outputs raise no issue. -/
theorem PositionValid.outputIssues_eq_nil (valid : PositionValid state) :
    outputIssues sha256 (parsedState state) = [] := by
  simp only [outputIssues, parsedState, List.append_eq_nil_iff, List.flatMap_eq_nil_iff,
    issueWhen_eq_nil]
  refine ⟨?_, ?_⟩
  · intro step completed
    have recorded := (hasField_iff state.outputs step).mp ((valid.outputs step).mpr completed)
    obtain ⟨entry, member, rfl⟩ := List.mem_map.mp recorded
    have named : entry.1 ≠ "__proto__" := fun same => valid.completedParsed (same ▸ completed)
    have parsed : entry ∈ parsedRecord state.outputs :=
      List.mem_filter.mpr ⟨member, decide_eq_true named⟩
    rw [Bool.not_eq_false', hasField_iff, List.map_map]
    exact List.mem_map_of_mem parsed
  · intro kept present
    obtain ⟨entry, parsed, rfl⟩ := List.mem_map.mp present
    have member := List.mem_of_mem_filter parsed
    have completed : entry.1 ∈ state.completedSteps :=
      (valid.outputs entry.1).mp
        ((hasField_iff state.outputs entry.1).mpr (List.mem_map_of_mem member))
    have hashed : hashFlowValue sha256 (.object (parsedRecord entry.2)) =
        .ok (sha256 (Value.object (parsedRecord entry.2)).text) :=
      (hashFlowValue_ok_iff sha256 _ _).mpr
        ⟨parsedRecord_json (valid.outputsJson entry member), rfl⟩
    exact ⟨by simpa using completed, by rw [hashed]⟩

/-- A valid state passes the schema. -/
theorem StateValid.schema (valid : StateValid sha256 state) :
    FlowExecutionStateSchema sha256 state := by
  have parsed : (parsedState state).actionReceipts = state.actionReceipts := by
    refine (List.map_congr_left fun receipt member => ?_).trans (List.map_id _)
    rw [(valid.receipts receipt member).argumentsParsed]
    rfl
  have receipts : receiptsIssues sha256 0 ⟨[], [], []⟩ (parsedState state).actionReceipts = [] := by
    rw [parsed]
    exact receiptsIssues_eq_nil valid.receipts
      (fun receipt _ => ⟨by simp, by simp, by simp⟩) valid.identities
  have shapes : state.actionReceipts.all FlowActionReceiptSchema :=
    List.all_eq_true.mpr fun receipt member => (valid.receipts receipt member).shape
  have checkpoints : checkpointIssues (parsedState state).completedSteps 0
      (parsedState state).checkpoints = [] := checkpointIssues_eq_nil valid.checkpoints
  simp [FlowExecutionStateSchema, stateIssues, shapes, valid.positionIssues_eq_nil,
    valid.outputIssues_eq_nil, checkpoints, receipts]

end States

end CallCenter.FlowStateSchema
