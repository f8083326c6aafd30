import CallCenter.CanonicalText
import CallCenter.FlowRuntime

/-!
# What an operation can do

Every step of a run is one of eleven transitions: nothing happens, or one of the
ten operations succeeds under its guards and revises the state in its own way.
Invariants of runs are proved by cases on `Transition`; no later proof opens the
operations again.
-/

namespace CallCenter.FlowTransitions

open JsonValues FlowDefinition Timestamps FlowState FlowNavigation FlowActions FlowRuntime
  ListRewrites

/-- The conditions under which a step may be entered. -/
structure EntryAdmitted (sha256 : String → String) (flow : AgentFlow)
    (state : FlowExecutionState) (path : String) (ref : StepRef) : Prop where
  running : state.finished = false
  found : findStep flow path = some ref
  resolved : ∀ current, state.openStep = some current → unresolvedReceipts state current = []
  allowed : path ∈ allowedStepPaths sha256 flow state ∨
    (isRetry state path = true ∧ some ref.nodeId = state.nodeId)
  ancestors : ∀ ancestor ∈ ancestorPaths ref, ancestor ∈ state.completedSteps
  withinAttempts : entryAttempts state path ≤ attemptLimit ref.step
  withinEntries : ∀ limit, flow.maxStepEntries = some limit → limit ≠ 0 →
    stepEntriesSoFar state + 1 ≤ limit

/-- The policy that governs a tool at the current position. -/
def governingPolicy (flow : AgentFlow) (state : FlowExecutionState) (tool : String) :
    Option FlowActionPolicy :=
  resolvedPolicy flow (state.openStep.bind (findStep flow)) tool

/-- The deduplication mode of a tool at the current position. -/
def governingMode (flow : AgentFlow) (state : FlowExecutionState) (tool : String) : Idempotency :=
  ((governingPolicy flow state tool).bind FlowActionPolicy.idempotency).getD .none

/-- The receipt of a fresh reservation at the current position. -/
def newReceipt (state : FlowExecutionState) (args : ReserveArgs)
    (idempotencyKey argumentsHash : String) (argumentsBytes : Nat) (now : Instant) :
    FlowActionReceipt :=
  freshReceipt state (flowCapabilityScope state) args idempotencyKey argumentsHash argumentsBytes now

/-- The conditions under which a request appends a fresh reservation. -/
structure ReservationAdmitted (sha256 : String → String) (flow : AgentFlow)
    (state : FlowExecutionState) (args : ReserveArgs) (idempotencyKey argumentsHash : String)
    (argumentsBytes : Nat) (now : Instant) : Prop where
  currentEpoch : args.capabilityEpoch = state.capabilityEpoch
  named : args.receiptId ≠ ""
  invocation : isFlowActionInvocationId args.invocationId = true
  provider : ∀ provider, args.providerInvocationId = some provider →
    1 ≤ (utf16 provider).length ∧ (utf16 provider).length ≤ 256
  granted : args.tool ∈ grantedTools flow state
  evidence : valueEvidence sha256 (.object args.arguments) = .ok (argumentsHash, argumentsBytes)
  freshId : ∀ receipt ∈ state.actionReceipts, receipt.id ≠ args.receiptId
  freshInvocation : ∀ receipt ∈ state.actionReceipts, receipt.invocationId ≠ some args.invocationId
  freshProvider : ∀ provider, args.providerInvocationId.filter (· ≠ "") = some provider →
    ∀ receipt ∈ state.actionReceipts, receipt.providerInvocationId ≠ some provider
  key : actionIdempotencyKey sha256 (flowCapabilityScope state) args.tool
    (governingMode flow state args.tool) argumentsHash args.receiptId = .ok idempotencyKey
  freshKey : ∀ receipt ∈ state.actionReceipts,
    isCallScoped (governingMode flow state args.tool) = true ∨
      receipt.capabilityEpoch = state.capabilityEpoch →
    receipt.idempotencyKey = idempotencyKey → receipt.status = .failed
  withinCalls : ∀ limit,
    (governingPolicy flow state args.tool).bind FlowActionPolicy.maxCalls = some limit →
    admittedCalls state (isCallScoped (governingMode flow state args.tool))
      (flowCapabilityScope state).step args.tool < limit
  withinReceipts : state.actionReceipts.length < MAX_FLOW_ACTION_RECEIPTS_PER_CALL
  budget : withinBudget (reservedState state
    (newReceipt state args idempotencyKey argumentsHash argumentsBytes now) now) = .ok ()

/-- The first receipt with the given identity. -/
def Holds (state : FlowExecutionState) (receiptId : String)
    (located : Located FlowActionReceipt) : Prop :=
  state.actionReceipts = located.overwrite located.current ∧ located.current.id = receiptId

variable {state : FlowExecutionState} {receiptId : String} {located : Located FlowActionReceipt}

section

variable (held : Holds state receiptId located)
include held

/-- The located receipt is one of the state's. -/
theorem current_mem :
    located.current ∈ state.actionReceipts := by
  rw [held.1]
  exact List.mem_append_right _ List.mem_cons_self

/-- An overwritten list holds the replacement and receipts of the state. -/
theorem mem_overwrite {replacement receipt : FlowActionReceipt}
    (member : receipt ∈ located.overwrite replacement) :
    receipt = replacement ∨ receipt ∈ state.actionReceipts := by
  rw [held.1]
  rcases List.mem_append.mp member with before | rest
  · exact Or.inr (List.mem_append_left _ before)
  rcases List.mem_cons.mp rest with replaced | after
  · exact Or.inl replaced
  · exact Or.inr (List.mem_append_right _ (List.mem_cons_of_mem _ after))

/-- Overwriting one receipt keeps what holds of all receipts and of the replacement. -/
theorem forall_overwrite {Property : FlowActionReceipt → Prop} {replacement : FlowActionReceipt}
    (each : ∀ receipt ∈ state.actionReceipts, Property receipt) (replaced : Property replacement) :
    ∀ receipt ∈ located.overwrite replacement, Property receipt := by
  intro receipt member
  rcases mem_overwrite held member with rfl | earlier
  · exact replaced
  · exact each receipt earlier

end

/-- The conditions under which the open step is completed with the given outputs. -/
structure CompletionAdmitted (sha256 : String → String) (flow : AgentFlow)
    (state : FlowExecutionState) (args : CompleteArgs) (path : String) (ref : StepRef)
    (supplied outputs : List (String × Value)) (receipts : List FlowActionReceipt)
    (now : Instant) : Prop where
  current : state.currentStep = some path
  nonempty : path ≠ ""
  incomplete : path ∉ state.completedSteps
  found : findStep flow path = some ref
  resolved : unresolvedReceipts state path = []
  accepted : suppliedOutputs sha256 args = .ok supplied
  verified : verifiedOutputs sha256 state ref supplied = .ok outputs
  complete : ∀ key ∈ ref.step.requiredOutputs, isMissingOutput outputs key = false
  compacted : compactCompletedStepReceipts path state.actionReceipts = .ok receipts
  budget : withinBudget (completedState (recordedCompletion state ref path outputs receipts now)
      (allowedStepPaths sha256 flow (recordedCompletion state ref path outputs receipts now))
      now) = .ok ()

/-- One step of a run: which operation succeeded, under which guards, and what it
made of the state. -/
inductive Transition (sha256 : String → String) (flow : AgentFlow) (state : FlowExecutionState) :
    TimedOperation → FlowExecutionState → Prop
  | unchanged (timed : TimedOperation) : Transition sha256 flow state timed state
  | topicSelected {nodeId : String} {now : Instant} {node : FlowNode}
      (running : state.finished = false)
      (found : topic flow (some nodeId) = some node)
      (closed : state.status = .active → state.openStep = none) :
      Transition sha256 flow state ⟨.selectTopic nodeId, now⟩ (updateCapabilities
          { state with status := .active, nodeId := some node.id, currentStep := none } now)
  | stepEntered {path : String} {now : Instant} {ref : StepRef}
      (admitted : EntryAdmitted sha256 flow state path ref) :
      Transition sha256 flow state ⟨.enterStep path, now⟩
        (enteredState state ref path (entryAttempts state path) now)
  | actionReserved {args : ReserveArgs} {now : Instant} {key hash : String} {bytes : Nat}
      (admitted : ReservationAdmitted sha256 flow state args key hash bytes now) :
      Transition sha256 flow state ⟨.reserve args, now⟩
        (reservedState state (newReceipt state args key hash bytes now) now)
  | dispatchStarted {receiptId : String} {now : Instant} {located : Located FlowActionReceipt}
      (held : Holds state receiptId located)
      (reserved : located.current.status = .reserved)
      (undispatched : located.current.dispatchStartedAt = none) :
      Transition sha256 flow state ⟨.markDispatchStarted receiptId, now⟩
        (revisedState state located (dispatchedReceipt located.current now) now)
  | actionSettled {args : SettleArgs} {now : Instant} {located : Located FlowActionReceipt}
      {evidence : Option (String × Nat)}
      (held : Holds state args.receiptId located)
      (evident : resultEvidence sha256 args.supplied = .ok evidence)
      (reserved : located.current.status = .reserved)
      (dispatched : args.status ≠ .failed → located.current.dispatchStartedAt.isSome = true)
      (budget : withinBudget (revisedState state located
        (settledReceipt located.current args evidence now) now) = .ok ()) :
      Transition sha256 flow state ⟨.settle args, now⟩
        (revisedState state located (settledReceipt located.current args evidence now) now)
  | actionPromoted {args : PromoteArgs} {now : Instant} {located : Located FlowActionReceipt}
      {evidence : Option (String × Nat)}
      (held : Holds state args.receiptId located)
      (indeterminate : located.current.status = .indeterminate)
      (dispatched : located.current.dispatchStartedAt.isSome = true)
      (evident : resultEvidence sha256 (some args.result) = .ok evidence)
      (budget : withinBudget (revisedState state located
        (promotedReceipt located.current args evidence now) now) = .ok ()) :
      Transition sha256 flow state ⟨.promote args, now⟩
        (revisedState state located (promotedReceipt located.current args evidence now) now)
  | absenceProved {args : AbsenceArgs} {now : Instant} {located : Located FlowActionReceipt}
      (held : Holds state args.receiptId located)
      (indeterminate : located.current.status = .indeterminate)
      (dispatched : located.current.dispatchStartedAt.isSome = true)
      (proved : args.proofId ≠ "") :
      Transition sha256 flow state ⟨.proveAbsent args, now⟩
        (revisedState state located (absentReceipt located.current args now) now)
  | staleMarked {receiptIds : List String} {now : Instant} :
      Transition sha256 flow state ⟨.markStale receiptIds, now⟩ (updateState { state with
            actionReceipts := state.actionReceipts.map fun receipt =>
              recoveredReceipt receiptIds receipt now } now)
  | rotated {now : Instant} :
      Transition sha256 flow state ⟨.rotate, now⟩ (updateCapabilities state now)
  | stepCompleted {args : CompleteArgs} {now : Instant} {path : String} {ref : StepRef}
      {supplied outputs : List (String × Value)} {receipts : List FlowActionReceipt}
      (admitted : CompletionAdmitted sha256 flow state args path ref supplied outputs receipts now) :
      Transition sha256 flow state ⟨.complete args, now⟩
        (completedState (recordedCompletion state ref path outputs receipts now)
          (allowedStepPaths sha256 flow (recordedCompletion state ref path outputs receipts now))
          now)

section Inversion

variable {sha256 : String → String} {flow : AgentFlow} {state : FlowExecutionState}

variable {now : Instant} {update : ReceiptUpdate} {path receiptId : String} {args : ReserveArgs}

/-- A selected topic leaves the state alone or closes the previous position. -/
theorem selectFlowTopic_transition {nodeId : String} {next : FlowExecutionState}
    (selected : selectFlowTopic sha256 flow state nodeId now = .ok next) :
    Transition sha256 flow state ⟨.selectTopic nodeId, now⟩ next := by
  unfold selectFlowTopic at selected
  split at selected
  · cases selected
  rename_i running
  split at selected
  · cases selected
  rename_i node found
  split at selected
  · cases selected
  split at selected
  · cases selected
    exact .unchanged _
  split at selected
  · cases selected
  rename_i closed
  dsimp only at selected
  split at selected
  · cases selected
  · cases selected
    refine .topicSelected (by simpa using running) found ?_
    intro active
    rwa [if_pos active] at closed

/-- An entered step passed every guard. -/
theorem enterFlowStep_admitted {entry : StepEntry}
    (entered : enterFlowStep sha256 flow state path now = .ok entry) :
    ∃ ref, EntryAdmitted sha256 flow state path ref ∧
      entry.state = enteredState state ref path (entryAttempts state path) now := by
  unfold enterFlowStep at entered
  dsimp only at entered
  split at entered
  · cases entered
  rename_i running
  split at entered
  · cases entered
  rename_i ref found
  split at entered
  · cases entered
  rename_i resolved
  split at entered
  · cases entered
  rename_i inTopic
  split at entered
  · cases entered
  rename_i reachable
  split at entered
  · cases entered
  rename_i ancestors
  split at entered
  · cases entered
  rename_i withinAttempts
  split at entered
  · cases entered
  rename_i withinEntries
  cases entered
  refine ⟨ref, ?_, rfl⟩
  refine
    { running := by simpa using running
      found := found
      resolved := ?_
      allowed := ?_
      ancestors := ?_
      withinAttempts := by omega
      withinEntries := ?_ }
  · intro current isOpen
    simpa [isOpen] using resolved
  · by_cases listed : path ∈ allowedStepPaths sha256 flow state
    · exact Or.inl listed
    · right
      simp only [listed, not_false_eq_true, and_true] at inTopic reachable
      exact ⟨by simpa using reachable, by simpa using inTopic⟩
  · intro ancestor member
    have completed := List.find?_eq_none.mp ancestors ancestor member
    simpa using completed
  · intro limit limited nonzero
    rw [limited] at withinEntries
    simpa [nonzero] using withinEntries

/-- A step that passes every guard is entered. -/
theorem enterFlowStep_of_admitted {ref : StepRef} (now : Instant)
    (admitted : EntryAdmitted sha256 flow state path ref) :
    ∃ entry, enterFlowStep sha256 flow state path now = .ok entry ∧
      entry.state = enteredState state ref path (entryAttempts state path) now := by
  have unresolved : (state.openStep.map (unresolvedReceipts state)).getD [] = [] := by
    cases isOpen : state.openStep with
    | none => rfl
    | some current => exact admitted.resolved current isOpen
  have inTopic : ¬(some ref.nodeId ≠ state.nodeId ∧ path ∉ allowedStepPaths sha256 flow state) := by
    rintro ⟨elsewhere, unlisted⟩
    rcases admitted.allowed with listed | ⟨_, sameNode⟩
    · exact unlisted listed
    · exact elsewhere sameNode
  have reachable : ¬(isRetry state path = false ∧ path ∉ allowedStepPaths sha256 flow state) := by
    rintro ⟨fresh, unlisted⟩
    rcases admitted.allowed with listed | ⟨retried, _⟩
    · exact unlisted listed
    · rw [retried] at fresh
      cases fresh
  have ancestors : (ancestorPaths ref).find?
      (fun ancestor => !state.completedSteps.contains ancestor) = none := by
    rw [List.find?_eq_none]
    intro ancestor member
    simpa using admitted.ancestors ancestor member
  have withinEntries : flow.maxStepEntries.filter (fun limit =>
      decide (limit ≠ 0) && decide (limit < stepEntriesSoFar state + 1)) = none := by
    cases limited : flow.maxStepEntries with
    | none => rfl
    | some limit =>
      by_cases zero : limit = 0
      · simp [zero]
      · have within := admitted.withinEntries limit limited zero
        simp only [Option.filter_some, Bool.and_eq_true, decide_eq_true_eq]
        rw [if_neg]
        omega
  let entered := enteredState state ref path (entryAttempts state path) now
  refine ⟨⟨entered, ref.step, path, grantedTools flow entered,
    allowedStepPaths sha256 flow entered⟩, ?_, rfl⟩
  unfold enterFlowStep
  dsimp only
  rw [if_neg (by simp [admitted.running]), admitted.found]
  dsimp only
  rw [unresolved, if_neg (by simp), if_neg inTopic, if_neg reachable, ancestors]
  dsimp only
  rw [if_neg (Nat.not_lt.mpr admitted.withinAttempts), withinEntries]

/-- Entering succeeds exactly under the guards. -/
theorem enterFlowStep_ok_iff : (∃ entry, enterFlowStep sha256 flow state path now = .ok entry) ↔
      ∃ ref, EntryAdmitted sha256 flow state path ref := by
  constructor
  · rintro ⟨entry, entered⟩
    obtain ⟨ref, admitted, _⟩ := enterFlowStep_admitted entered
    exact ⟨ref, admitted⟩
  · rintro ⟨ref, admitted⟩
    obtain ⟨entry, entered, _⟩ := enterFlowStep_of_admitted now admitted
    exact ⟨entry, entered⟩

/-- A request that repeats no identity is new to every receipt. -/
theorem replayedIdentity_none {scope : CapabilityScope}
    {argumentsHash : String} (fresh : replayedIdentity state scope args argumentsHash = none) :
    (∀ receipt ∈ state.actionReceipts, receipt.id ≠ args.receiptId) ∧
      (∀ receipt ∈ state.actionReceipts, receipt.invocationId ≠ some args.invocationId) ∧
      ∀ provider, args.providerInvocationId.filter (· ≠ "") = some provider →
        ∀ receipt ∈ state.actionReceipts, receipt.providerInvocationId ≠ some provider := by
  unfold replayedIdentity at fresh
  dsimp only at fresh
  split at fresh
  · split at fresh <;> cases fresh
  rename_i freshId
  split at fresh
  · split at fresh <;> cases fresh
  rename_i freshInvocation
  refine ⟨by simpa using freshId, by simpa using freshInvocation, ?_⟩
  intro provider given
  rw [given] at fresh
  dsimp only at fresh
  split at fresh
  · rename_i freshProvider
    simpa using freshProvider
  · split at fresh <;> cases fresh

variable {reservation : FlowActionReservation}

/-- A replayed identity hands back a known receipt and no right to execute. -/
theorem replayedIdentity_replay {scope : CapabilityScope} {argumentsHash : String}
    (replayed : replayedIdentity state scope args argumentsHash = some (.ok reservation)) :
    reservation.state = state ∧ reservation.execute = false ∧
      reservation.receipt ∈ state.actionReceipts ∧
      semanticIdentityMatches scope args.tool argumentsHash reservation.receipt = true := by
  unfold replayedIdentity at replayed
  dsimp only at replayed
  split at replayed
  · rename_i receipt found
    split at replayed
    · cases replayed
    · rename_i agrees
      cases replayed
      exact ⟨rfl, rfl, List.mem_of_find?_eq_some found,
        by simpa [replayReservation] using (not_or.mp agrees).2⟩
  split at replayed
  · rename_i receipt found
    split at replayed
    · cases replayed
    · rename_i agrees
      cases replayed
      exact ⟨rfl, rfl, List.mem_of_find?_eq_some found, by simpa [replayReservation] using agrees⟩
  split at replayed
  · cases replayed
  split at replayed
  · cases replayed
  rename_i receipt found
  split at replayed
  · cases replayed
  · rename_i agrees
    cases replayed
    exact ⟨rfl, rfl, List.mem_of_find?_eq_some found,
      by simpa [replayReservation] using (not_or.mp agrees).2⟩

/-- A live receipt has the deduplication key of a request that repeats no receipt id. -/
structure SharesKey (sha256 : String → String) (flow : AgentFlow) (state : FlowExecutionState)
    (args : ReserveArgs) (argumentsHash : String) (receipt : FlowActionReceipt) : Prop where
  key : actionIdempotencyKey sha256 (flowCapabilityScope state) args.tool
    (governingMode flow state args.tool) argumentsHash args.receiptId = .ok receipt.idempotencyKey
  live : receipt.status ≠ .failed
  inScope : isCallScoped (governingMode flow state args.tool) = true ∨
    receipt.capabilityEpoch = state.capabilityEpoch
  freshId : ∀ other ∈ state.actionReceipts, other.id ≠ args.receiptId

/-- A request that was answered with an earlier receipt: one with the same semantics
under a repeated identity, or a live one with the same deduplication key. -/
structure ReservationReplayed (sha256 : String → String) (flow : AgentFlow)
    (state : FlowExecutionState) (args : ReserveArgs) (reservation : FlowActionReservation)
    (argumentsHash : String) : Prop where
  evidence : ∃ bytes, valueEvidence sha256 (.object args.arguments) = .ok (argumentsHash, bytes)
  kept : reservation.state = state
  unexecuted : reservation.execute = false
  known : reservation.receipt ∈ state.actionReceipts
  identified : semanticIdentityMatches (flowCapabilityScope state) args.tool argumentsHash
        reservation.receipt = true ∨
      SharesKey sha256 flow state args argumentsHash reservation.receipt

/-- A successful reservation replays a known receipt without the right to execute,
or records a fresh receipt under every admission rule. -/
theorem reserveFlowAction_cases
    (reserved : reserveFlowAction sha256 flow state args now = .ok reservation) :
    (∃ hash, ReservationReplayed sha256 flow state args reservation hash) ∨
    ∃ key hash bytes, ReservationAdmitted sha256 flow state args key hash bytes now ∧
      reservation = ⟨reservedState state (newReceipt state args key hash bytes now) now,
        newReceipt state args key hash bytes now, true, false⟩ := by
  unfold reserveFlowAction at reserved
  dsimp only at reserved
  split at reserved
  · cases reserved
  rename_i currentEpoch
  split at reserved
  · cases reserved
  rename_i named
  split at reserved
  · cases reserved
  rename_i invocation
  split at reserved
  · cases reserved
  rename_i provider
  split at reserved
  · cases reserved
  split at reserved
  · cases reserved
  rename_i granted
  split at reserved
  · cases reserved
  rename_i hash bytes evidence
  split at reserved
  · cases reserved
  split at reserved
  · rename_i outcome replayed
    subst reserved
    obtain ⟨kept, unexecuted, known, agrees⟩ := replayedIdentity_replay replayed
    exact Or.inl ⟨hash, ⟨bytes, evidence⟩, kept, unexecuted, known, Or.inl agrees⟩
  rename_i fresh
  obtain ⟨freshId, freshInvocation, freshProvider⟩ := replayedIdentity_none fresh
  split at reserved
  · cases reserved
  rename_i key keyed
  unfold admitFlowAction at reserved
  dsimp only at reserved
  split at reserved
  · rename_i receipt existing
    cases reserved
    have live := List.find?_some existing
    simp only [Bool.and_eq_true, Bool.or_eq_true, decide_eq_true_eq] at live
    refine Or.inl ⟨hash, ⟨bytes, evidence⟩, rfl, rfl, List.mem_of_find?_eq_some existing,
      Or.inr ⟨?_, live.2, live.1.1, freshId⟩⟩
    rw [replayReservation, live.1.2]
    exact keyed
  rename_i freshKey
  split at reserved
  · cases reserved
  rename_i withinCalls
  split at reserved
  · cases reserved
  rename_i withinReceipts
  obtain ⟨_, budget, rfl⟩ := map_ok_iff.mp reserved
  refine Or.inr ⟨key, hash, bytes, ?_, rfl⟩
  refine
    { currentEpoch := by simpa using currentEpoch
      named := named
      invocation := by simpa using invocation
      provider := ?_
      granted := by simpa using granted
      evidence := evidence
      freshId := freshId
      freshInvocation := freshInvocation
      freshProvider := freshProvider
      key := keyed
      freshKey := ?_
      withinCalls := ?_
      withinReceipts := by omega
      budget := budget }
  · intro identity given
    simp only [given, Option.any_some, decide_eq_true_eq, not_or] at provider
    omega
  · intro receipt member inScope sameKey
    have notLive := List.find?_eq_none.mp freshKey receipt member
    by_contra live
    apply notLive
    rcases inScope with callScoped | sameEpoch
    · simp only [governingMode, governingPolicy] at callScoped
      simp [callScoped, sameKey, live]
    · simp [sameEpoch, sameKey, live]
  · intro limit limited
    rw [governingPolicy] at limited
    rw [limited] at withinCalls
    simpa [governingMode, governingPolicy] using withinCalls

variable {located : Located FlowActionReceipt}

/-- The receipt that an identity locates. -/
theorem locateReceipt_holds (found : locateReceipt state receiptId = .ok located) :
    Holds state receiptId located := by
  unfold locateReceipt at found
  split at found
  · cases found
  · rename_i cut
    cases found
    obtain ⟨restored, named, _⟩ := locate_some cut
    exact ⟨restored, by simpa using named⟩

theorem locateIndeterminate_holds (found : locateIndeterminate state receiptId = .ok located) :
    Holds state receiptId located ∧ located.current.status = .indeterminate ∧
      located.current.dispatchStartedAt.isSome = true := by
  unfold locateIndeterminate at found
  split at found
  · cases found
  rename_i cut
  split at found
  · cases found
  rename_i indeterminate
  split at found
  · cases found
  rename_i dispatched
  cases found
  exact ⟨locateReceipt_holds cut, by simpa using indeterminate,
    by simpa [Option.isSome_iff_ne_none] using dispatched⟩

/-- A crossing of the boundary revises a reserved receipt that has not crossed it. -/
theorem markFlowActionDispatchStarted_cases
    (marked : markFlowActionDispatchStarted state receiptId now = .ok update) :
    ∃ located, Holds state receiptId located ∧ located.current.status = .reserved ∧
      located.current.dispatchStartedAt = none ∧
      update = ⟨revisedState state located (dispatchedReceipt located.current now) now,
        dispatchedReceipt located.current now⟩ := by
  unfold markFlowActionDispatchStarted at marked
  split at marked
  · cases marked
  rename_i located cut
  dsimp only at marked
  split at marked
  · cases marked
  rename_i reserved
  split at marked
  · cases marked
  rename_i undispatched
  cases marked
  exact ⟨located, locateReceipt_holds cut, by simpa using reserved, by simpa using undispatched,
    rfl⟩

/-- A settlement replays a recorded outcome or settles a reserved receipt. -/
theorem settleFlowAction_cases {args : SettleArgs}
    (settled : settleFlowAction sha256 state args now = .ok update) :
    update.state = state ∨
    ∃ located evidence, Holds state args.receiptId located ∧
      resultEvidence sha256 args.supplied = .ok evidence ∧
      located.current.status = .reserved ∧
      (args.status ≠ .failed → located.current.dispatchStartedAt.isSome = true) ∧
      withinBudget (revisedState state located
        (settledReceipt located.current args evidence now) now) = .ok () ∧
      update = ⟨revisedState state located (settledReceipt located.current args evidence now) now,
        settledReceipt located.current args evidence now⟩ := by
  unfold settleFlowAction at settled
  split at settled
  · cases settled
  rename_i located cut
  split at settled
  · cases settled
  split at settled
  · cases settled
  rename_i evidence evident
  dsimp only at settled
  split at settled
  · split at settled
    · cases settled
      exact Or.inl rfl
    · cases settled
  rename_i reserved
  split at settled
  · cases settled
  rename_i dispatched
  obtain ⟨_, budget, rfl⟩ := map_ok_iff.mp settled
  refine Or.inr ⟨located, evidence, locateReceipt_holds cut, evident, by simpa using reserved, ?_,
    budget, rfl⟩
  intro notFailed
  simpa [notFailed, Option.isSome_iff_ne_none] using dispatched

theorem promoteIndeterminateFlowAction_transition {args : PromoteArgs}
    (promoted : promoteIndeterminateFlowAction sha256 state args now = .ok update) :
    Transition sha256 flow state ⟨.promote args, now⟩ update.state := by
  unfold promoteIndeterminateFlowAction at promoted
  split at promoted
  · cases promoted
  rename_i located cut
  split at promoted
  · cases promoted
  rename_i evidence evident
  obtain ⟨_, budget, rfl⟩ := map_ok_iff.mp promoted
  obtain ⟨held, indeterminate, dispatched⟩ := locateIndeterminate_holds cut
  exact .actionPromoted held indeterminate dispatched evident budget

theorem proveIndeterminateFlowActionAbsent_transition {args : AbsenceArgs}
    (proved : proveIndeterminateFlowActionAbsent state args now = .ok update) :
    Transition sha256 flow state ⟨.proveAbsent args, now⟩ update.state := by
  unfold proveIndeterminateFlowActionAbsent at proved
  split at proved
  · cases proved
  rename_i located cut
  split at proved
  · cases proved
  rename_i named
  cases proved
  obtain ⟨held, indeterminate, dispatched⟩ := locateIndeterminate_holds cut
  exact .absenceProved held indeterminate dispatched named

/-- A completion repeats a completed step or records the open one. -/
theorem completeFlowStep_cases {args : CompleteArgs} {completion : StepCompletion}
    (completed : completeFlowStep sha256 flow state args now = .ok completion) :
    (completion.state = state ∧
      ∃ path, state.currentStep = some path ∧ path ∈ state.completedSteps) ∨
    ∃ path ref supplied outputs receipts,
      CompletionAdmitted sha256 flow state args path ref supplied outputs receipts now ∧
      completion.state = completedState (recordedCompletion state ref path outputs receipts now)
        (allowedStepPaths sha256 flow (recordedCompletion state ref path outputs receipts now))
        now := by
  unfold completeFlowStep at completed
  split at completed
  · cases completed
  rename_i path targeted
  have target := Option.filter_eq_some_iff.mp targeted
  simp only [Bool.and_eq_true, decide_eq_true_eq] at target
  split at completed
  · rename_i repeated
    cases completed
    exact Or.inl ⟨rfl, path, target.2.2.symm, by simpa using repeated⟩
  rename_i incomplete
  split at completed
  · cases completed
  rename_i ref found
  dsimp only at completed
  split at completed
  · cases completed
  rename_i resolved
  split at completed
  · cases completed
  rename_i supplied accepted
  split at completed
  · cases completed
  rename_i outputs verified
  split at completed
  · cases completed
  rename_i complete
  unfold finishFlowStep at completed
  split at completed
  · cases completed
  rename_i receipts compacted
  obtain ⟨_, budget, rfl⟩ := map_ok_iff.mp completed
  have samePath : ref.path = path := by simpa using List.find?_some found
  refine Or.inr ⟨path, ref, supplied, outputs, receipts, ?_, rfl⟩
  refine
    { current := target.2.2.symm
      nonempty := target.2.1
      incomplete := by simpa using incomplete
      found := found
      resolved := by simpa [samePath] using resolved
      accepted := accepted
      verified := verified
      complete := ?_
      compacted := compacted
      budget := budget }
  intro key required
  simpa using List.filter_eq_nil_iff.mp (not_not.mp complete) key required

theorem completeFlowStep_transition {args : CompleteArgs} {completion : StepCompletion}
    (completed : completeFlowStep sha256 flow state args now = .ok completion) :
    Transition sha256 flow state ⟨.complete args, now⟩ completion.state := by
  rcases completeFlowStep_cases completed with ⟨kept, _⟩ |
    ⟨path, ref, supplied, outputs, receipts, admitted, recorded⟩
  · rw [kept]
    exact .unchanged _
  · rw [recorded]
    exact .stepCompleted admitted

/-- Every step of a run is one of the transitions. -/
theorem step_transition (timed : TimedOperation) :
    Transition sha256 flow state timed (step sha256 flow state timed) := by
  obtain ⟨operation, now⟩ := timed
  unfold step
  split
  case h_2 => exact .unchanged _
  rename_i next applied
  cases operation with
  | selectTopic => exact selectFlowTopic_transition applied
  | enterStep =>
    obtain ⟨entry, entered, rfl⟩ := map_ok_iff.mp applied
    obtain ⟨ref, admitted, same⟩ := enterFlowStep_admitted entered
    rw [same]
    exact .stepEntered admitted
  | reserve =>
    obtain ⟨reservation, reserved, rfl⟩ := map_ok_iff.mp applied
    rcases reserveFlowAction_cases reserved with ⟨hash, replayed⟩ | ⟨key, hash, bytes, admitted, rfl⟩
    · rw [replayed.kept]
      exact .unchanged _
    · exact .actionReserved admitted
  | markDispatchStarted =>
    obtain ⟨update, marked, rfl⟩ := map_ok_iff.mp applied
    obtain ⟨located, held, reserved, undispatched, rfl⟩ :=
      markFlowActionDispatchStarted_cases marked
    exact .dispatchStarted held reserved undispatched
  | settle =>
    obtain ⟨update, settled, rfl⟩ := map_ok_iff.mp applied
    rcases settleFlowAction_cases settled with
      kept | ⟨located, evidence, held, evident, reserved, dispatched, budget, rfl⟩
    · rw [kept]
      exact .unchanged _
    · exact .actionSettled held evident reserved dispatched budget
  | promote =>
    obtain ⟨update, promoted, rfl⟩ := map_ok_iff.mp applied
    exact promoteIndeterminateFlowAction_transition promoted
  | proveAbsent =>
    obtain ⟨update, proved, rfl⟩ := map_ok_iff.mp applied
    exact proveIndeterminateFlowActionAbsent_transition proved
  | markStale =>
    cases applied
    unfold markStaleDispatchedActionsIndeterminate
    split
    · exact .staleMarked
    · exact .unchanged _
  | rotate =>
    cases applied
    exact .rotated
  | complete =>
    obtain ⟨completion, completed, rfl⟩ := map_ok_iff.mp applied
    exact completeFlowStep_transition completed

end Inversion

end CallCenter.FlowTransitions
