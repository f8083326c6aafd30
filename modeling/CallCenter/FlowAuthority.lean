import CallCenter.FlowCapability
import CallCenter.FlowTransitions

/-!
# Stale grants

The capability epoch stamps what a call may do: a step of a run leaves the scope
and the granted tools alone or opens a later epoch. Two states of one run with the
same epoch therefore grant the same tools at the same step and attempt, and a lease
outlives no change of authority.
-/

namespace CallCenter.FlowAuthority

open FlowDefinition Timestamps FlowState FlowNavigation FlowRuntime FlowTransitions FlowCapability

/-- Scope and tools that the current position grants. -/
def authority (flow : AgentFlow) (state : FlowExecutionState) : CapabilityScope × List String :=
  (flowCapabilityScope state, grantedTools flow state)

variable {sha256 : String → String} {flow : AgentFlow}

/-- A transition keeps the authority of its epoch or opens a later epoch. -/
theorem transition_keeps_authority {state next : FlowExecutionState} {timed : TimedOperation}
    (transition : Transition sha256 flow state timed next) :
    Runs.KeepsStampedView FlowExecutionState.capabilityEpoch (authority flow) state next := by
  cases transition with
  | topicSelected | stepEntered => exact Or.inr (Nat.lt_succ_self _)
  -- Receipts, revisions and timestamps carry no authority.
  | unchanged | actionReserved | dispatchStarted | actionSettled | actionPromoted
  | absenceProved | staleMarked => exact Or.inl ⟨rfl, rfl⟩
  | rotated => exact Or.inr (Nat.lt_succ_self _)
  | stepCompleted =>
    right
    unfold completedState
    split <;> exact Nat.lt_succ_self _

/-- Within one run, equal capability epochs mean equal scope and equal tools; hence a
lease minted for a granted tool is accepted at a later state only while that state
still grants the tool at the same step and attempt. -/
theorem stale_grant_safety (sha256 : String → String) (flow : AgentFlow) (created : Instant)
    (before after : List TimedOperation) :
    ((runFlow sha256 flow created (before ++ after)).capabilityEpoch =
        (runFlow sha256 flow created before).capabilityEpoch →
      flowCapabilityScope (runFlow sha256 flow created (before ++ after)) =
          flowCapabilityScope (runFlow sha256 flow created before) ∧
        grantedTools flow (runFlow sha256 flow created (before ++ after)) =
          grantedTools flow (runFlow sha256 flow created before)) ∧
    ∀ (host : LeaseHost) (session checked : CapabilitySession) (tool asked secret : String)
      (options : SignOptions) (nowSeconds : Nat) (lease : SignedCapability)
      (accepted : FlowCapabilityClaims),
      tool ∈ grantedTools flow (runFlow sha256 flow created before) →
      signFlowCapability host
        (subjectAt session (runFlow sha256 flow created before) tool) options = .ok lease →
      host.ReadsBack lease.claims →
      verifyFlowCapability host lease.token
        (subjectAt checked (runFlow sha256 flow created (before ++ after)) asked) secret
        nowSeconds = .ok accepted →
      asked = tool ∧ asked ∈ grantedTools flow (runFlow sha256 flow created (before ++ after)) ∧
        flowCapabilityScope (runFlow sha256 flow created (before ++ after)) =
          flowCapabilityScope (runFlow sha256 flow created before) := by
  have sameAuthority (sameEpoch : (runFlow sha256 flow created (before ++ after)).capabilityEpoch =
      (runFlow sha256 flow created before).capabilityEpoch) :
      authority flow (runFlow sha256 flow created (before ++ after)) =
        authority flow (runFlow sha256 flow created before) := by
    rw [runFlow, Runs.run_append] at sameEpoch ⊢
    exact Runs.equal_stamp_equal_view
      (fun state timed => transition_keeps_authority (step_transition timed)) _ after sameEpoch
  refine ⟨fun sameEpoch => Prod.mk.inj (sameAuthority sameEpoch), ?_⟩
  intro host session checked tool asked secret options nowSeconds lease accepted granted minted
    reads verified
  have sameSubject := verify_minted_subject minted reads verified
  have sameTool : tool = asked := congrArg CapabilitySubject.tool sameSubject
  have sameEpoch := congrArg CapabilitySubject.capabilityEpoch sameSubject
  obtain ⟨sameScope, sameTools⟩ := Prod.mk.inj (sameAuthority sameEpoch.symm)
  refine ⟨sameTool.symm, ?_, sameScope⟩
  rw [sameTools, ← sameTool]
  exact granted

/-- A call that opened its lookup step at the start of 2026. -/
def orderTime : Instant := ⟨"2026-01-01T00:00:00.000Z", by decide⟩

/-- Digests of the texts that the order call hashes. -/
def orderDigest (text : String) : String :=
  if text = "\x7b\x7d" then "44136fa355b3678a1146ad16f7e8649e94fb4fc21fe77e8310c060f61caaff8a"
  else "7db008957f8b14cdcdda17fca70f99c56521e1de5f46e63b5accc6408ed799cb"

/-- Select the topic and open the lookup step. -/
def orderEntry : List TimedOperation :=
  [⟨.selectTopic "orders", orderTime⟩, ⟨.enterStep "orders.lookup", orderTime⟩]

/-- Reserve the order lookup. -/
def orderReservation : List TimedOperation :=
  [⟨.reserve
    { receiptId := "receipt-1", invocationId := "q1w2e3r4t5y6u7i8o9p0a1s2", tool := "find_order",
      arguments := [], capabilityEpoch := 2, providerInvocationId := none }, orderTime⟩]

def orderSession : CapabilitySession where
  callId := "call-1"
  agentId := "agent-1"
  orgId := "org-1"
  runtimeDigest := "d92c6a81b2ff50096bcda80885427d1f59a25b5f483f7055523504925d16ab23"

/-- Claims of the lease for the order lookup. -/
def orderClaims : FlowCapabilityClaims where
  subject :=
    subjectAt orderSession (runFlow orderDigest FlowValidation.orderFlow orderTime orderEntry)
      "find_order"
  nonce := "nonce-1"
  iat := 1767225600
  exp := 1767225900

/-- The keyed digest of the encoded claims. -/
def orderSignature : List Nat :=
  [210, 90, 254, 83, 195, 239, 104, 14, 225, 188, 3, 187, 40, 23, 248, 181, 199, 6, 159, 136, 34,
    53, 114, 109, 9, 247, 145, 134, 201, 220, 160, 85]

/-- The host's answers for the order lease. -/
def orderHost : LeaseHost where
  decodeText := fun _ => orderClaims.toValue.print
  decodeBytes := fun _ => orderSignature
  signature := fun _ _ => .ok orderSignature
  parseJson := fun _ => some orderClaims.toValue

/-- Secret and clock of the order lease. -/
def orderOptions : SignOptions where
  secret := "5f1d7c0b9a3e4826b7d1f0c4e8a29b63d5f7081c2e4a6b9d"
  nowSeconds := 1767225600
  ttlSeconds := none
  nonce := "nonce-1"

/-- The order lease. -/
def orderLease : SignedCapability :=
  ⟨Base64Url.encodeText orderClaims.toValue.print ++ "." ++ Base64Url.encode orderSignature,
    orderClaims⟩

/-- After the lookup is reserved the lease is still accepted, and the tool is granted
at the same step and attempt. -/
theorem order_lease_still_granted : "find_order" ∈ grantedTools FlowValidation.orderFlow
      (runFlow orderDigest FlowValidation.orderFlow orderTime (orderEntry ++ orderReservation)) ∧
    flowCapabilityScope
      (runFlow orderDigest FlowValidation.orderFlow orderTime (orderEntry ++ orderReservation)) =
        ⟨"orders.lookup", 1⟩ := by
  have safety := stale_grant_safety orderDigest FlowValidation.orderFlow orderTime orderEntry
    orderReservation
  have sameEpoch : (runFlow orderDigest FlowValidation.orderFlow orderTime
      (orderEntry ++ orderReservation)).capabilityEpoch =
      (runFlow orderDigest FlowValidation.orderFlow orderTime orderEntry).capabilityEpoch := by
    decide +kernel
  obtain ⟨sameScope, _⟩ := safety.1 sameEpoch
  have sameSubject : subjectAt orderSession (runFlow orderDigest FlowValidation.orderFlow orderTime
      (orderEntry ++ orderReservation)) "find_order" = orderClaims.subject := by
    rw [subjectAt, sameEpoch, sameScope]
    rfl
  have minted : signFlowCapability orderHost orderClaims.subject orderOptions = .ok orderLease :=
    rfl
  have reads : orderHost.ReadsBack orderClaims := ⟨rfl, rfl⟩
  have verified : verifyFlowCapability orderHost orderLease.token orderClaims.subject
      orderOptions.secret 1767225660 = .ok orderClaims :=
    verify_minted_accepted minted rfl reads (by decide) rfl (by decide) (by decide) (by decide)
  rw [← sameSubject] at verified
  have granted := safety.2 orderHost orderSession orderSession "find_order" "find_order" _ _ _ _ _
    (by decide +kernel) minted reads verified
  refine ⟨granted.2.1, ?_⟩
  rw [sameScope]
  decide +kernel

end CallCenter.FlowAuthority
