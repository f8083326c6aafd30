import CallCenter.MissionIdentities

/-!
# Idempotency of mission actions

A proposal under the key of a successful receipt is answered by that receipt, so it is
only outstanding proposals that can repeat a success. Every settlement rotates the
capability epoch and thereby withdraws the authority of all proposals authorized before
it; a proposal that still waits for its confirmation keeps its chance. A run in which no
such proposal is confirmed after the success holds at most one success for each key.
-/

namespace CallCenter.MissionIdempotency

open KeyedTables ListRewrites MissionSchema MissionLedger MissionRuntime MissionSettlement
  MissionTransitions MissionIntegrity MissionIdentities

/-- The capability scopes repeated calls by goal or by arguments. -/
def idempotentAction (definition : MissionDefinition) (action : String) : Bool :=
  match capability definition action with
  | .ok item => decide (item.idempotency ≠ .none)
  | .error _ => false

/-- The call confirms a proposal whose key already has a successful receipt. -/
def confirmsRepetition (definition : MissionDefinition) (state : MissionState) :
    MissionOperation → Bool
  | .authorizeMissionAction input =>
    match state.proposals.find? fun candidate => candidate.proposalId = input.proposalId with
    | none => false
    | some proposal =>
      idempotentAction definition proposal.action && state.receipts.any fun receipt =>
        decide (receipt.status = .succeeded)
          && decide (receipt.idempotencyKey = proposal.idempotencyKey)
  | _ => false

/-- Two receipts that record one idempotent action as successful twice. -/
def Repeats (definition : MissionDefinition) (earlier later : MissionReceipt) : Prop :=
  earlier.status = .succeeded ∧ later.status = .succeeded ∧
    idempotentAction definition earlier.action = true ∧
    idempotentAction definition later.action = true ∧
    earlier.idempotencyKey = later.idempotencyKey

/-- No proposal was authorized after the epoch. -/
def GrantedBy (epoch : Nat) (proposals : List MissionProposal) : Prop :=
  ∀ proposal ∈ proposals, proposal.status = .authorized →
    ∀ granted, proposal.authorizedEpoch = some granted → granted ≤ epoch

/-- No success is repeated, and no proposal that may still be settled would repeat one. -/
structure Unrepeated (definition : MissionDefinition) (proposals : List MissionProposal)
    (receipts : List MissionReceipt) (epoch : Nat) : Prop where
  once : receipts.Pairwise fun earlier later => ¬ Repeats definition earlier later
  fresh : ∀ proposal ∈ proposals, proposal.status = .authorized →
    proposal.authorizedEpoch = some epoch → idempotentAction definition proposal.action = true →
    ∀ receipt ∈ receipts, receipt.status = .succeeded →
      receipt.idempotencyKey ≠ proposal.idempotencyKey

variable {sha256 : String → String} {definition : MissionDefinition}
  {state patched : MissionState} {proposals : List MissionProposal}
  {receipts : List MissionReceipt} {epoch : Nat}

/-- When the epoch rotates, every earlier authorization lapses. -/
theorem Unrepeated.rotate {later : List MissionReceipt}
    (once : later.Pairwise fun earlier later => ¬ Repeats definition earlier later)
    (granted : GrantedBy epoch proposals) : Unrepeated definition proposals later (epoch + 1) := by
  refine ⟨once, ?_⟩
  intro proposal member authorized named
  have bound := granted proposal member authorized (epoch + 1) named
  omega

/-- Revoking proposals authorizes none. -/
theorem GrantedBy.revoked (granted : GrantedBy epoch proposals) :
    GrantedBy epoch (proposals.map revokeOpen) := by
  intro _ member authorized epoch named
  obtain ⟨proposal, known, rfl⟩ := List.mem_map.mp member
  unfold revokeOpen at authorized named
  split at authorized
  · cases authorized
  · next kept =>
    rw [if_neg kept] at named
    exact granted proposal known authorized epoch named

/-- Settled proposals are no longer authorized. -/
theorem GrantedBy.settled {proposalId : String} {input : SettleInput}
    (granted : GrantedBy epoch proposals) :
    GrantedBy epoch (rewriteProposal proposals proposalId (settleProposal input)) := by
  intro _ member authorized epoch named
  obtain ⟨proposal, known, rfl⟩ := List.mem_map.mp member
  split at authorized
  · simp only [settleProposal] at authorized
    split at authorized
    · cases authorized
    · cases authorized
  · next other =>
    rw [if_neg other] at named
    exact granted proposal known authorized epoch named

variable {operation : MissionOperation} {rotate : Bool}

/-- New authorizations are granted in the epoch of the state. -/
theorem transition_granted
    (transition : MissionTransition sha256 definition state operation patched rotate)
    (granted : GrantedBy state.capabilityEpoch state.proposals) :
    GrantedBy state.capabilityEpoch patched.proposals := by
  cases transition with
  | factRecorded => exact granted.revoked
  | actionProposed =>
    intro proposal member authorized epoch named
    rcases List.mem_append.mp member with known | last
    · exact granted proposal known authorized epoch named
    · rw [List.mem_singleton.mp last] at named
      simp only [newProposal] at named
      split at named
      · cases named
        exact Nat.le_refl _
      · cases named
  | actionAuthorized =>
    intro _ member authorized epoch named
    obtain ⟨proposal, known, rfl⟩ := List.mem_map.mp member
    split at named
    · cases named
      exact Nat.le_refl _
    · next different =>
      rw [if_neg different] at authorized
      exact granted proposal known authorized epoch named
  | actionSettled => exact granted.settled
  | _ => exact granted

variable {proposal : MissionProposal}

section

variable (unrepeated : Unrepeated definition proposals receipts epoch)
include unrepeated

/-- A settlement of an authorized proposal repeats no success. -/
theorem settled_once {later : List MissionReceipt} {receipt : MissionReceipt}
    (member : proposal ∈ proposals) (authorized : proposal.status = .authorized)
    (live : proposal.authorizedEpoch = some epoch)
    (kept : List.Forall₂ Compensates receipts later) (action : receipt.action = proposal.action)
    (key : receipt.idempotencyKey = proposal.idempotencyKey) :
    (later ++ [receipt]).Pairwise fun earlier later => ¬ Repeats definition earlier later := by
  refine List.pairwise_append.mpr ⟨?_, List.pairwise_singleton _ _, ?_⟩
  · refine pairwise_rewritten ?_ kept unrepeated.once
    -- A receipt that is still successful was not rewritten.
    rintro first second _ _ (rfl | rfl) (rfl | rfl) apart
    · exact apart
    · exact fun repeats => by cases repeats.2.1
    · exact fun repeats => by cases repeats.1
    · exact fun repeats => by cases repeats.1
  · intro earlier known last single repeats
    rw [List.mem_singleton.mp single] at repeats
    obtain ⟨succeeded, _, _, idempotent, same⟩ := repeats
    obtain ⟨original, before, rfl | rfl⟩ := exists_before kept known
    · rw [action] at idempotent
      rw [key] at same
      exact unrepeated.fresh proposal member authorized live idempotent _ before succeeded same
    · cases succeeded

/-- A new proposal under a key that answered no receipt repeats no success. -/
theorem Unrepeated.add (first : idempotentAction definition proposal.action = true →
      ∀ receipt ∈ receipts, receipt.status = .succeeded →
        receipt.idempotencyKey ≠ proposal.idempotencyKey) :
    Unrepeated definition (proposals ++ [proposal]) receipts epoch := by
  refine ⟨unrepeated.once, ?_⟩
  intro other member authorized live idempotent
  rcases List.mem_append.mp member with known | last
  · exact unrepeated.fresh other known authorized live idempotent
  · rw [List.mem_singleton.mp last] at idempotent ⊢
    exact first idempotent

end

/-- Confirming a proposal whose key has no success keeps successes unrepeated. -/
theorem Unrepeated.authorize {evidenceId : String}
    (unrepeated : Unrepeated definition state.proposals state.receipts state.capabilityEpoch)
    (distinct : DistinctKeys MissionProposal.proposalId state.proposals)
    (member : proposal ∈ state.proposals)
    (first : idempotentAction definition proposal.action = true →
      ∀ receipt ∈ state.receipts, receipt.status = .succeeded →
        receipt.idempotencyKey ≠ proposal.idempotencyKey) :
    Unrepeated definition
      (rewriteProposal state.proposals proposal.proposalId (authorizeProposal state evidenceId))
      state.receipts state.capabilityEpoch := by
  refine ⟨unrepeated.once, ?_⟩
  intro _ known authorized live idempotent
  obtain ⟨other, before, rfl⟩ := List.mem_map.mp known
  split at idempotent
  · next same =>
    rw [if_pos same]
    have equal : other = proposal := distinct.same_row before member same
    rw [equal] at idempotent ⊢
    exact first idempotent
  · next different =>
    rw [if_neg different] at authorized live ⊢
    exact unrepeated.fresh other before authorized live idempotent

/-- A transition that confirms no repetition keeps successes unrepeated. -/
theorem transition_unrepeated
    (transition : MissionTransition sha256 definition state operation patched rotate)
    (identified : Identified state.proposals state.receipts)
    (granted : GrantedBy state.capabilityEpoch state.proposals)
    (unrepeated : Unrepeated definition state.proposals state.receipts state.capabilityEpoch)
    (confirmed : confirmsRepetition definition state operation = false) :
    Unrepeated definition patched.proposals patched.receipts
      (if rotate then state.capabilityEpoch + 1 else state.capabilityEpoch) := by
  have lapsed : GrantedBy state.capabilityEpoch patched.proposals :=
    transition_granted transition granted
  cases transition with
  | activated | factRecorded | obligationOpened => exact .rotate unrepeated.once lapsed
  | actionProposed input item decisions decision goalId proposalId declared available disclosed
      allowed focused first identity unused =>
    refine unrepeated.add ?_
    intro idempotent receipt member succeeded same
    obtain ⟨_, name⟩ := capability_ok declared
    have keyed : item.idempotency ≠ .none := by
      have action : idempotentAction definition item.name := idempotent
      rw [name, idempotentAction, declared] at action
      simpa using action
    rw [replayedReceipt, if_neg keyed, List.find?_eq_none] at first
    have key : receipt.idempotencyKey = proposedKey sha256 item goalId input := same
    refine first receipt member ?_
    simp [succeeded, key]
  | actionAuthorized input proposal item confirmation found =>
    refine unrepeated.authorize identified.proposalIds (List.mem_of_find?_eq_some found) ?_
    intro idempotent receipt member succeeded same
    have repetition : confirmsRepetition definition state (.authorizeMissionAction input) =
        true := by
      simp only [confirmsRepetition, found, idempotent, Bool.true_and, List.any_eq_true,
        Bool.and_eq_true, decide_eq_true_eq]
      exact ⟨receipt, member, succeeded, same⟩
    rw [confirmed] at repetition
    cases repetition
  | actionSettled input proposal item obligations receipts found authorized focused current
      identity unused declared settled =>
    refine .rotate ?_ lapsed
    exact settled_once unrepeated (List.mem_of_find?_eq_some found) authorized current
      (settlement_receipts settled) rfl rfl
  | goalCompleted | goalAbandoned | missionCompleted => exact .rotate unrepeated.once lapsed

/-- Identities are sound, no authorization is newer than the epoch, and no success is
repeated. -/
structure IdempotentSoFar (definition : MissionDefinition) (state : MissionState) : Prop where
  identified : Identified state.proposals state.receipts
  granted : GrantedBy state.capabilityEpoch state.proposals
  unrepeated : Unrepeated definition state.proposals state.receipts state.capabilityEpoch

/-- Authorizations are never newer than the epoch that follows. -/
theorem GrantedBy.rotated (granted : GrantedBy epoch proposals) :
    GrantedBy (if rotate then epoch + 1 else epoch) proposals := by
  intro proposal member authorized named grant
  have bound := granted proposal member authorized named grant
  split
  · omega
  · exact bound

theorem missionStep_idempotent (known : IdempotentSoFar definition state)
    (confirmed : confirmsRepetition definition state operation = false) :
    IdempotentSoFar definition (missionStep sha256 definition state operation) := by
  refine missionStep_keeps (IdempotentSoFar definition) known fun patched rotate events transition => ?_
  have identified := transition_identified transition known.identified
  have granted := transition_granted transition known.granted
  have unrepeated := transition_unrepeated transition known.identified known.granted
    known.unrepeated confirmed
  exact ⟨identified, granted.rotated, unrepeated⟩

theorem createMissionState_idempotent {recordedAt : String}
    (created : createMissionState sha256 definition recordedAt = .ok state) :
    IdempotentSoFar definition state := by
  have identified := (createMissionState_wellIdentified created).identified
  obtain rfl := eq_openedMission created
  refine ⟨identified, ?_, List.Pairwise.nil, ?_⟩
  · intro proposal member
    cases member
  · intro proposal member
    cases member

/-- The successful receipts of idempotent capabilities under a key. -/
def successesUnder (definition : MissionDefinition) (state : MissionState) (key : String) :
    List MissionReceipt :=
  state.receipts.filter fun receipt =>
    decide (receipt.status = .succeeded) && idempotentAction definition receipt.action
      && decide (receipt.idempotencyKey = key)

/-- Unrepeated successes are at most one for each key. -/
theorem Unrepeated.length_successes
    (unrepeated : Unrepeated definition state.proposals state.receipts epoch) (key : String) :
    (successesUnder definition state key).length ≤ 1 := by
  have apart : (successesUnder definition state key).Pairwise
      fun earlier later => ¬ Repeats definition earlier later := unrepeated.once.filter _
  have passes : ∀ receipt ∈ successesUnder definition state key,
      receipt.status = .succeeded ∧ idempotentAction definition receipt.action = true ∧
        receipt.idempotencyKey = key := by
    intro receipt member
    have passed := (List.mem_filter.mp member).2
    simp only [Bool.and_eq_true, decide_eq_true_eq] at passed
    exact ⟨passed.1.1, passed.1.2, passed.2⟩
  cases listed : successesUnder definition state key with
  | nil => simp
  | cons first rest =>
    cases rest with
    | nil => simp
    | cons second =>
      rw [listed] at apart passes
      obtain ⟨succeeded, idempotent, under⟩ := passes first List.mem_cons_self
      obtain ⟨laterSucceeded, laterIdempotent, laterUnder⟩ :=
        passes second (List.mem_cons_of_mem _ List.mem_cons_self)
      refine absurd ?_ ((List.pairwise_cons.mp apart).1 second List.mem_cons_self)
      exact ⟨succeeded, laterSucceeded, idempotent, laterIdempotent, under.trans laterUnder.symm⟩

/-- In every run that confirms no proposal whose key has already succeeded, every state
holds at most one successful receipt for each key of an idempotent capability. -/
theorem succeeds_at_most_once (definition : MissionDefinition) (recordedAt : String)
    (initial : MissionState)
    (created : createMissionState sha256 definition recordedAt = .ok initial)
    (operations : List MissionOperation)
    (confirmed : Runs.Meets (missionStep sha256 definition)
      (fun state operation => confirmsRepetition definition state operation = false) initial
      operations)
    (key : String) :
    (successesUnder definition (runMission sha256 definition initial operations) key).length ≤
      1 := by
  have known : IdempotentSoFar definition (runMission sha256 definition initial operations) := by
    refine Runs.run_invariant_meets (IdempotentSoFar definition)
      (createMissionState_idempotent created) ?_ operations confirmed
    intro state operation fresh known
    exact missionStep_idempotent known fresh
  exact known.unrepeated.length_successes key

/-! ## A success confirmed twice -/

/-- A refund, once for the goal and only with the caller's consent. -/
def refundMission : MissionDefinition where
  id := "billing"
  version := "1"
  label := "Billing"
  globalCapabilities := []
  goals := [⟨"refund", "Refund", true, true, [], ["issue_refund"], [], []⟩]
  capabilities :=
    [⟨"issue_refund", "Issue a refund", .consequential, ["refund"], [],
      some ⟨"Refund the order?", [.string "yes"], [.caller]⟩, .perGoal, [], [], none⟩]

theorem refundMission_created : createMissionState Sha256.digest refundMission noon =
    .ok (openedMission Sha256.digest refundMission noon) :=
  createMissionState_opened (by decide +kernel) (by decide +kernel)

theorem refundMission_recorded : Recorded Sha256.digest refundMission
    (openedMission Sha256.digest refundMission noon) :=
  createMissionState_recorded digest_hexadecimal refundMission_created

def proposeRefund (proposalId : String) : MissionOperation :=
  .proposeMissionAction ⟨"issue_refund", [], some proposalId, "", "", noon⟩

def confirmRefund (proposalId proposalDigest : String) (revision : Nat) : MissionOperation :=
  .authorizeMissionAction
    ⟨proposalId, proposalDigest, "turn-7", .caller, .string "yes", revision, noon⟩

def settleRefund (proposalId receiptId : String) : MissionOperation :=
  .settleMissionAction ⟨proposalId, receiptId, .succeeded, none, noon⟩

/-- Two refunds are proposed; the first is confirmed and succeeds. -/
def refundedOnce : List MissionOperation :=
  [.activateMissionGoal ⟨"refund", .root, noon⟩, proposeRefund "proposal-1",
    proposeRefund "proposal-2",
    confirmRefund "proposal-1" "ad5e7fe51204ac53c319c40f3cfbadbe8364a1ed32a888cc6ad46e83dc492c7f" 5,
    settleRefund "proposal-1" "receipt-1"]

/-- Then the second is confirmed and succeeds too. -/
def refundedTwice : List MissionOperation :=
  refundedOnce ++
    [confirmRefund "proposal-2" "ba2fe8cbd4e7caede8662a98c97b6b12deaae4c18fc8a960a469a95dda6f637a" 7,
      settleRefund "proposal-2" "receipt-2"]

/-- The key of the refund. -/
def refundKey : String := "fb20d536335cf76aa2cf1803112e01f87539c839fe53e13cbea1c373fa243cd6"

/-- Both refunds are recorded as successful under one key. -/
theorem refund_succeeds_twice : createMissionState Sha256.digest refundMission noon =
        .ok (openedMission Sha256.digest refundMission noon) ∧
      (successesUnder refundMission (runMission Sha256.digest refundMission
          (openedMission Sha256.digest refundMission noon) refundedTwice) refundKey).map
          MissionReceipt.receiptId =
        ["receipt-1", "receipt-2"] := by
  refine ⟨refundMission_created, ?_⟩
  rw [runMission_eq_recorded refundMission_recorded]
  decide +kernel

/-- As long as the second refund is not confirmed, there is one success. -/
theorem refund_succeeds_once : Runs.Meets (missionStep Sha256.digest refundMission)
        (fun state operation => confirmsRepetition refundMission state operation = false)
        (openedMission Sha256.digest refundMission noon) refundedOnce ∧
      (successesUnder refundMission (runMission Sha256.digest refundMission
        (openedMission Sha256.digest refundMission noon) refundedOnce) refundKey).length ≤ 1 := by
  have confirmed : Runs.Meets (missionStep Sha256.digest refundMission)
      (fun state operation => confirmsRepetition refundMission state operation = false)
      (openedMission Sha256.digest refundMission noon) refundedOnce :=
    meets_of_recorded refundMission_recorded refundedOnce (by decide +kernel)
  exact ⟨confirmed, succeeds_at_most_once refundMission noon _ refundMission_created refundedOnce
    confirmed refundKey⟩

end CallCenter.MissionIdempotency
