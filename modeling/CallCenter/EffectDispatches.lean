import CallCenter.EffectCoordinator
import CallCenter.PolicyConfirmations

/-!
# Dispatched effects

Nothing before the boundary dispatches, nothing after the dispatch dispatches again, and
after the dispatch of a write or opaque effect each settlement has a proof: the absence proof
that the adapter returned, or a result that the policy accepts under the authority of the
decision. Whatever else happens is left to reconciliation or escapes as an exception.
-/

namespace CallCenter.EffectDispatches

open JsonValues Guards Interactions PolicyKernel PolicyConfirmations EffectCoordinator
open FlowState (isHexDigest)

variable {hash : String → String} {coordinator : GovernedEffectCoordinator} {execution : Execution}

def isDispatch : EffectAsk → Bool
  | .dispatch _ => true
  | _ => false

/-- The program dispatches nothing. -/
abbrev Quiet {α : Type} (program : EffectProgram α) : Prop :=
  Only (fun question => isDispatch question = false) program

def isPreparation : EffectAsk → Bool
  | .dispatch _ | .settle _ => false
  | _ => true

/-- The program neither dispatches nor settles. -/
abbrev Preparatory {α : Type} (program : EffectProgram α) : Prop :=
  Only (fun question => isPreparation question = true) program

theorem preparatory_ask {question : EffectAsk} (other : isPreparation question) :
    Preparatory (Program.ask question) := only_ask other

theorem quiet_ask {question : EffectAsk} (other : isDispatch question = false) :
    Quiet (Program.ask question) := only_ask other

/-! ## Before the dispatch -/

theorem quiet_settleIndeterminate (receipt : GovernedEffectReceipt) (errorCode : String)
    (resultSha256 : Option String) :
    Quiet (settleIndeterminate coordinator execution receipt errorCode resultSha256) := by
  refine (quiet_ask rfl).bind fun now => (quiet_ask rfl).bind fun recovery => ?_
  cases recovery with
  | terminal receipt | indeterminate receipt job => exact only_finished _

theorem quiet_settleUnproven (receipt : GovernedEffectReceipt) (errorCode : String) :
    Quiet (settleUnproven coordinator execution receipt errorCode) := by
  unfold settleUnproven
  split
  · exact (quiet_ask rfl).bind fun now => (quiet_ask rfl).bind fun settled => only_finished _
  · exact quiet_settleIndeterminate receipt errorCode none

theorem preparatory_reserve : Preparatory (reserve coordinator execution) := by
  refine Only.bind (only_finished _) fun expiry => (preparatory_ask rfl).bind fun reservation => ?_
  cases reservation with
  | repairRequired =>
    refine (preparatory_ask rfl).bind fun repaired => ?_
    cases repaired with
    | false => exact only_finished _
    | true =>
      refine (preparatory_ask rfl).bind fun again => ?_
      cases again with
      | _ => exact only_finished _
  | _ => exact only_finished _

/-- An execution rests on the authority that was read and on the decision it allows. -/
structure Authorized (hash : String → String) (proposal : GovernedEffectProposal)
    (exchanges : List EffectExchange) (execution : Execution) : Prop where
  proposed : execution.proposal = proposal
  read : ⟨.readAuthority proposal.scope, .ok execution.authority⟩ ∈ exchanges
  evaluated : evaluatePreDispatch hash
    (preDispatchInput proposal execution.authority execution.now) = .ok execution.decision
  allows : execution.decision.decision = .allow

theorem preparatory_decideProposal (proposal : GovernedEffectProposal) :
    Preparatory (decideProposal hash proposal) := by
  refine (preparatory_ask rfl).bind fun now => Only.bind (only_finished _) fun nowMs =>
    (preparatory_ask rfl).bind fun authority => ?_
  split
  · refine Only.bind (only_finished _) fun decision => ?_
    cases decision.decision with
    | _ => exact only_finished _
  · exact only_finished _

/-- A decided execution is authorised by what was exchanged. -/
theorem authorized_decideProposal (proposal : GovernedEffectProposal) :
    Always (decideProposal hash proposal) fun exchanges outcome =>
      ∀ execution, outcome = .ok (.ok execution) → Authorized hash proposal exchanges execution := by
  refine always_ask_bind (by simp) fun now => ?_
  refine always_lift_bind (by simp) fun nowMs _ => ?_
  refine always_ask_bind (by simp) fun authority => ?_
  split
  · refine always_lift_bind (by simp) fun decision evaluated => ?_
    cases allows : decision.decision with
    | allow =>
      rintro execution ⟨⟩
      exact ⟨rfl, by simp, evaluated, allows⟩
    | deny | requireConfirmation => rintro execution ⟨⟩
  · rintro execution ⟨⟩

/-- A dispatch that may start: the boundary returned its receipt, bound to the decision. -/
structure Started (execution : Execution) (exchanges : List EffectExchange)
    (receipt : GovernedEffectReceipt) : Prop where
  crossed : ∃ input, ⟨.crossDispatchBoundary input, .ok (.started receipt)⟩ ∈ exchanges
  bound : assertReceiptBoundToDecision receipt execution.proposal execution.decision = .ok ()
  attempts : safeNatural receipt.dispatchAttempts = some 1
  unsettled : ∀ settlement answer, ⟨.settle settlement, answer⟩ ∉ exchanges

theorem quiet_crossBoundary (receipt : GovernedEffectReceipt) (lease : GovernedEffectLease) :
    Quiet (crossBoundary execution receipt lease) := by
  refine (quiet_ask rfl).bind fun now => Only.bind (only_finished _) fun _ =>
    (quiet_ask rfl).bind fun boundary => ?_
  cases boundary with
  | started =>
    exact Only.bind (only_finished _) fun _ => Only.bind (only_finished _) fun _ => only_finished _
  | staleAuthority current
  | leaseExpired => exact (quiet_ask rfl).bind fun _ => only_finished _
  | notOwner crossed | alreadyCrossed crossed => exact only_finished _

theorem started_crossBoundary (receipt : GovernedEffectReceipt) (lease : GovernedEffectLease) :
    Always (crossBoundary execution receipt lease) fun exchanges outcome =>
      ∀ started, outcome = .ok (.ok started) → Started execution exchanges started := by
  refine always_ask_bind (by simp) fun now => ?_
  refine always_lift_bind (by simp) fun _ _ => ?_
  refine always_ask_bind (by simp) fun boundary => ?_
  cases boundary with
  | started =>
    refine always_lift_bind (by simp) fun _ bound => ?_
    refine always_lift_bind (by simp) fun _ attempted => ?_
    rintro other ⟨⟩
    simp only [require_ok_iff, Bool.and_eq_true, beq_iff_eq] at attempted
    exact ⟨⟨_, List.mem_cons_of_mem _ List.mem_cons_self⟩, bound, attempted.1, by simp⟩
  | staleAuthority current
  | leaseExpired => exact always_ask_bind (by simp) fun _ => by rintro other ⟨⟩
  | notOwner crossed | alreadyCrossed crossed => rintro other ⟨⟩

/-! ## After the dispatch -/

/-- The result was accepted under the authority of the decision. -/
structure Accepted (hash : String → String) (execution : Execution)
    (reply : Except String EffectDispatchOutcome) (exchanges : List EffectExchange) : Prop where
  judged : ∃ result latest post, reply = .ok (.completed result) ∧
    ⟨.readAuthority execution.proposal.scope, .ok latest⟩ ∈ exchanges ∧
    evaluatePostDispatch hash (postDispatchInput latest execution.decision result) = .ok post ∧
    post.decision = .accept ∧
    sameAuthority latest.toAuthorityBinding execution.authority.toAuthorityBinding = true

/-- The adapter proved that the effect is absent. -/
def AbsenceProven (reply : Except String EffectDispatchOutcome) (proof : Option String) : Prop :=
  ∃ proofSha256 errorCode, reply = .ok (.authoritativelyAbsent proofSha256 errorCode) ∧
    isHexDigest proofSha256 = true ∧ proof = some proofSha256

/-- A settlement of an effect that is not a read. -/
def Proven (hash : String → String) (execution : Execution)
    (reply : Except String EffectDispatchOutcome) (exchanges : List EffectExchange)
    (settlement : SettleInput) : Prop :=
  match settlement.status with
  | .failed => AbsenceProven reply settlement.proofSha256
  | .succeeded => Accepted hash execution reply exchanges
  | .indeterminate => False

def SettlesProven (hash : String → String) (execution : Execution)
    (reply : Except String EffectDispatchOutcome) (exchanges : List EffectExchange) : Prop :=
  ∀ settlement answer, ⟨.settle settlement, answer⟩ ∈ exchanges →
    Proven hash execution reply exchanges settlement

/-- The receipt was settled, or its reconciliation was asked for, or an exception escapes. -/
def Concluded {α : Type} (exchanges : List EffectExchange) (outcome : Except String α) : Prop :=
  (∃ settlement receipt, ⟨.settle settlement, .ok receipt⟩ ∈ exchanges) ∨
    (∃ input answer, ⟨.ensureIndeterminateReconciliation input, answer⟩ ∈ exchanges) ∨
      ∃ thrown, outcome = .error thrown

variable {exchanges earlier : List EffectExchange} {proposal : GovernedEffectProposal}
  {outcome : EffectDispatchOutcome}

/-- Exchanges that settle nothing. -/
def Unsettled (exchanges : List EffectExchange) : Prop :=
  ∀ settlement answer, ⟨.settle settlement, answer⟩ ∉ exchanges

def NoDispatch (exchanges : List EffectExchange) : Prop :=
  ∀ exchange ∈ exchanges, isDispatch exchange.ask = false

variable {reply : Except String EffectDispatchOutcome} {settlement : SettleInput}

theorem Proven.append (proven : Proven hash execution reply exchanges settlement)
    (later : List EffectExchange) :
    Proven hash execution reply (exchanges ++ later) settlement := by
  unfold Proven at proven ⊢
  cases status : settlement.status with
  | failed => simpa [status] using proven
  | indeterminate => simp [status] at proven
  | succeeded =>
    rw [status] at proven
    obtain ⟨result, latest, post, replied, read, judged⟩ := proven.judged
    exact ⟨result, latest, post, replied, List.mem_append_left later read, judged⟩

/-- An accepted result was judged under the authority of the decision. -/
theorem sameBinding_of_accept {input : PostDispatchInput} {post : PostDispatchDecision}
    (evaluated : evaluatePostDispatch hash input = .ok post) (accepted : post.decision = .accept) :
    sameBinding input := by
  have decision_of {rawHash reason : String} {decision : PostDecision}
      {visible : Option (List (String × Value))}
      (finished : finishPostDecision hash input rawHash decision reason visible = .ok post) :
      decision = .accept := by
    simp only [finishPostDecision, bind_ok_iff, pure_ok_iff] at finished
    obtain ⟨_, _, rfl⟩ := finished
    exact accepted
  simp only [evaluatePostDispatch, bind_ok_iff] at evaluated
  obtain ⟨policy, _, policyDigest, _, rawHash, _, evaluated⟩ := evaluated
  split at evaluated
  · cases decision_of evaluated
  split at evaluated
  · cases decision_of evaluated
  split at evaluated
  · cases decision_of evaluated
  split at evaluated
  · cases decision_of evaluated
  · next bound => simpa using bound

theorem always_settleIndeterminate (receipt : GovernedEffectReceipt) (errorCode : String)
    (resultSha256 : Option String) :
    Always (settleIndeterminate coordinator execution receipt errorCode resultSha256)
      fun exchanges outcome => Unsettled exchanges ∧ Concluded exchanges outcome := by
  refine always_ask_bind (fun thrown => ⟨by simp [Unsettled], .inr (.inr ⟨thrown, rfl⟩)⟩) fun now => ?_
  refine always_ask_bind (fun thrown => ⟨by simp [Unsettled], .inr (.inr ⟨thrown, rfl⟩)⟩) fun recovery => ?_
  have asked (exchanges : List EffectExchange) (input : ReconciliationInput)
      (answer : Except String IndeterminateRecoveryResult) (outcome : Except String
        GovernedEffectExecutionResult) :
      Concluded (⟨.now, .ok now⟩ :: ⟨.ensureIndeterminateReconciliation input, answer⟩ :: exchanges)
        outcome := .inr (.inl ⟨input, answer, List.mem_cons_of_mem _ List.mem_cons_self⟩)
  cases recovery with
  | terminal receipt | indeterminate receipt job => exact ⟨by simp [Unsettled], asked _ _ _ _⟩

theorem always_settleUnproven (notRead : execution.decision.effect ≠ some .read)
    (receipt : GovernedEffectReceipt) (errorCode : String) :
    Always (settleUnproven coordinator execution receipt errorCode)
      fun exchanges outcome => Unsettled exchanges ∧ Concluded exchanges outcome := by
  rw [settleUnproven, if_neg notRead]
  exact always_settleIndeterminate receipt errorCode none

/-- What the guarded block exchanged, and what its continuation adds. -/
def OutcomeSettled (hash : String → String) (execution : Execution)
    (outcome : EffectDispatchOutcome) (exchanges : List EffectExchange)
    (result : Except String (EffectProgram GovernedEffectExecutionResult)) : Prop :=
  SettlesProven hash execution (.ok outcome) exchanges ∧
    ∀ continuation, result = .ok continuation → Always continuation fun later final =>
      (∀ settlement answer, ⟨.settle settlement, answer⟩ ∉ later) ∧ Concluded (exchanges ++ later) final

theorem Concluded.after {α : Type} {later : List EffectExchange} {outcome : Except String α}
    (concluded : Concluded later outcome) (exchanges : List EffectExchange) :
    Concluded (exchanges ++ later) outcome := by
  rcases concluded with ⟨settlement, receipt, settled⟩ | ⟨input, answer, asked⟩ | thrown
  · exact .inl ⟨settlement, receipt, List.mem_append_right _ settled⟩
  · exact .inr (.inl ⟨input, answer, List.mem_append_right _ asked⟩)
  · exact .inr (.inr thrown)

/-- A block that settles nothing and continues with a recovery. -/
theorem outcomeSettled_of_recovery {recovery : EffectProgram GovernedEffectExecutionResult}
    (unsettled : ∀ settlement answer, ⟨.settle settlement, answer⟩ ∉ exchanges)
    (recovers : Always recovery fun later final =>
      Unsettled later ∧ Concluded later final) :
    OutcomeSettled hash execution outcome exchanges (.ok recovery) := by
  constructor
  · intro settlement answer member
    exact absurd member (unsettled settlement answer)
  · rintro continuation ⟨⟩
    apply recovers.mono
    intro later final conclusion
    exact ⟨conclusion.1, conclusion.2.after exchanges⟩

section

variable (proven : SettlesProven hash execution (.ok outcome) exchanges)
include proven

/-- A block that throws after proven settlements. -/
theorem outcomeSettled_of_thrown {thrown : String} :
    OutcomeSettled hash execution outcome exchanges (.error thrown) := by
  refine ⟨proven, ?_⟩
  rintro continuation ⟨⟩

/-- A block whose one settlement is proven, and that returns with it. -/
theorem outcomeSettled_of_settled {settled : GovernedEffectReceipt}
    {result : GovernedEffectExecutionResult}
    (member : ⟨.settle settlement, .ok settled⟩ ∈ exchanges) :
    OutcomeSettled hash execution outcome exchanges (.ok (pure result)) := by
  refine ⟨proven, ?_⟩
  rintro continuation ⟨⟩
  exact ⟨by simp, .inl ⟨settlement, settled, List.mem_append_left _ member⟩⟩

end

/-- A settlement among exchanges of which only the last one settles. -/
theorem last_settlement {last : SettleInput} {answer given : Except String GovernedEffectReceipt}
    (unsettled : ∀ settlement answer, ⟨.settle settlement, answer⟩ ∉ exchanges)
    (member : ⟨.settle settlement, answer⟩ ∈ exchanges ++ [⟨.settle last, given⟩]) :
    settlement = last := by
  rcases List.mem_append.mp member with early | late
  · exact absurd early (unsettled settlement answer)
  · exact EffectAsk.settle.inj (congrArg Exchange.ask (List.mem_singleton.mp late))

theorem always_settleOutcome (authorized : Authorized hash proposal earlier execution)
    (notRead : execution.decision.effect ≠ some .read) (receipt : GovernedEffectReceipt)
    (outcome : EffectDispatchOutcome) :
    Always (settleOutcome hash coordinator execution receipt outcome)
      (OutcomeSettled hash execution outcome) := by
  cases outcome with
  | indeterminate =>
    exact outcomeSettled_of_recovery (by simp) (always_settleUnproven notRead _ _)
  | authoritativelyAbsent proofSha256 errorCode =>
    rw [settleOutcome]
    split
    · next hex =>
      have proven (now : String) (answer : Except String GovernedEffectReceipt) :
          SettlesProven hash execution (.ok (.authoritativelyAbsent proofSha256 errorCode))
            ([⟨.now, .ok now⟩] ++ [⟨.settle (failedSettlement receipt none (some proofSha256)
              (errorCode.getD "authoritatively_absent") now), answer⟩]) := by
        intro settlement other member
        rw [last_settlement (by simp) member]
        exact ⟨proofSha256, errorCode, rfl, hex, rfl⟩
      refine always_ask_bind (fun thrown => outcomeSettled_of_thrown ?_) fun now => ?_
      · simp [SettlesProven]
      refine always_ask_bind (fun thrown => outcomeSettled_of_thrown (proven now _)) fun settled => ?_
      exact outcomeSettled_of_settled (proven now _) (List.mem_cons_of_mem _ List.mem_cons_self)
    · exact outcomeSettled_of_recovery (by simp) (always_settleUnproven notRead _ _)
  | completed result =>
    refine always_ask_bind (fun thrown => outcomeSettled_of_thrown (by simp [SettlesProven]))
      fun settledAt => ?_
    refine always_ask_bind (fun thrown => outcomeSettled_of_thrown (by simp [SettlesProven]))
      fun latest => ?_
    refine always_lift_bind (fun thrown _ => outcomeSettled_of_thrown (by simp [SettlesProven]))
      fun post evaluated => ?_
    split
    · next accepted =>
      have proven (settlement : SettleInput) (succeeded : settlement.status = .succeeded)
          (answer : Except String GovernedEffectReceipt) :
          SettlesProven hash execution (.ok (.completed result))
            ([⟨.now, .ok settledAt⟩, ⟨.readAuthority execution.proposal.scope, .ok latest⟩]
              ++ [⟨.settle settlement, answer⟩]) := by
        intro other reply member
        rw [last_settlement (by simp) member, Proven, succeeded]
        refine ⟨result, latest, post, rfl, by simp, evaluated, accepted, ?_⟩
        obtain ⟨policy, item, nowMs, argumentsHash, allows⟩ :=
          allows_of_evaluatePreDispatch authorized.evaluated authorized.allows
        simpa [sameBinding, postDispatchInput, allows.stateHead, allows.revision, allows.epoch,
          preDispatchInput, sameAuthority] using sameBinding_of_accept evaluated accepted
      refine always_ask_bind (fun thrown => outcomeSettled_of_thrown (proven _ rfl _))
        fun settled => ?_
      exact outcomeSettled_of_settled (proven _ rfl _)
        (List.mem_cons_of_mem _ (List.mem_cons_of_mem _ List.mem_cons_self))
    · exact outcomeSettled_of_recovery (by simp) (always_settleIndeterminate _ _ _)

theorem NoDispatch.append {left right : List EffectExchange} (first : NoDispatch left)
    (second : NoDispatch right) : NoDispatch (left ++ right) := by
  intro exchange member
  rcases List.mem_append.mp member with early | late
  · exact first exchange early
  · exact second exchange late

/-- Neither the program nor the one that it returns dispatches. -/
abbrev QuietReturn (program : EffectProgram (EffectProgram GovernedEffectExecutionResult)) : Prop :=
  Always program fun exchanges result =>
    NoDispatch exchanges ∧ ∀ continuation, result = .ok continuation → Quiet continuation

theorem quietReturn_pure {continuation : EffectProgram GovernedEffectExecutionResult}
    (quiet : Quiet continuation) : QuietReturn (pure continuation) := by
  refine ⟨by simp [NoDispatch], ?_⟩
  rintro _ ⟨⟩
  exact quiet

theorem QuietReturn.bind {α : Type} {first : EffectProgram α}
    {next : α → EffectProgram (EffectProgram GovernedEffectExecutionResult)} (quiet : Quiet first)
    (rest : ∀ value, QuietReturn (next value)) : QuietReturn (first >>= next) := by
  refine Always.bind quiet (fun _ _ none => ⟨none, by rintro _ ⟨⟩⟩) fun _ value none => ?_
  exact (rest value).mono fun _ _ returned => ⟨NoDispatch.append none returned.1, returned.2⟩

theorem quiet_settleOutcome (receipt : GovernedEffectReceipt) (outcome : EffectDispatchOutcome) :
    QuietReturn (settleOutcome hash coordinator execution receipt outcome) := by
  cases outcome with
  | indeterminate => exact quietReturn_pure (quiet_settleUnproven _ _)
  | authoritativelyAbsent =>
    rw [settleOutcome]
    split
    · refine .bind (quiet_ask rfl) fun now => .bind (quiet_ask rfl) fun settled => ?_
      exact quietReturn_pure (only_finished _)
    · exact quietReturn_pure (quiet_settleUnproven _ _)
  | completed =>
    refine .bind (quiet_ask rfl) fun settledAt => .bind (quiet_ask rfl) fun latest => ?_
    refine .bind (only_finished _) fun post => ?_
    split
    · exact .bind (quiet_ask rfl) fun settled => quietReturn_pure (only_finished _)
    · split
      · exact .bind (quiet_ask rfl) fun settled => quietReturn_pure (only_finished _)
      · exact quietReturn_pure (quiet_settleIndeterminate _ _ _)

/-- A dispatch, and only then what does not dispatch. -/
structure Dispatched (hash : String → String) (execution : Execution)
    (receipt : GovernedEffectReceipt) (exchanges : List EffectExchange)
    (outcome : Except String GovernedEffectExecutionResult) : Prop where
  shape : ∃ reply after, exchanges = ⟨.dispatch
      { receiptId := receipt.receiptId, invocationId := receipt.invocationId
        idempotencyKey := execution.proposal.idempotencyKey
        arguments := execution.proposal.arguments }, reply⟩ :: after ∧
    (∀ exchange ∈ after, isDispatch exchange.ask = false) ∧
      (execution.decision.effect ≠ some .read →
        SettlesProven hash execution reply after ∧ Concluded after outcome)

theorem SettlesProven.append {later : List EffectExchange}
    (proven : SettlesProven hash execution reply exchanges) (unsettled : Unsettled later) :
    SettlesProven hash execution reply (exchanges ++ later) := by
  intro settlement answer member
  rcases List.mem_append.mp member with early | late
  · exact (proven settlement answer early).append later
  · exact absurd late (unsettled settlement answer)

/-- The dispatch comes first, and what follows keeps to the proofs. -/
theorem dispatched_dispatchEffect (authorized : Authorized hash proposal earlier execution)
    (receipt : GovernedEffectReceipt) :
    Always (dispatchEffect hash coordinator execution receipt) (Dispatched hash execution receipt) := by
  have unproven (errorCode : String) :
      Always (settleUnproven coordinator execution receipt errorCode) fun exchanges outcome =>
        NoDispatch exchanges ∧ (execution.decision.effect ≠ some .read → Unsettled exchanges ∧
              Concluded exchanges outcome) :=
    (quiet_settleUnproven receipt errorCode).and
      (Always.under fun notRead => always_settleUnproven notRead receipt errorCode)
  refine always_ask_attempt_bind fun reply => ?_
  cases reply with
  | error =>
    refine (unproven "dispatch_exception").mono ?_
    rintro after outcome ⟨quiet, settled⟩
    refine ⟨_, after, rfl, quiet, fun notRead => ⟨?_, (settled notRead).2⟩⟩
    intro settlement answer member
    exact absurd member ((settled notRead).1 settlement answer)
  | ok outcome =>
    refine Always.attempt_bind ((quiet_settleOutcome receipt outcome).and
      (Always.under fun notRead => always_settleOutcome authorized notRead receipt outcome)) ?_
    rintro exchanges result ⟨⟨quiet, quietLater⟩, settled⟩
    cases result with
    | error =>
      refine (unproven "post_dispatch_exception").mono ?_
      rintro later outcome ⟨laterQuiet, recovered⟩
      refine ⟨_, _, rfl, NoDispatch.append quiet laterQuiet, fun notRead => ⟨?_, ?_⟩⟩
      · exact (settled notRead).1.append (recovered notRead).1
      · exact (recovered notRead).2.after exchanges
    | ok continuation =>
      refine ((quietLater continuation rfl).and (Always.under fun notRead =>
        (settled notRead).2 continuation rfl)).mono ?_
      rintro later outcome ⟨laterQuiet, concluded⟩
      refine ⟨_, _, rfl, NoDispatch.append quiet laterQuiet, fun notRead => ⟨?_, (concluded notRead).2⟩⟩
      exact (settled notRead).1.append (concluded notRead).1

/-! ## Whole executions -/

/-- The exchanges hold no dispatch, or one that was started and is settled with proof. -/
def Follows (hash : String → String) (execution : Execution) (exchanges : List EffectExchange)
    (outcome : Except String GovernedEffectExecutionResult) : Prop :=
  NoDispatch exchanges ∨ ∃ receipt before after, exchanges = before ++ after ∧ NoDispatch before ∧
    Started execution before receipt ∧ Dispatched hash execution receipt after outcome

section

variable (prepared : ∀ exchange ∈ exchanges, isPreparation exchange.ask = true)
include prepared

theorem Preparatory.noDispatch :
    NoDispatch exchanges := by
  intro exchange member
  have preparation := prepared exchange member
  cases asked : exchange.ask with
  | dispatch => simp [asked, isPreparation] at preparation
  | _ => rfl

theorem Preparatory.unsettled (settlement : SettleInput)
    (answer : Except String GovernedEffectReceipt) : ⟨.settle settlement, answer⟩ ∉ exchanges := by
  intro member
  exact nomatch prepared _ member

end

/-- What was prepared before comes in front. -/
theorem Started.after {receipt : GovernedEffectReceipt}
    (started : Started execution exchanges receipt) {prepared : List EffectExchange}
    (preparation : ∀ exchange ∈ prepared, isPreparation exchange.ask = true) :
    Started execution (prepared ++ exchanges) receipt where
  crossed := by
    obtain ⟨input, member⟩ := started.crossed
    exact ⟨input, List.mem_append_right _ member⟩
  bound := started.bound
  attempts := started.attempts
  unsettled settlement answer member := by
    rcases List.mem_append.mp member with early | late
    · exact Preparatory.unsettled preparation settlement answer early
    · exact started.unsettled settlement answer late

variable {outcome : Except String GovernedEffectExecutionResult}

theorem Follows.after {prepared : List EffectExchange}
    (follows : Follows hash execution exchanges outcome)
    (preparation : ∀ exchange ∈ prepared, isPreparation exchange.ask = true) :
    Follows hash execution (prepared ++ exchanges) outcome := by
  rcases follows with quiet | ⟨receipt, before, after, rfl, quiet, started, dispatched⟩
  · exact .inl ((Preparatory.noDispatch preparation).append quiet)
  · refine .inr ⟨receipt, prepared ++ before, after, by rw [List.append_assoc], ?_, ?_, dispatched⟩
    · exact (Preparatory.noDispatch preparation).append quiet
    · exact started.after preparation

theorem follows_of_quiet {program : EffectProgram GovernedEffectExecutionResult}
    (quiet : Quiet program) : Always program (Follows hash execution) :=
  quiet.mono fun _ _ none => .inl none

theorem follows_followReservation (authorized : Authorized hash proposal earlier execution)
    (reservation : ReserveAllowedResult) :
    Always (followReservation hash coordinator execution reservation) (Follows hash execution) := by
  cases reservation with
  | staleAuthority current | idempotencyConflict existing | repairRequired token
  | unknown => exact follows_of_quiet (only_finished _)
  | terminalReplay =>
    exact follows_of_quiet (Only.bind (only_finished _) fun _ => only_finished _)
  | inFlightReplay =>
    refine follows_of_quiet (Only.bind (only_finished _) fun _ => ?_)
    split
    · exact quiet_settleIndeterminate _ _ _
    · exact only_finished _
  | reserved receipt lease dispatchOwner =>
    have nothing (thrown : String) : Follows hash execution [] (.error thrown) :=
      .inl fun exchange member => nomatch member
    refine always_lift_bind (fun thrown _ => nothing thrown) fun _ _ => ?_
    refine always_lift_bind (fun thrown _ => nothing thrown) fun _ _ => ?_
    cases dispatchOwner with
    | false => exact follows_of_quiet (only_finished _)
    | true =>
      refine Always.bind ((quiet_crossBoundary receipt lease).and
        (started_crossBoundary receipt lease)) ?_ ?_
      · rintro exchanges thrown ⟨quiet, _⟩
        exact .inl quiet
      · rintro exchanges crossed ⟨quiet, started⟩
        cases crossed with
        | error => exact .inl (by rw [List.append_nil]; exact quiet)
        | ok receipt =>
          refine (dispatched_dispatchEffect authorized receipt).mono fun after outcome settled => ?_
          exact .inr ⟨receipt, exchanges, after, rfl, quiet, started receipt rfl, settled⟩

/-- An execution dispatches nothing, or once on what its earlier exchanges authorise. -/
def Executes (hash : String → String) (input : GovernedEffectProposal)
    (exchanges : List EffectExchange) (outcome : Except String GovernedEffectExecutionResult) :
    Prop :=
  NoDispatch exchanges ∨ ∃ proposal execution prepared later, detach input = some proposal ∧
    exchanges = prepared ++ later ∧
    (∀ exchange ∈ prepared, isPreparation exchange.ask = true) ∧
    Authorized hash proposal prepared execution ∧ Follows hash execution later outcome

theorem executes_execute (input : GovernedEffectProposal) :
    Always (execute hash coordinator input) (Executes hash input) := by
  unfold execute
  split
  · exact .inl fun exchange member => nomatch member
  split
  · exact .inl fun exchange member => nomatch member
  next proposal detached =>
  refine Always.bind ((preparatory_decideProposal proposal).and
    (authorized_decideProposal proposal)) ?_ ?_
  · rintro exchanges thrown ⟨prepared, _⟩
    exact .inl (Preparatory.noDispatch prepared)
  rintro decided result ⟨prepared, authorized⟩
  cases result with
  | error => exact .inl (by simpa using Preparatory.noDispatch prepared)
  | ok execution =>
    dsimp only
    have authorization := authorized execution rfl
    split
    · refine Always.bind preparatory_reserve ?_ ?_
      · intro exchanges thrown reserved
        exact .inl ((Preparatory.noDispatch prepared).append (Preparatory.noDispatch reserved))
      · intro reserving reservation reserved
        cases reservation with
        | error =>
          refine .inl ?_
          simpa using (Preparatory.noDispatch prepared).append (Preparatory.noDispatch reserved)
        | ok reservation =>
          refine (follows_followReservation authorization reservation).mono ?_
          intro exchanges outcome follows
          exact .inr ⟨proposal, execution, decided, _, detached, rfl, prepared, authorization,
            follows.after reserved⟩
    · exact .inl (by simpa using Preparatory.noDispatch prepared)

/-- The one place at which a list has an item with a property. -/
theorem split_unique {α : Type} (holds : α → Bool) {first second later following : List α}
    {item other : α} (same : first ++ item :: later = second ++ other :: following)
    (itemHolds : holds item) (noneBefore : ∀ member ∈ second, holds member = false)
    (noneAfter : ∀ member ∈ following, holds member = false) :
    first = second ∧ item = other ∧ later = following := by
  have before : item ∉ second := by
    intro member
    simp [noneBefore item member] at itemHolds
  have after : item ∉ following := by
    intro member
    simp [noneAfter item member] at itemHolds
  obtain ⟨rfl, rfl, rfl⟩ := (List.append_cons_inj_of_notMem before after).mp same.symm
  exact ⟨rfl, rfl, rfl⟩

/-- What a run with a dispatch looks like: one dispatch, with its authority before it. -/
structure DispatchedOnce (hash : String → String) (input : GovernedEffectProposal)
    (before after : List EffectExchange) (request : DispatchInput)
    (reply : Except String EffectDispatchOutcome)
    (outcome : Except String GovernedEffectExecutionResult) : Prop where
  noneBefore : NoDispatch before
  noneAfter : NoDispatch after
  proven : ∃ proposal execution receipt, detach input = some proposal ∧
    Authorized hash proposal before execution ∧ Started execution before receipt ∧
    request = { receiptId := receipt.receiptId, invocationId := receipt.invocationId
                idempotencyKey := proposal.idempotencyKey, arguments := proposal.arguments } ∧
    (execution.decision.effect ≠ some .read →
      SettlesProven hash execution reply after ∧ Concluded after outcome)

theorem Executes.dispatchedOnce {input : GovernedEffectProposal}
    (executes : Executes hash input exchanges outcome) :
    NoDispatch exchanges ∨ ∃ before request reply after,
      exchanges = before ++ ⟨.dispatch request, reply⟩ :: after ∧
        DispatchedOnce hash input before after request reply outcome := by
  rcases executes with quiet | ⟨proposal, execution, prepared, later, detached, rfl, preparation,
    authorized, quiet | ⟨receipt, before, rest, rfl, quiet, started, dispatched⟩⟩
  · exact .inl quiet
  · exact .inl ((Preparatory.noDispatch preparation).append quiet)
  · obtain ⟨reply, after, rfl, quietAfter, settled⟩ := dispatched.shape
    refine .inr ⟨prepared ++ before, _, reply, after, by rw [List.append_assoc], ?_⟩
    refine ⟨(Preparatory.noDispatch preparation).append quiet, quietAfter, ?_⟩
    refine ⟨proposal, execution, receipt, detached, ?_, started.after preparation, ?_, settled⟩
    · exact { authorized with read := List.mem_append_left _ authorized.read }
    · rw [authorized.proposed]

/-- The dispatch of a write or opaque effect happens once, on an allowed decision and a
receipt that the boundary started, and is settled with a proof or left indeterminate. -/
theorem execute_settles_with_proof (hash : String → String)
    (coordinator : GovernedEffectCoordinator) (input : GovernedEffectProposal)
    (environment : Environment EffectAsk EffectAnswer String) :
    let exchanges := (run environment (execute hash coordinator input)).1
    let outcome := (run environment (execute hash coordinator input)).2
    (exchanges.filter fun exchange => isDispatch exchange.ask).length ≤ 1 ∧
      ∀ before request reply after, exchanges = before ++ ⟨.dispatch request, reply⟩ :: after →
        DispatchedOnce hash input before after request reply outcome := by
  intro exchanges outcome
  rcases ((executes_execute input).run environment).dispatchedOnce with
    quiet | ⟨before, request, reply, after, split, once⟩
  · constructor
    · rw [List.filter_eq_nil_iff.mpr fun exchange member => by simp [quiet exchange member]]
      simp
    · intro before request reply after split
      have member : ⟨.dispatch request, reply⟩ ∈ exchanges := by simp [split]
      exact nomatch quiet _ member
  · constructor
    · have noneBefore := List.filter_eq_nil_iff.mpr fun exchange member =>
        Bool.eq_false_iff.mp (once.noneBefore exchange member)
      have noneAfter := List.filter_eq_nil_iff.mpr fun exchange member =>
        Bool.eq_false_iff.mp (once.noneAfter exchange member)
      simp only [exchanges, split, List.filter_append, List.filter_cons, noneBefore, noneAfter]
      simp [isDispatch]
    · intro first asked answer later same
      have aligned := split_unique (fun exchange : EffectExchange => isDispatch exchange.ask)
        (same.symm.trans split) rfl once.noneBefore once.noneAfter
      obtain ⟨rfl, exchanged, rfl⟩ := aligned
      cases exchanged
      exact once

/-! ## A run -/

/-- What the store reads for the refund, under a digest that is always the same. -/
def refundAuthority : GovernedEffectAuthority :=
  ⟨⟨refundHead, .finite (.ofNat 3), .finite (.ofNat 2)⟩, refundPolicy, [], [], .finite (.ofNat 0)⟩

def refundLease : GovernedEffectLease :=
  ⟨refundAuthority.toAuthorityBinding, "lease-1", "refund.issue", .write, refundHead, refundHead,
    refundHead, refundHead, "2026-08-02T12:00:30.000Z"⟩

/-- The receipt of the refund, before or after the boundary. -/
def refundReceipt (crossed : Bool) : GovernedEffectReceipt :=
  ⟨refundAuthority.toAuthorityBinding, "receipt-1", "call-1", "invocation-1", "refund-1",
    "refund.issue", .write, refundHead, refundHead, refundHead,
    if crossed then .dispatching else .reserved, .finite (.ofNat crossed.toNat),
    if crossed then some "2026-08-02T12:00:10.000Z" else none, none, none, none⟩

/-- A store that reserves and starts the refund, and an adapter that answers its dispatch. -/
def refundHost (reply : Except String EffectDispatchOutcome) :
    Environment EffectAsk EffectAnswer String
  | _, .now => .ok "2026-08-02T12:00:10.000Z"
  | _, .readAuthority _ => .ok refundAuthority
  | _, .reserveAllowed _ => .ok (.reserved (refundReceipt false) refundLease true)
  | _, .repairBeforeDispatch _ => .ok true
  | _, .crossDispatchBoundary _ => .ok (.started (refundReceipt true))
  | _, .dispatch _ => reply
  | _, .settle _ => .ok (refundReceipt true)
  | _, .ensureIndeterminateReconciliation _ => .ok (.indeterminate (refundReceipt true) ⟨"job-1"⟩)

/-- The dispatch, and how the refund is settled or handed to reconciliation. -/
def refundTrace (reply : Except String EffectDispatchOutcome) : List (Option SettlementStatus) :=
  let confirmation := refundConfirmation (fun _ => refundHead) [("amount", .ofNat 9)]
  (run (refundHost reply) (execute (fun _ => refundHead) ⟨["refund.issue"], 30000, 3⟩
    ⟨⟨"call-1"⟩, "refund.issue", [("amount", .ofNat 9)], "refund-1",
      refundAuthority.toAuthorityBinding, some confirmation⟩)).1.filterMap fun exchange =>
        match exchange.ask with
        | .dispatch _ => some none
        | .settle input => some (some input.status)
        | .ensureIndeterminateReconciliation _ => some (some .indeterminate)
        | _ => none

example : refundTrace (.ok (.completed [])) = [none, some .succeeded] ∧
    refundTrace (.ok (.authoritativelyAbsent refundEvidence none)) = [none, some .failed] ∧
    refundTrace (.error "timeout") = [none, some .indeterminate] := by
  decide +kernel

end CallCenter.EffectDispatches
