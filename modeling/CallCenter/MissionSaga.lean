import CallCenter.MissionCompletion
import CallCenter.MissionObligations

/-!
# Compensation of sagas

When an action of a saga group fails, an obligation is opened for every earlier success
of the group whose capability declares a compensation, and a mission with an open
obligation cannot complete. The obligation is found by its identity, and only a
compensated settlement that is bound to it rewrites the receipt. So a success may stay
uncompensated in two ways: another obligation already has the identity, so that none is
opened, or the obligation is satisfied by its type alone.
-/

namespace CallCenter.MissionSaga

open KeyedTables ListRewrites MissionSchema MissionLedger MissionRuntime MissionSettlement
  MissionTransitions MissionIntegrity MissionIdentities MissionCompletion MissionObligations

/-- The identity under which the compensation of a receipt is owed. -/
def compensationId (receiptId : String) : String := "obl:compensate:" ++ receiptId

/-- The obligation with an identity; the first one, if there are several. -/
def obligationUnder (obligations : List MissionObligation) (obligationId : String) :
    Option MissionObligation :=
  lookupRow MissionObligation.obligationId obligations obligationId

/-- An open obligation for the receipt. -/
def Owes (receiptId : String) (obligation : MissionObligation) : Prop :=
  obligation.sourceReceiptId = some receiptId ∧ obligation.status = .opened

instance (receiptId : String) (obligation : MissionObligation) :
    Decidable (Owes receiptId obligation) :=
  inferInstanceAs (Decidable (_ ∧ _))

/-- A failure has to open a compensation whose identity belongs to an obligation that is
not open or is not for the same receipt. -/
def identityTaken (definition : MissionDefinition) (state : MissionState)
    (item : MissionCapability) : Bool :=
  item.saga.any fun saga => state.receipts.any fun prior =>
    (sagaCompensation definition saga prior).isSome
      && (obligationUnder state.obligations (compensationId prior.receiptId)).any
        fun obligation => !decide (Owes prior.receiptId obligation)

/-- A successful settlement satisfies, by its type, the compensation of a receipt that is
still successful, and is not the compensated settlement bound to it. -/
def satisfiedByType (state : MissionState) (item : MissionCapability) (proposal : MissionProposal)
    (status : MissionReceiptStatus) : Bool :=
  state.obligations.any fun obligation =>
    decide (obligation.status = .opened) && decide (obligation.scopeGoalId = some proposal.goalId)
      && item.satisfiesObligationTypes.contains obligation.obligationType
      && !(decide (status = .compensated)
        && decide (proposal.compensationObligationId = some obligation.obligationId))
      && obligation.sourceReceiptId.any fun source =>
        decide (obligation.obligationId = compensationId source)
          && state.receipts.any fun receipt =>
            decide (receipt.receiptId = source) && decide (receipt.status = .succeeded)

/-- The settlement loses track of a compensation. -/
def losesCompensation (definition : MissionDefinition) (state : MissionState) :
    MissionOperation → Bool
  | .settleMissionAction input =>
    match state.proposals.find? fun candidate => candidate.proposalId = input.proposalId with
    | none => false
    | some proposal =>
      match capability definition proposal.action with
      | .error _ => false
      | .ok item =>
        match input.status with
        | .succeeded | .compensated => satisfiedByType state item proposal input.status
        | .failed | .indeterminate => identityTaken definition state item
  | _ => false

variable {sha256 : String → String} {definition : MissionDefinition}
  {state patched : MissionState}

/-! ## What tracks a success -/

/-- The receipt is compensated. -/
def Compensated (receipts : List MissionReceipt) (receiptId : String) : Prop :=
  ∃ receipt ∈ receipts, receipt.receiptId = receiptId ∧ receipt.status = .compensated

/-- The receipt is compensated, or is successful and the obligation under its identity
still asks for the compensation. -/
def Covered (obligations : List MissionObligation) (receipts : List MissionReceipt)
    (receiptId : String) : Prop :=
  Compensated receipts receiptId ∨
    ((∃ receipt ∈ receipts, receipt.receiptId = receiptId ∧ receipt.status = .succeeded) ∧
      ∃ obligation, obligationUnder obligations (compensationId receiptId) = some obligation ∧
        Owes receiptId obligation)

variable {item : MissionCapability} {receipt prior : MissionReceipt}
  {receiptId obligationId : String} {obligation : MissionObligation}
  {obligations : List MissionObligation} {saga : Saga} {receipts : List MissionReceipt}

/-- What is found stays found when obligations are added. -/
theorem obligationUnder_append {added : List MissionObligation}
    (found : obligationUnder obligations obligationId = some obligation) :
    obligationUnder (obligations ++ added) obligationId = some obligation := by
  rw [obligationUnder, lookupRow_append, ← obligationUnder, found, Option.some_or]

/-- The obligation that a successful settlement leaves in place of another one. -/
def afterSuccess (item : MissionCapability) (receipt : MissionReceipt)
    (obligation : MissionObligation) : MissionObligation :=
  if obligation.status = .opened ∧ obligation.scopeGoalId = some receipt.goalId
      ∧ obligation.obligationType ∈ item.satisfiesObligationTypes then
    satisfiedBy receipt.settledRevision receipt.receiptId obligation
  else obligation

theorem afterSuccess_identity (item : MissionCapability) (receipt : MissionReceipt)
    (obligation : MissionObligation) :
    (afterSuccess item receipt obligation).obligationId = obligation.obligationId ∧
      (afterSuccess item receipt obligation).sourceReceiptId = obligation.sourceReceiptId := by
  unfold afterSuccess
  split
  · exact ⟨rfl, rfl⟩
  · exact ⟨rfl, rfl⟩

/-- What a successful settlement leaves under an identity. -/
theorem obligationUnder_settled
    (successful : receipt.status = .succeeded ∨ receipt.status = .compensated)
    (found : obligationUnder state.obligations obligationId = some obligation) :
    obligationUnder (settledObligations definition state item receipt) obligationId =
      some (afterSuccess item receipt obligation) := by
  have settled : settledObligations definition state item receipt =
      state.obligations.map (afterSuccess item receipt)
        ++ item.opensObligations.map (templateObligation receipt) := by
    rcases successful with status | status
    · rw [settledObligations, status]
      rfl
    · rw [settledObligations, status]
      rfl
  rw [settled]
  refine obligationUnder_append ?_
  rw [obligationUnder, lookupRow_map fun other => (afterSuccess_identity item receipt other).1,
    ← obligationUnder, found]
  rfl

/-- A failure in a saga group opens compensations. -/
theorem settledObligations_failed
    (failed : receipt.status = .failed ∨ receipt.status = .indeterminate)
    (grouped : item.saga = some saga) :
    settledObligations definition state item receipt =
      openCompensations definition saga item.name receipt.goalId receipt.settledRevision
        state.obligations state.receipts := by
  rcases failed with status | status
  · rw [settledObligations, status, grouped]
  · rw [settledObligations, status, grouped]

theorem obligationUnder_opened {actionName goalId : String} {revision : Nat}
    (priors : List MissionReceipt)
    (found : obligationUnder obligations obligationId = some obligation) :
    obligationUnder (openCompensations definition saga actionName goalId revision obligations
      priors) obligationId = some obligation := by
  obtain ⟨added, equal, _⟩ := openCompensations_append obligations priors
  rw [equal]
  exact obligationUnder_append found

/-- A failure only adds obligations. -/
theorem obligationUnder_failed (failed : receipt.status = .failed ∨ receipt.status = .indeterminate)
    (found : obligationUnder state.obligations obligationId = some obligation) :
    obligationUnder (settledObligations definition state item receipt) obligationId =
      some obligation := by
  cases grouped : item.saga with
  | none =>
    rcases failed with status | status
    · rwa [settledObligations, status, grouped]
    · rwa [settledObligations, status, grouped]
  | some =>
    rw [settledObligations_failed failed grouped]
    exact obligationUnder_opened state.receipts found

/-- Unless the identity is taken, a failure leaves an open obligation for every success that
it has to compensate. -/
theorem openCompensations_owes {actionName goalId : String} {revision : Nat}
    (owed : (sagaCompensation definition saga prior).isSome)
    (obligations : List MissionObligation) (priors : List MissionReceipt)
    (member : prior ∈ priors)
    (free : ∀ obligation, obligationUnder obligations (compensationId prior.receiptId) =
      some obligation → Owes prior.receiptId obligation) :
    ∃ obligation, obligationUnder (openCompensations definition saga actionName goalId revision
        obligations priors) (compensationId prior.receiptId) = some obligation ∧
      Owes prior.receiptId obligation := by
  induction priors generalizing obligations with
  | nil => cases member
  | cons earlier rest ih =>
    cases found : obligationUnder obligations (compensationId prior.receiptId) with
    | some obligation =>
      exact ⟨obligation, obligationUnder_opened (earlier :: rest) found, free obligation found⟩
    | none =>
      rw [openCompensations]
      -- What the earlier receipt opens is either under another identity or for the same receipt.
      have opens : ∀ name obligation, obligationUnder
          (obligations ++ [compensationObligation earlier name actionName goalId revision])
          (compensationId prior.receiptId) = some obligation → Owes prior.receiptId obligation := by
        intro name obligation located
        rw [obligationUnder, lookupRow_append, ← obligationUnder, found, Option.none_or] at located
        obtain ⟨single, same⟩ := lookupRow_some located
        rw [List.mem_singleton.mp single] at same ⊢
        have receipt : earlier.receiptId = prior.receiptId := (String.append_right_inj _).mp same
        exact ⟨congrArg some receipt, rfl⟩
      rcases List.mem_cons.mp member with rfl | later
      · obtain ⟨name, compensated⟩ := Option.isSome_iff_exists.mp owed
        have absent : (obligations.any fun obligation => obligation.obligationId =
            (compensationObligation prior name actionName goalId revision).obligationId) =
            false := by
          refine List.any_eq_false.mpr ?_
          intro obligation known
          have different := lookupRow_none found obligation known
          exact fun same => different (of_decide_eq_true same)
        have located : obligationUnder
            (obligations ++ [compensationObligation prior name actionName goalId revision])
            (compensationId prior.receiptId) =
            some (compensationObligation prior name actionName goalId revision) := by
          rw [obligationUnder, lookupRow_append, ← obligationUnder, found, Option.none_or]
          exact List.find?_cons_of_pos (decide_eq_true rfl)
        simp only [compensated, absent, Bool.false_eq_true, if_false]
        exact ⟨_, obligationUnder_opened rest located, rfl, rfl⟩
      · split
        · exact ih obligations later free
        · next name _ =>
          dsimp only
          split
          · exact ih obligations later free
          · exact ih _ later (opens name)

/-! ## Transitions -/

/-- Compensated receipts stay compensated. -/
theorem Compensated.rewritten {later added : List MissionReceipt}
    (compensated : Compensated receipts receiptId) (kept : List.Forall₂ Compensates receipts later) :
    Compensated (later ++ added) receiptId := by
  obtain ⟨receipt, member, named, status⟩ := compensated
  obtain ⟨after, known, rfl | rfl⟩ := exists_after kept member
  · exact ⟨after, List.mem_append_left _ known, named, status⟩
  · exact ⟨_, List.mem_append_left _ known, named, rfl⟩

/-- A success is marked as compensated or stays as it is. -/
theorem covered_marked {added : List MissionReceipt} {source : String}
    (successful : ∃ receipt ∈ receipts, receipt.receiptId = receiptId ∧ receipt.status = .succeeded)
    (owed : receiptId = source ∨
      ∃ obligation, obligationUnder obligations (compensationId receiptId) = some obligation ∧
        Owes receiptId obligation) :
    Covered obligations ((receipts.map fun prior =>
        if prior.receiptId = source then { prior with status := .compensated } else prior)
        ++ added) receiptId := by
  obtain ⟨receipt, member, named, succeeded⟩ := successful
  have marked := List.mem_append_left added (List.mem_map_of_mem (f := fun prior : MissionReceipt =>
      if prior.receiptId = source then { prior with status := .compensated } else prior) member)
  by_cases same : receipt.receiptId = source
  · rw [if_pos same] at marked
    exact Or.inl ⟨_, marked, named, rfl⟩
  · rw [if_neg same] at marked
    rcases owed with equal | owing
    · exact absurd (named.trans equal) same
    · exact Or.inr ⟨⟨receipt, marked, named, succeeded⟩, owing⟩

/-- The obligation that closing a compensation leaves in place of another one. -/
def afterClosing (obligationId action : String) (receipt : MissionReceipt)
    (obligation : MissionObligation) : MissionObligation :=
  if obligation.status = .opened ∧ obligation.obligationId = obligationId
      ∧ obligation.compensationAction = some action then
    satisfiedBy receipt.settledRevision receipt.receiptId obligation
  else obligation

theorem afterClosing_identity (obligationId action : String) (receipt : MissionReceipt)
    (obligation : MissionObligation) :
    (afterClosing obligationId action receipt obligation).obligationId = obligation.obligationId ∧
      (afterClosing obligationId action receipt obligation).sourceReceiptId =
        obligation.sourceReceiptId := by
  unfold afterClosing
  split
  · exact ⟨rfl, rfl⟩
  · exact ⟨rfl, rfl⟩

theorem obligationUnder_closed {action identity : String}
    (found : obligationUnder obligations identity = some obligation) :
    obligationUnder (closeCompensation obligations obligationId action receipt) identity =
      some (afterClosing obligationId action receipt obligation) := by
  have mapped : closeCompensation obligations obligationId action receipt =
      obligations.map (afterClosing obligationId action receipt) := rfl
  rw [mapped, obligationUnder,
    lookupRow_map fun other => (afterClosing_identity obligationId action receipt other).1,
    ← obligationUnder, found]
  rfl

/-- The compensation of a success is satisfied by its type only in the compensated settlement
that is bound to it. -/
theorem bound_of_satisfied {proposal : MissionProposal} (goalId : receipt.goalId = proposal.goalId)
    (kept : satisfiedByType state item proposal receipt.status = false)
    (successful : ∃ success ∈ state.receipts, success.receiptId = receiptId ∧
      success.status = .succeeded)
    (found : obligationUnder state.obligations (compensationId receiptId) = some obligation)
    (owes : Owes receiptId obligation)
    (changed : afterSuccess item receipt obligation ≠ obligation) :
    receipt.status = .compensated ∧
      proposal.compensationObligationId = some obligation.obligationId := by
  obtain ⟨success, member, named, succeeded⟩ := successful
  obtain ⟨known, identity⟩ := lookupRow_some found
  have matched : obligation.status = .opened ∧ obligation.scopeGoalId = some receipt.goalId ∧
      obligation.obligationType ∈ item.satisfiesObligationTypes := by
    by_contra unmatched
    exact changed (if_neg unmatched)
  rw [goalId] at matched
  have unflagged := List.any_eq_false.mp kept obligation known
  simp only [matched.1, matched.2.1, owes.1, identity, Option.any_some, decide_true,
    Bool.true_and, Bool.and_eq_true, List.contains_iff_mem, matched.2.2, true_and,
    Bool.not_eq_true', List.any_eq_true] at unflagged
  by_contra unbound
  refine unflagged ⟨?_, success, member, ?_⟩
  · rw [identity] at unbound
    simpa using unbound
  · simp [named, succeeded]

/-- A settlement that does not lose the compensation of a receipt keeps it covered. -/
theorem Covered.settled {proposal : MissionProposal}
    (settled : settlement definition state item proposal receipt = .ok (obligations, receipts))
    (goalId : receipt.goalId = proposal.goalId)
    (kept : receipt.status = .succeeded ∨ receipt.status = .compensated →
      satisfiedByType state item proposal receipt.status = false)
    (covered : Covered state.obligations state.receipts receiptId) :
    Covered obligations (receipts ++ [receipt]) receiptId := by
  rcases covered with compensated | ⟨successful, obligation, found, owes⟩
  · exact Or.inl (compensated.rewritten (settlement_receipts settled))
  rcases settlement_cases settled with ⟨plain, rfl, rfl⟩ |
    ⟨status, obligationId, source, boundTo, rfl, located, rfl⟩
  · obtain ⟨success, member, succeeded⟩ := successful
    refine Or.inr ⟨⟨success, List.mem_append_left _ member, succeeded⟩, obligation, ?_, owes⟩
    cases status : receipt.status with
    | succeeded =>
      have same : afterSuccess item receipt obligation = obligation := by
        by_contra changed
        exact plain (bound_of_satisfied goalId (kept (Or.inl status)) ⟨success, member, succeeded⟩
          found owes changed).1
      rw [obligationUnder_settled (Or.inl status) found, same]
    | compensated => exact absurd status plain
    | failed => exact obligationUnder_failed (Or.inl status) found
    | indeterminate => exact obligationUnder_failed (Or.inr status) found
  · obtain ⟨known, identity⟩ := lookupRow_some found
    have closed : obligationUnder (closeCompensation
        (settledObligations definition state item receipt) obligationId proposal.action receipt)
        (compensationId receiptId) = some (afterClosing obligationId proposal.action receipt
          (afterSuccess item receipt obligation)) :=
      obligationUnder_closed (obligationUnder_settled (Or.inr status) found)
    by_cases same : obligationId = obligation.obligationId
    · -- The settlement is bound to the obligation, so it marks the receipt.
      refine covered_marked successful (Or.inl ?_)
      rw [same, identity] at located
      rw [same, identity] at closed
      have first : (obligationUnder _ _).bind MissionObligation.sourceReceiptId = some source :=
        located
      rw [closed, Option.bind_some, (afterClosing_identity _ _ _ _).2,
        (afterSuccess_identity _ _ _).2, owes.1] at first
      exact Option.some.inj first
    · refine covered_marked successful (Or.inr ⟨obligation, ?_, owes⟩)
      have kept : afterSuccess item receipt obligation = obligation := by
        by_contra changed
        have bound := (bound_of_satisfied goalId (kept (Or.inr status)) successful found owes
          changed).2
        rw [boundTo] at bound
        exact same (Option.some.inj bound)
      rw [closed, kept]
      refine congrArg some (if_neg ?_)
      exact fun closes => same closes.2.1.symm

variable {operation : MissionOperation} {rotate : Bool}

section

variable (transition : MissionTransition sha256 definition state operation patched rotate)
include transition

theorem transition_covered (kept : losesCompensation definition state operation = false)
    (covered : Covered state.obligations state.receipts receiptId) :
    Covered patched.obligations patched.receipts receiptId := by
  cases transition with
  | obligationOpened =>
    rcases covered with compensated | ⟨successful, obligation, found, owes⟩
    · exact Or.inl compensated
    · exact Or.inr ⟨successful, obligation, obligationUnder_append found, owes⟩
  | actionSettled input proposal item obligations receipts found authorized focused current
      identified unused declared settled =>
    refine Covered.settled settled rfl ?_ covered
    rintro (succeeded | compensated)
    · have status : input.status = .succeeded := succeeded
      simpa [losesCompensation, found, declared, status, newReceipt] using kept
    · have status : input.status = .compensated := compensated
      simpa [losesCompensation, found, declared, status, newReceipt] using kept
  | _ => exact covered

/-- A mission that completes has compensated what was covered. -/
theorem transition_compensated (covered : Covered state.obligations state.receipts receiptId)
    (compensated : state.status = .completed → Compensated state.receipts receiptId)
    (completed : patched.status = .completed) : Compensated patched.receipts receiptId := by
  cases transition with
  | actionSettled input proposal item obligations receipts found authorized focused current
      identified unused declared settled =>
    exact (compensated completed).rewritten (settlement_receipts settled)
  | missionCompleted recordedAt achieved unfocused discharged =>
    rcases covered with done | ⟨_, obligation, found, owes⟩
    · exact done
    · obtain ⟨known, _⟩ := lookupRow_some found
      exact absurd owes.2 (discharged obligation known)
  | _ => exact compensated completed

end

/-! ## Runs -/

/-- The settlement fails or stays open in a saga group, after the success of a capability of
that group that declares a compensation. -/
structure LeavesBehind (definition : MissionDefinition) (state : MissionState)
    (input : SettleInput) (prior : MissionReceipt) : Prop where
  failed : input.status = .failed ∨ input.status = .indeterminate
  member : prior ∈ state.receipts
  succeeded : prior.status = .succeeded
  grouped : ∃ proposal item saga priorItem priorSaga name,
    state.proposals.find? (fun candidate => candidate.proposalId = input.proposalId) =
      some proposal ∧
    capability definition proposal.action = .ok item ∧ item.saga = some saga ∧
    capability definition prior.action = .ok priorItem ∧ priorItem.saga = some priorSaga ∧
    priorSaga.group = saga.group ∧ priorSaga.compensationAction = some name

/-- A failure that finds no identity taken covers every success that it leaves behind. -/
theorem transition_leavesBehind {input : SettleInput}
    (accepted : MissionDefinitionSchema definition)
    (transition : MissionTransition sha256 definition state (.settleMissionAction input) patched
      rotate) (kept : losesCompensation definition state (.settleMissionAction input) = false)
    (left : LeavesBehind definition state input prior) :
    Covered patched.obligations patched.receipts prior.receiptId := by
  obtain ⟨failed, member, succeeded, proposal, item, saga, priorItem, priorSaga, name, found,
    declared, grouped, priorDeclared, priorGrouped, same, compensation⟩ := left
  have owed : (sagaCompensation definition saga prior).isSome := by
    have named := compensation_named accepted (capability_ok priorDeclared).1 priorGrouped compensation
    unfold capability at priorDeclared
    split at priorDeclared
    · cases priorDeclared
    · next known =>
      cases priorDeclared
      simp [sagaCompensation, succeeded, known, priorGrouped, same, compensation, Option.filter_some,
        named]
  have free : identityTaken definition state item = false := by
    rcases failed with status | status
    · simpa [losesCompensation, found, declared, status] using kept
    · simpa [losesCompensation, found, declared, status] using kept
  have untaken : ∀ obligation, obligationUnder state.obligations
      (compensationId prior.receiptId) = some obligation → Owes prior.receiptId obligation := by
    intro obligation under
    rw [identityTaken, grouped, Option.any_some] at free
    have unflagged := List.any_eq_false.mp free prior member
    simpa [owed, under] using unflagged
  cases transition with
  | actionSettled _ other otherItem obligations receipts otherFound authorized focused current
      identified unused otherDeclared settled =>
    rw [found] at otherFound
    cases otherFound
    rw [declared] at otherDeclared
    cases otherDeclared
    rcases settlement_cases settled with ⟨_, rfl, rfl⟩ | ⟨compensated, _⟩
    · refine Or.inr ⟨⟨prior, List.mem_append_left _ member, rfl, succeeded⟩, ?_⟩
      have receiptFailed : (newReceipt sha256 state proposal input).status = .failed ∨
          (newReceipt sha256 state proposal input).status = .indeterminate := failed
      rw [settledObligations_failed receiptFailed grouped]
      exact openCompensations_owes owed state.obligations state.receipts member untaken
    · have status : input.status = .compensated := compensated
      rw [status] at failed
      rcases failed with impossible | impossible
      · cases impossible
      · cases impossible

/-- A covered receipt, compensated once the mission is completed. -/
structure Tracked (state : MissionState) (receiptId : String) : Prop where
  covered : Covered state.obligations state.receipts receiptId
  compensated : state.status = .completed → Compensated state.receipts receiptId

theorem missionStep_tracked (kept : losesCompensation definition state operation = false)
    (tracked : Tracked state receiptId) :
    Tracked (missionStep sha256 definition state operation) receiptId := by
  refine missionStep_keeps (Tracked · receiptId) tracked fun patched rotate events transition => ?_
  have covered := transition_covered transition kept tracked.covered
  have compensated := transition_compensated transition tracked.covered tracked.compensated
  exact ⟨covered, compensated⟩

/-- No goal is focused in a completed mission, and so nothing is settled there. -/
theorem runMission_unfocused {recordedAt : String} {initial : MissionState}
    (created : createMissionState sha256 definition recordedAt = .ok initial)
    (operations : List MissionOperation) :
    (runMission sha256 definition initial operations).status = .completed →
      (runMission sha256 definition initial operations).focusStack = [] := by
  refine Runs.run_invariant
    (fun state : MissionState => state.status = .completed → state.focusStack = []) ?_ ?_ operations
  · obtain rfl := eq_openedMission created
    intro impossible
    cases impossible
  · intro state operation unfocused
    refine missionStep_keeps (fun state => state.status = .completed → state.focusStack = []) unfocused
      fun patched rotate events transition => ?_
    have idle := transition_unfocused transition unfocused
    exact idle

/-- Identities are sound in every run. -/
theorem runMission_identified {recordedAt : String} {initial : MissionState}
    (created : createMissionState sha256 definition recordedAt = .ok initial)
    (operations : List MissionOperation) :
    Identified (runMission sha256 definition initial operations).proposals
      (runMission sha256 definition initial operations).receipts := by
  refine Runs.run_invariant (fun state : MissionState => Identified state.proposals state.receipts)
    (createMissionState_wellIdentified created).identified ?_ operations
  intro state operation known
  refine missionStep_keeps (fun state => Identified state.proposals state.receipts) known
    fun patched rotate events transition => ?_
  have identified := transition_identified transition known
  exact identified

/-- In every run that loses track of no compensation: when the mission is completed, every
success that a failed or indeterminate settlement of its saga group left behind is
compensated. -/
theorem saga_compensation_complete (definition : MissionDefinition) (recordedAt : String)
    (initial : MissionState)
    (created : createMissionState sha256 definition recordedAt = .ok initial)
    (before after : List MissionOperation) (input : SettleInput) (next : MissionState)
    (settled : settleMissionAction sha256 definition (runMission sha256 definition initial before)
      input = .ok next)
    (prior : MissionReceipt)
    (left : LeavesBehind definition (runMission sha256 definition initial before) input prior)
    (kept : Runs.Meets (missionStep sha256 definition)
      (fun state operation => losesCompensation definition state operation = false) initial
      (before ++ .settleMissionAction input :: after))
    (completed : (runMission sha256 definition initial
      (before ++ .settleMissionAction input :: after)).status = .completed) :
    Compensated (runMission sha256 definition initial
        (before ++ .settleMissionAction input :: after)).receipts prior.receiptId ∧
      ∀ receipt ∈ (runMission sha256 definition initial
          (before ++ .settleMissionAction input :: after)).receipts,
        receipt.receiptId = prior.receiptId → receipt.status = .compensated := by
  have accepted := createMissionState_accepted created
  have step : missionStep sha256 definition (runMission sha256 definition initial before)
      (.settleMissionAction input) = next := by
    rw [missionStep, operate, settled]
  obtain ⟨settledKept, afterKept⟩ : losesCompensation definition
        (runMission sha256 definition initial before) (.settleMissionAction input) = false ∧
      Runs.Meets (missionStep sha256 definition)
        (fun state operation => losesCompensation definition state operation = false)
        (missionStep sha256 definition (runMission sha256 definition initial before)
          (.settleMissionAction input)) after :=
    Runs.meets_right kept
  rw [step] at afterKept
  have tracked : Tracked next prior.receiptId := by
    obtain ⟨patched, rotate, eventType, payload, time, transition, appended⟩ :=
      settleMissionAction_advances settled
    have covered := transition_leavesBehind accepted transition settledKept left
    have idle := runMission_unfocused created before
    obtain ⟨_, rfl, rfl⟩ := appendEvent_ok appended
    refine ⟨covered, ?_⟩
    cases transition with
    | actionSettled _ _ _ _ _ _ _ focused =>
      intro done
      rw [currentGoalId, idle done] at focused
      cases focused
  have reached : runMission sha256 definition initial
      (before ++ .settleMissionAction input :: after) = runMission sha256 definition next after := by
    rw [runMission, Runs.run_append, Runs.run_cons]
    exact congrArg (fun state => Runs.run (missionStep sha256 definition) state after) step
  have final : Tracked (runMission sha256 definition initial
      (before ++ .settleMissionAction input :: after)) prior.receiptId := by
    rw [reached]
    exact Runs.run_invariant_meets (fun state => Tracked state prior.receiptId) tracked
      (fun _ _ => missionStep_tracked) after afterKept
  obtain ⟨receipt, member, named, status⟩ := final.compensated completed
  refine ⟨⟨receipt, member, named, status⟩, ?_⟩
  intro other known same
  have identified := runMission_identified created (before ++ .settleMissionAction input :: after)
  rw [identified.receiptIds.same_row known member (same.trans named.symm)]
  exact status

/-! ## A compensation satisfied by its type -/

def chargeCard : MissionCapability :=
  ⟨"charge_card", "Charge the card", .reversible, ["order"], [], none, .perGoal, [], [],
    some ⟨"checkout", some "refund_charge"⟩⟩

def shipOrder : MissionCapability :=
  ⟨"ship_order", "Ship the order", .reversible, ["order"], [], none, .perGoal, [], [],
    some ⟨"checkout", none⟩⟩

/-- The refund that compensates the charge also declares that it satisfies the obligation to
do so. -/
def refundCharge : MissionCapability :=
  ⟨"refund_charge", "Refund the charge", .reversible, ["order"], [], none, .perGoal, [],
    ["compensate:charge_card"], none⟩

/-- An order charges a card and ships. -/
def orderMission : MissionDefinition where
  id := "orders"
  version := "1"
  label := "Orders"
  globalCapabilities := []
  goals := [⟨"order", "Order", true, true, [], ["charge_card", "ship_order"], [], []⟩]
  capabilities := [chargeCard, shipOrder, refundCharge]

theorem orderMission_created : createMissionState Sha256.digest orderMission noon =
    .ok (openedMission Sha256.digest orderMission noon) :=
  createMissionState_opened (by decide +kernel) (by decide +kernel)

theorem orderMission_recorded : Recorded Sha256.digest orderMission
    (openedMission Sha256.digest orderMission noon) :=
  createMissionState_recorded digest_hexadecimal orderMission_created

/-- The state of the order after some operations. -/
def orderAfter (operations : List MissionOperation) : MissionState :=
  runMission Sha256.digest orderMission (openedMission Sha256.digest orderMission noon) operations

theorem orderAfter_eq (operations : List MissionOperation) :
    orderAfter operations = Runs.run (recordedStep Sha256.digest orderMission)
      (openedMission Sha256.digest orderMission noon) operations :=
  runMission_eq_recorded orderMission_recorded operations

def proposeStep (action proposalId : String) : MissionOperation :=
  .proposeMissionAction ⟨action, [], some proposalId, "", "", noon⟩

/-- The card is charged and the shipment proposed. -/
def chargedOrder : List MissionOperation :=
  [.activateMissionGoal ⟨"order", .root, noon⟩, proposeStep "charge_card" "proposal-1",
    .settleMissionAction ⟨"proposal-1", "receipt-1", .succeeded, none, noon⟩,
    proposeStep "ship_order" "proposal-2"]

/-- The shipment fails. -/
def failShipment : SettleInput := ⟨"proposal-2", "receipt-2", .failed, none, noon⟩

/-- The refund is settled with a status, and the mission is completed. -/
def refundedOrder (status : MissionReceiptStatus) : List MissionOperation :=
  [proposeStep "refund_charge" "proposal-3",
    .settleMissionAction ⟨"proposal-3", "receipt-3", status, none, noon⟩,
    .completeMissionGoal ⟨"order", noon⟩, .completeMission noon]

def receiptStatuses (state : MissionState) : List (String × MissionReceiptStatus) :=
  state.receipts.map fun receipt => (receipt.receiptId, receipt.status)

/-- The refund settles as a plain success: it satisfies the obligation by its type, and the
mission completes with the charge still recorded as successful. -/
theorem charge_left_uncompensated :
    createMissionState Sha256.digest orderMission noon = .ok (orderAfter []) ∧
      (orderAfter (chargedOrder ++ .settleMissionAction failShipment ::
        refundedOrder .succeeded)).status = .completed ∧
      receiptStatuses (orderAfter (chargedOrder ++ .settleMissionAction failShipment ::
          refundedOrder .succeeded)) =
        [("receipt-1", .succeeded), ("receipt-2", .failed), ("receipt-3", .succeeded)] := by
  have reached : ((orderAfter (chargedOrder ++ .settleMissionAction failShipment ::
        refundedOrder .succeeded)).status,
      receiptStatuses (orderAfter (chargedOrder ++ .settleMissionAction failShipment ::
        refundedOrder .succeeded))) =
      (.completed, [("receipt-1", .succeeded), ("receipt-2", .failed),
        ("receipt-3", .succeeded)]) := by
    rw [orderAfter_eq]
    decide +kernel
  exact ⟨orderMission_created, Prod.mk.inj reached⟩

/-- The failed shipment leaves the charge behind. -/
theorem failShipment_leavesBehind : ∃ charge, charge.receiptId = "receipt-1" ∧
    LeavesBehind orderMission (orderAfter chargedOrder) failShipment charge := by
  have listed : ((orderAfter chargedOrder).receipts.map
        (fun receipt => (receipt.receiptId, receipt.status, receipt.action)),
      ((orderAfter chargedOrder).proposals.find?
        (fun candidate => candidate.proposalId = failShipment.proposalId)).map
        MissionProposal.action) =
      ([("receipt-1", .succeeded, "charge_card")], some "ship_order") := by
    rw [orderAfter_eq]
    decide +kernel
  obtain ⟨receipts, actions⟩ := Prod.mk.inj listed
  obtain ⟨proposal, found, action⟩ := Option.map_eq_some_iff.mp actions
  obtain ⟨charge, member, fields⟩ := List.mem_map.mp (receipts ▸ List.mem_singleton_self _)
  simp only [Prod.mk.injEq] at fields
  obtain ⟨named, succeeded, charged⟩ := fields
  refine ⟨charge, named, Or.inl rfl, member, succeeded, proposal, shipOrder, _, chargeCard, _,
    "refund_charge", found, ?_, rfl, ?_, rfl, rfl, rfl⟩
  · rw [action]
    rfl
  · rw [charged]
    rfl

/-- The refund settles as a compensation: the completed mission has compensated the charge. -/
theorem charge_compensated :
    ∃ next charge, settleMissionAction Sha256.digest orderMission (orderAfter chargedOrder)
        failShipment = .ok next ∧ charge.receiptId = "receipt-1" ∧
      LeavesBehind orderMission (orderAfter chargedOrder) failShipment charge ∧
      Compensated (orderAfter (chargedOrder ++ .settleMissionAction failShipment ::
        refundedOrder .compensated)).receipts charge.receiptId := by
  obtain ⟨charge, named, left⟩ := failShipment_leavesBehind
  have kept : Runs.Meets (missionStep Sha256.digest orderMission)
      (fun state operation => losesCompensation orderMission state operation = false)
      (orderAfter [])
      (chargedOrder ++ .settleMissionAction failShipment :: refundedOrder .compensated) :=
    meets_of_recorded orderMission_recorded _ (by decide +kernel)
  have completed : (orderAfter (chargedOrder ++ .settleMissionAction failShipment ::
      refundedOrder .compensated)).status = .completed := by
    rw [orderAfter_eq]
    decide +kernel
  have returned : (settleMissionAction Sha256.digest orderMission (orderAfter chargedOrder)
      failShipment).toOption.isSome = true := by
    have recorded : Recorded Sha256.digest orderMission (orderAfter chargedOrder) :=
      runMission_recorded orderMission_recorded chargedOrder
    rw [settleMissionAction, recorded.requireVerified_eq, orderAfter_eq]
    decide +kernel
  cases settled : settleMissionAction Sha256.digest orderMission (orderAfter chargedOrder)
      failShipment with
  | error =>
    rw [settled] at returned
    cases returned
  | ok next =>
    exact ⟨next, charge, rfl, named, left, (saga_compensation_complete orderMission noon _
      orderMission_created chargedOrder _ failShipment next settled charge left kept completed).1⟩

end CallCenter.MissionSaga
