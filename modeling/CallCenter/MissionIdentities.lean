import CallCenter.MissionIntegrity

/-!
# Identities in the ledgers of a mission

`verifyMissionState` reports ledgers in which an obligation, a proposal or a receipt
identity occurs twice, and receipts that their proposal does not name. Proposals and
receipts never fail it: every operation that adds one checks its identity. Obligations
do: the identity of an obligation that a settlement opens is built from the receipt and
the type, and nothing checks it against the identities in use.
-/

namespace CallCenter.MissionIdentities

open FlowDefinition Guards KeyedTables ListRewrites MissionSchema MissionLedger MissionRuntime
  MissionSettlement MissionTransitions MissionIntegrity

/-! ## The report -/

/-- A report when an identity occurs twice. -/
def duplicateErrors (identities : List String) (message : String) : List String :=
  if (distinct identities).length ≠ identities.length then [message] else []

def receiptErrors (state : MissionState) (receipt : MissionReceipt) : List String :=
  let proposal := state.proposals.find? fun candidate => candidate.proposalId = receipt.proposalId
  if (proposal.bind MissionProposal.receiptId) = some receipt.receiptId then []
  else [s!"receipt {receipt.receiptId} is not bijective with its proposal"]

/-- The errors of the ledgers. -/
def ledgerErrors (state : MissionState) : List String :=
  duplicateErrors (state.obligations.map MissionObligation.obligationId)
      "obligation ids are not unique"
    ++ duplicateErrors (state.proposals.map MissionProposal.proposalId)
      "proposal ids are not unique"
    ++ duplicateErrors (state.receipts.map MissionReceipt.receiptId) "receipt ids are not unique"
    ++ state.receipts.flatMap (receiptErrors state)

/-- The errors of the goal catalog; activation counts are natural numbers. -/
def catalogErrors (definition : MissionDefinition) (state : MissionState) : List String :=
  state.goals.flatMap (fun entry =>
      if definition.goals.any fun candidate => candidate.id = entry.1 then []
      else [s!"state has unknown goal {entry.1}"])
    ++ if state.goals.length ≠ definition.goals.length then ["state goal catalog is incomplete"]
      else []

def verifyMissionState (sha256 : String → String) (definition : MissionDefinition)
    (state : MissionState) : Bool × List String :=
  let errors := match requireVerified sha256 definition state with
    | .error message => [message]
    | .ok () => catalogErrors definition state ++ ledgerErrors state
  (errors.isEmpty, errors)

/-- Distinct identities raise no report. -/
theorem duplicateErrors_eq_nil {identities : List String} (message : String)
    (nodup : identities.Nodup) : duplicateErrors identities message = [] := by
  have same : (distinct identities).Perm identities :=
    (List.perm_ext_iff_of_nodup (nodup_distinct identities) nodup).mpr (mem_distinct identities)
  simp [duplicateErrors, same.length_eq]

/-! ## Settlements -/

variable {sha256 : String → String} {definition : MissionDefinition}
  {state patched next : MissionState}

/-- A settlement may turn earlier receipts into compensated ones, and changes nothing
else in them. -/
def Compensates (before after : MissionReceipt) : Prop :=
  after = before ∨ after = { before with status := .compensated }

variable {receipt : MissionReceipt} {item : MissionCapability} {proposal : MissionProposal}
  {obligations : List MissionObligation}

/-- What a settlement does to the ledgers that it does not add to. -/
theorem settlement_cases {receipts : List MissionReceipt}
    (settled : settlement definition state item proposal receipt = .ok (obligations, receipts)) :
    (receipt.status ≠ .compensated ∧
        obligations = settledObligations definition state item receipt ∧
        receipts = state.receipts) ∨
      (receipt.status = .compensated ∧ ∃ obligationId sourceReceiptId,
        proposal.compensationObligationId = some obligationId ∧
        obligations = closeCompensation (settledObligations definition state item receipt)
          obligationId proposal.action receipt ∧
        (obligations.find? fun obligation => obligation.obligationId = obligationId).bind
          MissionObligation.sourceReceiptId = some sourceReceiptId ∧
        receipts = state.receipts.map fun prior =>
          if prior.receiptId = sourceReceiptId then { prior with status := .compensated }
          else prior) := by
  simp only [settlement] at settled
  split at settled
  · next compensated =>
    unfold compensate at settled
    split at settled
    · cases settled
    · next obligationId bound =>
      dsimp only at settled
      split at settled
      · cases settled
      · next sourceReceiptId source =>
        cases settled
        exact Or.inr ⟨compensated, obligationId, sourceReceiptId,
          (Option.filter_eq_some_iff.mp bound).1, rfl, (Option.filter_eq_some_iff.mp source).1, rfl⟩
  · next plain =>
    cases settled
    exact Or.inl ⟨plain, rfl, rfl⟩

/-- Earlier receipts survive a settlement, some of them compensated. -/
theorem settlement_receipts {receipts : List MissionReceipt}
    (settled : settlement definition state item proposal receipt = .ok (obligations, receipts)) :
    List.Forall₂ Compensates state.receipts receipts := by
  rcases settlement_cases settled with ⟨_, _, rfl⟩ | ⟨_, _, source, _, _, _, rfl⟩
  · exact List.forall₂_same.mpr fun receipt _ => Or.inl rfl
  · refine List.forall₂_map_right_iff.mpr (List.forall₂_same.mpr ?_)
    intro prior _
    by_cases same : prior.receiptId = source
    · exact Or.inr (if_pos same)
    · exact Or.inl (if_neg same)

/-! ## Proposals and receipts -/

/-- Identities are distinct, an open proposal names no receipt, and proposals and receipts
name each other. -/
structure Identified (proposals : List MissionProposal) (receipts : List MissionReceipt) :
    Prop where
  proposalIds : DistinctKeys MissionProposal.proposalId proposals
  receiptIds : DistinctKeys MissionReceipt.receiptId receipts
  unsettled : ∀ proposal ∈ proposals,
    proposal.status = .proposed ∨ proposal.status = .authorized → proposal.receiptId = none
  proposed : ∀ receipt ∈ receipts, ∃ proposal ∈ proposals,
    proposal.proposalId = receipt.proposalId ∧ proposal.receiptId = some receipt.receiptId
  settled : ∀ proposal ∈ proposals, ∀ receiptId, proposal.receiptId = some receiptId →
    ∃ receipt ∈ receipts, receipt.receiptId = receiptId ∧ receipt.proposalId = proposal.proposalId

variable {proposals : List MissionProposal} {receipts : List MissionReceipt}

/-- A row with an unused key may be appended. -/
theorem distinctKeys_snoc {ρ : Type} {keyOf : ρ → String} {table : List ρ} {row : ρ}
    (distinct : DistinctKeys keyOf table) (unused : ∀ other ∈ table, keyOf other ≠ keyOf row) :
    DistinctKeys keyOf (table ++ [row]) := by
  refine distinct.append ?_
  simpa [lookupRow] using unused

section

variable (identified : Identified proposals receipts)
include identified

/-- Proposals may be rewritten as long as they keep their identity and receipt and are not
reopened. -/
theorem Identified.rewritten {change : MissionProposal → MissionProposal}
    (keeps : ∀ proposal, (change proposal).proposalId = proposal.proposalId)
    (names : ∀ proposal, (change proposal).receiptId = proposal.receiptId)
    (closes : ∀ proposal ∈ proposals,
      (change proposal).status = .proposed ∨ (change proposal).status = .authorized →
        proposal.status = .proposed ∨ proposal.status = .authorized) :
    Identified (proposals.map change) receipts := by
  constructor
  · exact identified.proposalIds.mapped keeps
  · exact identified.receiptIds
  · intro _ member waiting
    obtain ⟨proposal, known, rfl⟩ := List.mem_map.mp member
    rw [names]
    exact identified.unsettled proposal known (closes proposal known waiting)
  · intro receipt member
    obtain ⟨proposal, known, same, named⟩ := identified.proposed receipt member
    exact ⟨change proposal, List.mem_map_of_mem known, (keeps proposal).trans same,
      (names proposal).trans named⟩
  · intro _ member receiptId named
    obtain ⟨proposal, known, rfl⟩ := List.mem_map.mp member
    rw [names] at named
    rw [keeps]
    exact identified.settled proposal known receiptId named

/-- A proposal with a new identity may be added. -/
theorem Identified.add (unused : ∀ other ∈ proposals, other.proposalId ≠ proposal.proposalId)
    (unsettled : proposal.receiptId = none) : Identified (proposals ++ [proposal]) receipts := by
  constructor
  · exact distinctKeys_snoc identified.proposalIds unused
  · exact identified.receiptIds
  · intro other member waiting
    rcases List.mem_append.mp member with known | last
    · exact identified.unsettled other known waiting
    · rw [List.mem_singleton.mp last]
      exact unsettled
  · intro receipt member
    obtain ⟨other, known, linked⟩ := identified.proposed receipt member
    exact ⟨other, List.mem_append_left _ known, linked⟩
  · intro other member receiptId named
    rcases List.mem_append.mp member with known | last
    · exact identified.settled other known receiptId named
    · rw [List.mem_singleton.mp last, unsettled] at named
      cases named

/-- Settling an authorized proposal adds its receipt. -/
theorem Identified.settle {later : List MissionReceipt} {input : SettleInput}
    (member : proposal ∈ proposals) (authorized : proposal.status = .authorized)
    (unused : ∀ other ∈ receipts, other.receiptId ≠ receipt.receiptId)
    (kept : List.Forall₂ Compensates receipts later) (named : receipt.receiptId = input.receiptId)
    (same : receipt.proposalId = proposal.proposalId) :
    Identified (rewriteProposal proposals proposal.proposalId (settleProposal input))
      (later ++ [receipt]) := by
  have earlier : ∀ other ∈ later, ∃ original ∈ receipts,
      other.receiptId = original.receiptId ∧ other.proposalId = original.proposalId := by
    intro other known
    obtain ⟨original, before, rfl | rfl⟩ := exists_before kept known
    · exact ⟨_, before, rfl, rfl⟩
    · exact ⟨_, before, rfl, rfl⟩
  have survives : ∀ original ∈ receipts, ∃ other ∈ later,
      other.receiptId = original.receiptId ∧ other.proposalId = original.proposalId := by
    intro original before
    obtain ⟨other, known, rfl | rfl⟩ := exists_after kept before
    · exact ⟨_, known, rfl, rfl⟩
    · exact ⟨_, known, rfl, rfl⟩
  constructor
  · refine identified.proposalIds.mapped ?_
    intro row
    split
    · rfl
    · rfl
  · refine distinctKeys_snoc (identified.receiptIds.rewritten ?_ kept) ?_
    · rintro row _ (rfl | rfl)
      · rfl
      · rfl
    · intro other known
      obtain ⟨original, before, identity, _⟩ := earlier other known
      rw [identity]
      exact unused original before
  · intro _ known waiting
    obtain ⟨row, before, rfl⟩ := List.mem_map.mp known
    split at waiting
    · simp only [settleProposal] at waiting
      split at waiting
      · simp at waiting
      · simp at waiting
    · next other =>
      rw [if_neg other]
      exact identified.unsettled row before waiting
  · intro other known
    rcases List.mem_append.mp known with old | last
    · obtain ⟨original, before, identity, owner⟩ := earlier other old
      obtain ⟨row, present, linked, receiptNamed⟩ := identified.proposed original before
      -- The settled proposal named no receipt yet, so it is another row.
      have different : row.proposalId ≠ proposal.proposalId := by
        intro equal
        have equalRow : row = proposal :=
          identified.proposalIds.same_row present member equal
        rw [equalRow, identified.unsettled proposal member (Or.inr authorized)] at receiptNamed
        cases receiptNamed
      refine ⟨row, List.mem_map.mpr ⟨row, present, if_neg different⟩, ?_, ?_⟩
      · rw [linked, owner]
      · rw [receiptNamed, identity]
    · rw [List.mem_singleton.mp last]
      refine ⟨settleProposal input proposal, List.mem_map.mpr ⟨proposal, member, if_pos rfl⟩, ?_, ?_⟩
      · exact same.symm
      · rw [named]
        rfl
  · intro _ known receiptId receiptNamed
    obtain ⟨row, before, rfl⟩ := List.mem_map.mp known
    split at receiptNamed
    · next equal =>
      rw [if_pos equal]
      have identity : input.receiptId = receiptId := Option.some.inj receiptNamed
      refine ⟨receipt, List.mem_append_right _ List.mem_cons_self, named.trans identity, ?_⟩
      exact same.trans equal.symm
    · next different =>
      rw [if_neg different]
      obtain ⟨original, present, identity, owner⟩ :=
        identified.settled row before receiptId receiptNamed
      obtain ⟨other, kept, otherIdentity, otherOwner⟩ := survives original present
      exact ⟨other, List.mem_append_left _ kept, otherIdentity.trans identity,
        otherOwner.trans owner⟩

end

variable {operation : MissionOperation}

/-- No transition breaks the identities of proposals and receipts. -/
theorem transition_identified {rotate : Bool}
    (transition : MissionTransition sha256 definition state operation patched rotate)
    (identified : Identified state.proposals state.receipts) :
    Identified patched.proposals patched.receipts := by
  cases transition with
  | activated => exact identified
  | factRecorded =>
    refine identified.rewritten ?_ ?_ ?_
    · intro proposal
      unfold revokeOpen
      split
      · rfl
      · rfl
    · intro proposal
      unfold revokeOpen
      split
      · rfl
      · rfl
    · intro proposal _ waiting
      unfold revokeOpen at waiting
      split at waiting
      · simp at waiting
      · exact waiting
  | obligationOpened => exact identified
  | actionProposed input item decisions decision goalId proposalId declared available disclosed
      allowed focused first identity unused =>
    exact identified.add unused rfl
  | actionAuthorized input proposal item confirmation found awaiting =>
    refine identified.rewritten ?_ ?_ ?_
    · intro row
      split
      · rfl
      · rfl
    · intro row
      split
      · rfl
      · rfl
    · intro row known waiting
      split at waiting
      · next same =>
        have equal : row = proposal :=
          identified.proposalIds.same_row known (List.mem_of_find?_eq_some found) same
        rw [equal]
        exact Or.inl awaiting
      · exact waiting
  | actionSettled input proposal item obligations receipts found authorized focused current
      identity unused declared settled =>
    exact identified.settle (List.mem_of_find?_eq_some found) authorized unused
      (settlement_receipts settled) rfl rfl
  | goalCompleted | goalAbandoned | missionCompleted => exact identified

/-! ## Obligations -/

/-- The identity of an obligation that a settlement opens. -/
def templateId (receiptId : String) (template : MissionObligationTemplate) : String :=
  s!"obl:{receiptId}:{template.obligationType}"

/-- The settlement opens an obligation under an identity that is already in use. -/
def reusesObligationId (definition : MissionDefinition) (state : MissionState) :
    MissionOperation → Bool
  | .settleMissionAction input =>
    decide (input.status = .succeeded ∨ input.status = .compensated) &&
      match state.proposals.find? fun candidate => candidate.proposalId = input.proposalId with
      | none => false
      | some proposal =>
        match capability definition proposal.action with
        | .error _ => false
        | .ok item =>
          item.opensObligations.any fun template =>
            state.obligations.any fun obligation =>
              obligation.obligationId = templateId input.receiptId template
  | _ => false

theorem satisfyObligations_ids (obligations : List MissionObligation) (types : List String)
    (goalId : String) (revision : Nat) (receiptId : String) :
    (satisfyObligations obligations types goalId revision receiptId).map
        MissionObligation.obligationId =
      obligations.map MissionObligation.obligationId := by
  rw [satisfyObligations, List.map_map]
  refine List.map_congr_left fun obligation _ => ?_
  simp only [Function.comp_apply]
  split
  · rfl
  · rfl

/-- Compensations are opened only under unused identities. -/
theorem openCompensations_distinct {saga : Saga} {actionName goalId : String} {revision : Nat}
    (priors : List MissionReceipt)
    (distinct : DistinctKeys MissionObligation.obligationId obligations) :
    DistinctKeys MissionObligation.obligationId
      (openCompensations definition saga actionName goalId revision obligations priors) := by
  induction priors generalizing obligations with
  | nil => exact distinct
  | cons prior rest ih =>
    rw [openCompensations]
    split
    · exact ih distinct
    · dsimp only
      split
      · exact ih distinct
      · next unused =>
        refine ih (distinctKeys_snoc distinct ?_)
        simpa using unused

/-- A settlement that opens no obligation under an identity in use keeps identities
distinct. -/
theorem settledObligations_distinct
    (distinct : DistinctKeys MissionObligation.obligationId state.obligations)
    (types : (item.opensObligations.map MissionObligationTemplate.obligationType).Nodup)
    (unused : receipt.status = .succeeded ∨ receipt.status = .compensated →
      ∀ template ∈ item.opensObligations, ∀ obligation ∈ state.obligations,
        obligation.obligationId ≠ templateId receipt.receiptId template) :
    DistinctKeys MissionObligation.obligationId (settledObligations definition state item receipt) := by
  have opening : receipt.status = .succeeded ∨ receipt.status = .compensated →
      DistinctKeys MissionObligation.obligationId
        (satisfyObligations state.obligations item.satisfiesObligationTypes receipt.goalId
            receipt.settledRevision receipt.receiptId
          ++ item.opensObligations.map (templateObligation receipt)) := by
    intro opens
    have templates : (item.opensObligations.map (templateId receipt.receiptId)).Nodup := by
      refine List.Nodup.map_on ?_ (List.Nodup.of_map _ types)
      intro first left second right same
      have sameType : toString first.obligationType = toString second.obligationType := by
        simpa [templateId] using same
      exact List.inj_on_of_nodup_map types left right sameType
    unfold DistinctKeys
    rw [List.map_append, satisfyObligations_ids, List.map_map]
    refine List.nodup_append.mpr ⟨distinct, templates, ?_⟩
    intro identity known other opened same
    obtain ⟨obligation, member, rfl⟩ := List.mem_map.mp known
    obtain ⟨template, listed, rfl⟩ := List.mem_map.mp opened
    exact unused opens template listed obligation member same
  unfold settledObligations
  split
  · next succeeded => exact opening (Or.inl succeeded)
  · next compensated => exact opening (Or.inr compensated)
  all_goals
    split
    · exact distinct
    · exact openCompensations_distinct state.receipts distinct

/-- The declared capability is one of the definition. -/
theorem capability_ok {action : String} (declared : capability definition action = .ok item) :
    item ∈ definition.capabilities ∧ item.name = action := by
  unfold capability at declared
  split at declared
  · cases declared
  · next found =>
    cases declared
    exact ⟨List.mem_of_find?_eq_some found, by simpa using List.find?_some found⟩

/-- A transition that reuses no identity keeps the identities of obligations distinct. -/
theorem transition_obligations {rotate : Bool} (accepted : MissionDefinitionSchema definition)
    (transition : MissionTransition sha256 definition state operation patched rotate)
    (distinct : DistinctKeys MissionObligation.obligationId state.obligations)
    (fresh : reusesObligationId definition state operation = false) :
    DistinctKeys MissionObligation.obligationId patched.obligations := by
  cases transition with
  | activated | factRecorded => exact distinct
  | obligationOpened input compensable identity unused => exact distinctKeys_snoc distinct unused
  | actionProposed | actionAuthorized => exact distinct
  | actionSettled input proposal item obligations receipts found authorized focused current
      identity unused declared settled =>
    have opened : DistinctKeys MissionObligation.obligationId
        (settledObligations definition state item (newReceipt sha256 state proposal input)) := by
      refine settledObligations_distinct distinct
        (opened_types_distinct accepted (capability_ok declared).1) ?_
      intro succeeded template listed obligation member same
      have reused : reusesObligationId definition state (.settleMissionAction input) := by
        simp only [reusesObligationId, found, declared, Bool.and_eq_true, decide_eq_true_eq,
          List.any_eq_true]
        exact ⟨succeeded, template, listed, obligation, member, same⟩
      rw [fresh] at reused
      cases reused
    rcases settlement_cases settled with ⟨_, rfl, _⟩ | ⟨_, _, _, _, rfl, _, _⟩
    · exact opened
    · refine opened.mapped fun obligation => ?_
      split
      · rfl
      · rfl
  | goalCompleted | goalAbandoned | missionCompleted => exact distinct

/-- The ledgers hold distinct identities, and proposals and receipts name each other. -/
structure WellIdentified (state : MissionState) : Prop where
  obligations : DistinctKeys MissionObligation.obligationId state.obligations
  identified : Identified state.proposals state.receipts

theorem createMissionState_wellIdentified {recordedAt : String}
    (created : createMissionState sha256 definition recordedAt = .ok state) :
    WellIdentified state := by
  obtain rfl := eq_openedMission created
  refine ⟨List.nodup_nil, List.nodup_nil, List.nodup_nil, ?_, ?_, ?_⟩
  · intro proposal member
    cases member
  · intro receipt member
    cases member
  · intro proposal member
    cases member

theorem missionStep_wellIdentified (accepted : MissionDefinitionSchema definition)
    (known : WellIdentified state) (fresh : reusesObligationId definition state operation = false) :
    WellIdentified (missionStep sha256 definition state operation) := by
  refine missionStep_keeps WellIdentified known fun patched rotate events transition => ?_
  have obligations := transition_obligations accepted transition known.obligations fresh
  have identified := transition_identified transition known.identified
  exact ⟨obligations, identified⟩

/-- The code's report on well identified ledgers is empty. -/
theorem WellIdentified.ledgerErrors_eq_nil (known : WellIdentified state) :
    ledgerErrors state = [] := by
  have linked : state.receipts.flatMap (receiptErrors state) = [] := by
    rw [List.flatMap_eq_nil_iff]
    intro receipt member
    obtain ⟨proposal, present, owner, named⟩ := known.identified.proposed receipt member
    have found : state.proposals.find? (fun candidate =>
        decide (candidate.proposalId = receipt.proposalId)) = some proposal := by
      rw [← owner]
      exact known.identified.proposalIds.lookupRow_self present
    simp [receiptErrors, found, named]
  rw [ledgerErrors, linked, duplicateErrors_eq_nil _ known.obligations,
    duplicateErrors_eq_nil _ known.identified.proposalIds,
    duplicateErrors_eq_nil _ known.identified.receiptIds]
  rfl

/-- The definition of a mission passes the schema. -/
theorem createMissionState_accepted {recordedAt : String}
    (created : createMissionState sha256 definition recordedAt = .ok state) :
    MissionDefinitionSchema definition := by
  simp only [createMissionState, requireDefinition, bind_ok_iff, require_ok_iff] at created
  obtain ⟨_, ⟨_, accepted, _⟩, _⟩ := created
  exact accepted

/-- In every run in which no settlement opens an obligation under an identity in use, the
obligations, the proposals and the receipts of every state have distinct identities,
proposals and receipts name each other, and the report finds no error in the ledgers. -/
theorem ledgers_well_identified (definition : MissionDefinition) (recordedAt : String)
    (initial : MissionState)
    (created : createMissionState sha256 definition recordedAt = .ok initial)
    (operations : List MissionOperation)
    (fresh : Runs.Meets (missionStep sha256 definition)
      (fun state operation => reusesObligationId definition state operation = false) initial
      operations) :
    let reached := runMission sha256 definition initial operations
    ledgerErrors reached = [] ∧ (reached.obligations.map MissionObligation.obligationId).Nodup ∧
      (reached.proposals.map MissionProposal.proposalId).Nodup ∧
      (reached.receipts.map MissionReceipt.receiptId).Nodup ∧
      (∀ receipt ∈ reached.receipts, ∃ proposal ∈ reached.proposals,
        proposal.proposalId = receipt.proposalId ∧ proposal.receiptId = some receipt.receiptId) ∧
      (∀ proposal ∈ reached.proposals, ∀ receiptId, proposal.receiptId = some receiptId →
        ∃ receipt ∈ reached.receipts,
          receipt.receiptId = receiptId ∧ receipt.proposalId = proposal.proposalId) := by
  have accepted : MissionDefinitionSchema definition = true := createMissionState_accepted created
  have known : WellIdentified (runMission sha256 definition initial operations) := by
    refine Runs.run_invariant_meets WellIdentified (createMissionState_wellIdentified created) ?_
      operations fresh
    intro state operation unused known
    exact missionStep_wellIdentified accepted known unused
  exact ⟨known.ledgerErrors_eq_nil, known.obligations, known.identified.proposalIds,
    known.identified.receiptIds, known.identified.proposed, known.identified.settled⟩

/-! ## An identity used twice -/

/-- A visit is booked, which leaves a confirmation to be sent. -/
def visitMission : MissionDefinition where
  id := "field-service"
  version := "1"
  label := "Field service"
  globalCapabilities := []
  goals := [⟨"visit", "Visit", true, true, [], ["book_visit"], [], []⟩]
  capabilities :=
    [⟨"book_visit", "Book a visit", .reversible, ["visit"], [], none, .perArguments,
      [⟨"confirmation", "Send a confirmation", .agent, .goalCompletion⟩], [], none⟩]

theorem visitMission_created : createMissionState Sha256.digest visitMission noon =
    .ok (openedMission Sha256.digest visitMission noon) :=
  createMissionState_opened (by decide +kernel) (by decide +kernel)

theorem visitMission_recorded : Recorded Sha256.digest visitMission
    (openedMission Sha256.digest visitMission noon) :=
  createMissionState_recorded digest_hexadecimal visitMission_created

/-- A visit is proposed and settled under a receipt. -/
def bookVisit (receiptId : String) : List MissionOperation :=
  [.proposeMissionAction ⟨"book_visit", [], some "proposal-1", "", "", noon⟩,
    .settleMissionAction ⟨"proposal-1", receiptId, .succeeded, none, noon⟩]

/-- An obligation under the identity that the settlement is going to use. -/
def promiseConfirmation : MissionOperation :=
  .openMissionObligation
    ⟨some "obl:receipt-1:confirmation", "", "promise", "Promised to confirm", .agent,
      .goalCompletion, none, none, none, noon⟩

def bookedVisit : List MissionOperation :=
  .activateMissionGoal ⟨"visit", .root, noon⟩ :: bookVisit "receipt-1"

def promisedVisit : List MissionOperation :=
  [.activateMissionGoal ⟨"visit", .root, noon⟩, promiseConfirmation] ++ bookVisit "receipt-1"

/-- All calls return, and two obligations of the state have one identity. -/
theorem promised_visit_reuses_identity : createMissionState Sha256.digest visitMission noon =
        .ok (openedMission Sha256.digest visitMission noon) ∧
      (runMission Sha256.digest visitMission (openedMission Sha256.digest visitMission noon)
        promisedVisit).revision = 5 ∧
      verifyMissionState Sha256.digest visitMission (runMission Sha256.digest visitMission
          (openedMission Sha256.digest visitMission noon) promisedVisit) =
        (false, ["obligation ids are not unique"]) := by
  refine ⟨visitMission_created, ?_, ?_⟩
  · rw [runMission_eq_recorded visitMission_recorded]
    decide +kernel
  · rw [verifyMissionState,
      (runMission_recorded visitMission_recorded promisedVisit).requireVerified_eq,
      runMission_eq_recorded visitMission_recorded]
    decide +kernel

/-- The booked visit opens its confirmation under an unused identity. -/
theorem booked_visit_well_identified : Runs.Meets (missionStep Sha256.digest visitMission)
        (fun state operation => reusesObligationId visitMission state operation = false)
        (openedMission Sha256.digest visitMission noon) bookedVisit ∧
      ledgerErrors (runMission Sha256.digest visitMission
        (openedMission Sha256.digest visitMission noon) bookedVisit) = [] := by
  have fresh : Runs.Meets (missionStep Sha256.digest visitMission)
      (fun state operation => reusesObligationId visitMission state operation = false)
      (openedMission Sha256.digest visitMission noon) bookedVisit :=
    meets_of_recorded visitMission_recorded bookedVisit (by decide +kernel)
  exact ⟨fresh, (ledgers_well_identified visitMission noon _ visitMission_created bookedVisit
    fresh).1⟩

end CallCenter.MissionIdentities
