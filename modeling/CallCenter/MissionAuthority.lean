import CallCenter.MissionIdempotency
import CallCenter.MissionCompletion
import CallCenter.MissionObligations

/-!
# Authority of settlements

An action is settled only under an authorization of the current capability epoch, and
every operation that changes a fact, a goal, an obligation or a receipt starts a new
epoch. The ledgers at a settlement are therefore those of the state in which its proposal
was authorized. A proposal without a confirmation is authorized together with the check
of its availability. One that waits for its confirmation was checked when it was
proposed: recording a fact withdraws it, but neither an obligation opened in between nor
a receipt compensated in between does, and the confirmation makes no check of its own.
-/

namespace CallCenter.MissionAuthority

open FlowState FlowDefinition Guards ListRewrites MissionSchema MissionLedger MissionRuntime
  MissionSettlement MissionTransitions MissionIntegrity MissionIdentities MissionIdempotency
  MissionCompletion MissionObligations

/-- The mission, the goal of the proposal or an open compensation discloses its action. -/
def stillDisclosed (definition : MissionDefinition) (state : MissionState)
    (proposal : MissionProposal) : Bool :=
  definition.globalCapabilities.contains proposal.action
    || definition.goals.any (fun candidate =>
      decide (candidate.id = proposal.goalId) && candidate.capabilities.contains proposal.action)
    || state.obligations.any fun obligation => decide (obligation.status = .opened)
      && decide (obligation.compensationAction.filter (· ≠ "") = some proposal.action)

/-- A receipt that the predicate asks for is missing. -/
def receiptMissing (state : MissionState) (goalId : String) : MissionPredicate → Bool
  | .receipt action scope => !evaluatePredicate state (.receipt action scope) (some goalId)
  | _ => false

/-- The call confirms a proposal whose action is no longer disclosed, is blocked by an open
obligation, or has lost a receipt that it requires. -/
def confirmsLapsed (definition : MissionDefinition) (state : MissionState) : MissionOperation → Bool
  | .authorizeMissionAction input =>
    match state.proposals.find? fun candidate => candidate.proposalId = input.proposalId with
    | .none => false
    | some proposal =>
      !stillDisclosed definition state proposal || match capability definition proposal.action with
        | .error _ => false
        | .ok item =>
          blockedByObligation state item.risk
            || item.prerequisites.any (receiptMissing state proposal.goalId)
  | _ => false

variable {sha256 : String → String} {definition : MissionDefinition}
  {state patched : MissionState}

/-! ## Proposals that wait for a confirmation -/

/-- Facts and satisfied obligations hold from the proposal on; receipts may not. -/
def Lasting : MissionPredicate → Prop
  | .receipt _ _ => False
  | _ => True

/-- What remains of the check that was made when the action was proposed. -/
def Eligible (definition : MissionDefinition) (state : MissionState)
    (proposal : MissionProposal) : Prop :=
  ∃ item focused, capability definition proposal.action = .ok item ∧
    goal definition proposal.goalId = .ok focused ∧
    ∀ predicate ∈ item.prerequisites, Lasting predicate →
      evaluatePredicate state predicate (some proposal.goalId) = true

variable {proposal : MissionProposal} {goalId : String} {opened : List MissionObligation}
  {selected : MissionGoal}

/-- Lasting predicates stay true while facts stay and obligations are only satisfied. -/
theorem lasting_persists {predicate : MissionPredicate} {goalId : Option String}
    (lasting : Lasting predicate) (facts : patched.facts = state.facts)
    (related : List.Forall₂ Satisfies (state.obligations ++ opened) patched.obligations)
    (holds : evaluatePredicate state predicate goalId) :
    evaluatePredicate patched predicate goalId := by
  cases predicate with
  | fact =>
    simpa only [evaluatePredicate, factAt, facts] using holds
  | receipt => exact False.elim lasting
  | obligation =>
    simp only [evaluatePredicate, List.any_eq_true, Bool.and_eq_true, decide_eq_true_eq] at holds ⊢
    obtain ⟨obligation, member, ⟨named, satisfied⟩, inScope⟩ := holds
    obtain ⟨kept, later, rfl | ⟨unsatisfied, _⟩⟩ :=
      exists_after related (List.mem_append_left opened member)
    · exact ⟨kept, later, ⟨named, satisfied⟩, inScope⟩
    · rw [satisfied] at unsatisfied
      cases unsatisfied

theorem Eligible.persists
    (eligible : Eligible definition state proposal) (facts : patched.facts = state.facts)
    (related : List.Forall₂ Satisfies (state.obligations ++ opened) patched.obligations) :
    Eligible definition patched proposal := by
  obtain ⟨item, focused, declared, known, holds⟩ := eligible
  refine ⟨item, focused, declared, known, ?_⟩
  intro predicate member lasting
  exact lasting_persists lasting facts related (holds predicate member lasting)

variable {decisions : List CapabilityDecision}

section

variable (available : availableMissionCapabilities sha256 definition state = .ok decisions)
include available

/-- The focused goal of a state whose capabilities can be listed is declared. -/
theorem focused_declared (focused : currentGoalId state = some goalId) :
    ∃ selected, goal definition goalId = .ok selected := by
  simp only [availableMissionCapabilities, capabilityDecisions, bind_ok_iff, focusedGoal,
    focused, map_ok_iff] at available
  obtain ⟨-, -, _, ⟨selected, declared, _⟩, _⟩ := available
  exact ⟨selected, declared⟩

/-- An allowed decision leaves its proposal eligible. -/
theorem eligible_of_allowed {decision : CapabilityDecision} (member : decision ∈ decisions)
    (allowed : decision.allowed) (action : decision.action = proposal.action)
    (focused : decision.goalId = some proposal.goalId) :
    Eligible definition state proposal := by
  obtain ⟨item, name, declared, rfl⟩ := decision_ok available member
  have current : currentGoalId state = some proposal.goalId := focused
  have named : name = proposal.action := action
  obtain ⟨selected, known⟩ := focused_declared available current
  rw [named] at declared
  refine ⟨item, selected, declared, known, ?_⟩
  intro predicate required _
  simp only [decideCapability, Bool.and_eq_true, List.all_map, List.all_eq_true] at allowed
  have holds := allowed.1.2 predicate required
  rw [current] at holds
  exact holds

end

/-- Proposals wait in an active mission, eligible but for their receipts; obligations ask
for declared compensations only. -/
structure Waiting (definition : MissionDefinition) (state : MissionState) : Prop where
  eligible : ∀ proposal ∈ state.proposals, proposal.status = .proposed →
    Eligible definition state proposal ∧ state.status = .active
  declared : ∀ obligation ∈ state.obligations, CompensationDeclared definition obligation

/-- A transition that records no fact and does not complete the mission keeps every
proposal that was waiting before it. -/
theorem Waiting.persists (waiting : Waiting definition state)
    (related : List.Forall₂ Satisfies (state.obligations ++ opened) patched.obligations)
    (facts : patched.facts = state.facts) (status : patched.status = state.status)
    (member : proposal ∈ state.proposals) (proposed : proposal.status = .proposed) :
    Eligible definition patched proposal ∧ patched.status = .active := by
  obtain ⟨eligible, active⟩ := waiting.eligible proposal member proposed
  exact ⟨eligible.persists facts related, status.trans active⟩

variable {operation : MissionOperation} {rotate : Bool}

theorem transition_declared (accepted : MissionDefinitionSchema definition)
    (transition : MissionTransition sha256 definition state operation patched rotate)
    (declared : ∀ obligation ∈ state.obligations, CompensationDeclared definition obligation) :
    ∀ obligation ∈ patched.obligations, CompensationDeclared definition obligation := by
  obtain ⟨opened, related, each⟩ := transition_opens accepted transition
  intro obligation member
  obtain ⟨original, before, satisfies⟩ := exists_before related member
  have asked : obligation.compensationAction = original.compensationAction := by
    obtain rfl | ⟨_, _, _, rfl⟩ := satisfies
    · rfl
    · rfl
  intro name named
  rw [asked] at named
  rcases List.mem_append.mp before with known | new
  · exact declared original known name named
  · exact (each original new).2 name named

theorem transition_waiting (accepted : MissionDefinitionSchema definition)
    (transition : MissionTransition sha256 definition state operation patched rotate)
    (waiting : Waiting definition state) : Waiting definition patched := by
  refine ⟨?_, transition_declared accepted transition waiting.declared⟩
  obtain ⟨opened, related, _⟩ := transition_opens accepted transition
  intro proposal member proposed
  cases transition with
  | factRecorded =>
    obtain ⟨original, _, rfl⟩ := List.mem_map.mp member
    unfold revokeOpen at proposed
    split at proposed
    · cases proposed
    · next kept => exact absurd (Or.inr proposed) kept
  | actionProposed input item decisions decision goalId proposalId declared available disclosed
      allowed focused first identity unused =>
    rcases List.mem_append.mp member with known | last
    · exact waiting.persists related rfl rfl known proposed
    · have listed := List.mem_of_find?_eq_some disclosed
      have action : decision.action = input.action := by simpa using List.find?_some disclosed
      obtain ⟨_, name⟩ := capability_ok declared
      have active := active_of_allowed available listed allowed
      rw [List.mem_singleton.mp last]
      refine ⟨?_, active⟩
      exact (eligible_of_allowed available listed allowed (action.trans name.symm)
        focused).persists rfl related
  | actionAuthorized =>
    obtain ⟨original, known, rfl⟩ := List.mem_map.mp member
    split at proposed
    · cases proposed
    · next other =>
      rw [if_neg other]
      exact waiting.persists related rfl rfl known proposed
  | actionSettled =>
    obtain ⟨original, known, rfl⟩ := List.mem_map.mp member
    split at proposed
    · simp only [settleProposal] at proposed
      split at proposed
      · cases proposed
      · cases proposed
    · next other =>
      rw [if_neg other]
      exact waiting.persists related rfl rfl known proposed
  | missionCompleted recordedAt achieved unfocused discharged resolved =>
    exact absurd proposed (unresolvedProposal_eq_false.mp (resolved proposal member)).1
  | activated | obligationOpened | goalCompleted
  | goalAbandoned => exact waiting.persists related rfl rfl member proposed

/-! ## Listing the capabilities -/

theorem mem_disclosedNames {focused : Option MissionGoal} {name : String} :
    name ∈ disclosedNames definition state focused ↔ name ∈ definition.globalCapabilities ∨
      name ∈ (focused.map MissionGoal.capabilities).getD [] ∨
      ∃ obligation ∈ state.obligations, obligation.status = .opened ∧
        obligation.compensationAction.filter (· ≠ "") = some name := by
  simp only [disclosedNames, List.mem_insertionSort, mem_distinct, List.mem_append,
    List.mem_filterMap, List.mem_filter, decide_eq_true_eq, or_assoc, and_assoc]

theorem goal_member (declared : goal definition goalId = .ok selected) :
    selected ∈ definition.goals ∧ selected.id = goalId := by
  refine ⟨?_, goal_ok declared⟩
  unfold goal at declared
  split at declared
  · cases declared
  · next found =>
    cases declared
    exact List.mem_of_find?_eq_some found

/-- Every disclosed name is a declared capability. -/
theorem disclosed_declared {name : String} (accepted : MissionDefinitionSchema definition)
    (declared : ∀ obligation ∈ state.obligations, CompensationDeclared definition obligation)
    (known : goal definition goalId = .ok selected)
    (disclosed : name ∈ disclosedNames definition state (some selected)) :
    ∃ item, capability definition name = .ok item := by
  rcases mem_disclosedNames.mp disclosed with shared | listed | ⟨obligation, member, _, asked⟩
  · exact capability_of_known (global_capability_known accepted shared)
  · exact capability_of_known (goal_capability_known accepted (goal_member known).1 listed)
  · obtain ⟨named, present⟩ := Option.filter_eq_some_iff.mp asked
    exact declared obligation member name named (by simpa using present)

/-- The capabilities of a verified state with a declared focused goal can be listed, each
with the decision made for it. -/
theorem capabilities_listed (accepted : MissionDefinitionSchema definition)
    (verified : requireVerified sha256 definition state = .ok ())
    (declared : ∀ obligation ∈ state.obligations, CompensationDeclared definition obligation)
    (focused : currentGoalId state = some goalId) (known : goal definition goalId = .ok selected) :
    ∃ decisions, availableMissionCapabilities sha256 definition state = .ok decisions ∧
      ∀ name ∈ disclosedNames definition state (some selected), ∀ item,
        capability definition name = .ok item →
        decideCapability definition state item name ∈ decisions := by
  have each : ∀ name ∈ disclosedNames definition state (some selected), ∃ decision, (do
        let item ← capability definition name
        return decideCapability definition state item name) = Except.ok decision := by
    intro name disclosed
    obtain ⟨item, found⟩ := disclosed_declared accepted declared known disclosed
    exact ⟨decideCapability definition state item name, by rw [found]; rfl⟩
  obtain ⟨decisions, paired⟩ := paired_of_each each
  have listed := (mapM_ok_iff _ _ _).mpr paired
  refine ⟨decisions, ?_, ?_⟩
  · simp only [availableMissionCapabilities, capabilityDecisions, bind_ok_iff, focusedGoal,
      focused, map_ok_iff]
    exact ⟨(), verified, some selected, ⟨selected, known, rfl⟩, listed⟩
  · intro name disclosed item found
    obtain ⟨decision, member, decided⟩ :=
      exists_after ((mapM_ok_iff _ _ _).mp listed) disclosed
    rw [found] at decided
    cases decided
    exact member

/-- The action is listed as allowed for the goal of the proposal. -/
def Allowed (sha256 : String → String) (definition : MissionDefinition) (state : MissionState)
    (proposal : MissionProposal) : Prop :=
  ∃ decisions decision, availableMissionCapabilities sha256 definition state = .ok decisions ∧
    decision ∈ decisions ∧ decision.action = proposal.action ∧
    decision.goalId = some proposal.goalId ∧ decision.allowed = true

/-- A disclosed action is in the authority of the focused goal. -/
theorem disclosed_inAuthority {item : MissionCapability}
    (accepted : MissionDefinitionSchema definition)
    (declared : capability definition proposal.action = .ok item)
    (disclosed : stillDisclosed definition state proposal) :
    proposal.goalId ∈ item.goals ∨ proposal.action ∈ definition.globalCapabilities ∨
      (openCompensation state proposal.action).isSome = true := by
  obtain ⟨member, name⟩ := capability_ok declared
  simp only [stillDisclosed, Bool.or_eq_true, List.any_eq_true, Bool.and_eq_true,
    decide_eq_true_eq, List.contains_iff_mem] at disclosed
  rcases disclosed with (shared | ⟨candidate, goalMember, rightGoal, listed⟩) |
    ⟨obligation, known, opened, asked⟩
  · exact Or.inr (Or.inl shared)
  · rw [← name] at listed
    rw [← rightGoal]
    exact Or.inl (goal_capability_grants accepted goalMember listed member)
  · obtain ⟨named, _⟩ := Option.filter_eq_some_iff.mp asked
    refine Or.inr (Or.inr (List.find?_isSome.mpr ⟨obligation, known, ?_⟩))
    simp [opened, named]

/-- A waiting proposal that has not lapsed is allowed when it is confirmed. -/
theorem allowed_of_waiting {item : MissionCapability}
    (accepted : MissionDefinitionSchema definition)
    (verified : requireVerified sha256 definition state = .ok ())
    (waiting : Waiting definition state) (member : proposal ∈ state.proposals)
    (proposed : proposal.status = .proposed)
    (focused : currentGoalId state = some proposal.goalId)
    (declared : capability definition proposal.action = .ok item)
    (disclosed : stillDisclosed definition state proposal)
    (unblocked : blockedByObligation state item.risk = false)
    (received : ∀ predicate ∈ item.prerequisites,
      receiptMissing state proposal.goalId predicate = false) :
    Allowed sha256 definition state proposal := by
  obtain ⟨⟨known, selected, sameItem, goalKnown, lasting⟩, active⟩ :=
    waiting.eligible proposal member proposed
  have equal : known = item := by
    rw [declared] at sameItem
    cases sameItem
    rfl
  rw [equal] at lasting
  obtain ⟨decisions, available, each⟩ :=
    capabilities_listed accepted verified waiting.declared focused goalKnown
  have listed : proposal.action ∈ disclosedNames definition state (some selected) := by
    obtain ⟨selectedMember, selectedId⟩ := goal_member goalKnown
    simp only [stillDisclosed, Bool.or_eq_true, List.any_eq_true, Bool.and_eq_true,
      decide_eq_true_eq, List.contains_iff_mem] at disclosed
    rw [mem_disclosedNames]
    rcases disclosed with (shared | ⟨candidate, goalMember, rightGoal, listed⟩) |
      ⟨obligation, known, opened, asked⟩
    · exact Or.inl shared
    · have same : candidate = selected :=
        List.inj_on_of_nodup_map (goals_distinct accepted) goalMember selectedMember
          (rightGoal.trans selectedId.symm)
      exact Or.inr (Or.inl (same ▸ listed))
    · exact Or.inr (Or.inr ⟨obligation, known, opened, asked⟩)
  refine ⟨decisions, _, available, each _ listed item declared, rfl, focused, ?_⟩
  have satisfied : ∀ predicate ∈ item.prerequisites,
      evaluatePredicate state predicate (currentGoalId state) = true := by
    intro predicate required
    rw [focused]
    cases predicate with
    | fact | obligation => exact lasting _ required trivial
    | receipt => simpa [receiptMissing] using received _ required
  simp only [decideCapability, Bool.and_eq_true, Bool.or_eq_true, decide_eq_true_eq, active,
    List.all_map, List.all_eq_true, unblocked, Bool.not_false, true_and, and_true]
  refine ⟨?_, satisfied⟩
  rcases disclosed_inAuthority accepted declared disclosed with granted | shared | compensates
  · exact Or.inl (Or.inl (by rw [focused]; simpa using granted))
  · exact Or.inl (Or.inr (by simpa using shared))
  · exact Or.inr compensates

/-! ## Runs -/

/-- The ledgers that an authorization rests on. -/
structure SameLedgers (granting state : MissionState) : Prop where
  facts : state.facts = granting.facts
  goals : state.goals = granting.goals
  focusStack : state.focusStack = granting.focusStack
  obligations : state.obligations = granting.obligations
  receipts : state.receipts = granting.receipts

/-- The proposal becomes authorized by the operation. -/
structure BecomesAuthorized (sha256 : String → String) (definition : MissionDefinition)
    (granting : MissionState) (operation : MissionOperation) (proposalId : String) : Prop where
  before : ∀ proposal ∈ granting.proposals, proposal.proposalId = proposalId →
    proposal.status ≠ .authorized
  after : ∃ proposal ∈ (missionStep sha256 definition granting operation).proposals,
    proposal.proposalId = proposalId ∧ proposal.status = .authorized

/-- In the course of the run the proposal became authorized by one of the operations that
propose or confirm, in a state in which its action was allowed; since that state no ledger
has changed. -/
def GrantedIn (sha256 : String → String) (definition : MissionDefinition)
    (initial : MissionState) (operations : List MissionOperation) (proposal : MissionProposal) :
    Prop :=
  ∃ first operation rest, operations = first ++ operation :: rest ∧
    BecomesAuthorized sha256 definition (runMission sha256 definition initial first) operation
      proposal.proposalId ∧
    Allowed sha256 definition (runMission sha256 definition initial first) proposal ∧
    ∀ earlier, earlier <+: rest → SameLedgers (runMission sha256 definition initial first)
        (runMission sha256 definition initial (first ++ operation :: earlier))

/-- Operations that return have verified the state. -/
theorem missionStep_verified (operation : MissionOperation) :
    missionStep sha256 definition state operation = state ∨
      requireVerified sha256 definition state = .ok () := by
  unfold missionStep
  split
  · next next returned =>
    refine Or.inr ?_
    cases operation with
    | proposeMissionAction =>
      obtain ⟨result, proposed, _⟩ := map_ok_iff.mp returned
      simp only [proposeMissionAction, bind_ok_iff] at proposed
      obtain ⟨done, verified, _⟩ := proposed
      exact verified
    | _ =>
      simp only [operate, activateMissionGoal, recordMissionFact, openMissionObligation,
        authorizeMissionAction, settleMissionAction, completeMissionGoal, abandonMissionGoal,
        completeMission, bind_ok_iff] at returned
      obtain ⟨done, verified, _⟩ := returned
      exact verified
  · exact Or.inl rfl

/-- An authorization of the epoch that follows a transition was there before it, and the
transition changed no ledger, or it is the transition that granted it. -/
theorem transition_authorized (accepted : MissionDefinitionSchema definition)
    (verified : requireVerified sha256 definition state = .ok ())
    (transition : MissionTransition sha256 definition state operation patched rotate)
    (identified : Identified state.proposals state.receipts)
    (granted : GrantedBy state.capabilityEpoch state.proposals)
    (waiting : Waiting definition state)
    (current : confirmsLapsed definition state operation = false) {proposal : MissionProposal}
    (member : proposal ∈ patched.proposals) (authorized : proposal.status = .authorized)
    (live : proposal.authorizedEpoch =
      some (if rotate then state.capabilityEpoch + 1 else state.capabilityEpoch)) :
    SameLedgers state patched ∧
      (proposal ∈ state.proposals ∧ proposal.authorizedEpoch = some state.capabilityEpoch ∨
        (∀ other ∈ state.proposals, other.proposalId = proposal.proposalId →
            other.status ≠ .authorized) ∧
          Allowed sha256 definition state proposal) := by
  have bound := transition_granted transition granted proposal member authorized _ live
  cases transition with
  | actionProposed input item decisions decision goalId proposalId declared available disclosed
      allowed focused first identity unused =>
    refine ⟨⟨rfl, rfl, rfl, rfl, rfl⟩, ?_⟩
    rcases List.mem_append.mp member with known | last
    · exact Or.inl ⟨known, live⟩
    · have action : decision.action = input.action := by simpa using List.find?_some disclosed
      obtain ⟨_, name⟩ := capability_ok declared
      rw [List.mem_singleton.mp last]
      refine Or.inr ⟨?_, decisions, decision, available, List.mem_of_find?_eq_some disclosed,
        action.trans name.symm, focused, allowed⟩
      intro other known same
      exact absurd same (unused other known)
  | actionAuthorized input waiter item confirmation found awaiting bound declared asked later
      focused =>
    refine ⟨⟨rfl, rfl, rfl, rfl, rfl⟩, ?_⟩
    have waiterMember := List.mem_of_find?_eq_some found
    obtain ⟨original, known, rfl⟩ := List.mem_map.mp member
    split
    · next same =>
      have equal : original = waiter := identified.proposalIds.same_row known waiterMember same
      rw [equal]
      refine Or.inr ⟨?_, ?_⟩
      · intro other otherKnown otherSame
        rw [identified.proposalIds.same_row otherKnown waiterMember otherSame, awaiting]
        decide
      · simp only [confirmsLapsed, found, declared, Bool.or_eq_false_iff, Bool.not_eq_false',
          List.any_eq_false, Bool.not_eq_true] at current
        have allowed : Allowed sha256 definition state waiter :=
          allowed_of_waiting accepted verified waiting waiterMember awaiting focused declared
            current.1 current.2.1 current.2.2
        exact allowed
    · next other =>
      rw [if_neg other] at live
      exact Or.inl ⟨known, live⟩
  | _ =>
    simp only [if_true] at bound
    omega

/-- What every run keeps about its proposals. -/
structure AuthorizedSoFar (sha256 : String → String) (definition : MissionDefinition)
    (initial : MissionState) (operations : List MissionOperation) (state : MissionState) :
    Prop where
  identified : Identified state.proposals state.receipts
  granted : GrantedBy state.capabilityEpoch state.proposals
  waiting : Waiting definition state
  live : ∀ proposal ∈ state.proposals, proposal.status = .authorized →
    proposal.authorizedEpoch = some state.capabilityEpoch →
    GrantedIn sha256 definition initial operations proposal

variable {initial : MissionState}

variable {operations : List MissionOperation}

/-- A grant lives on as long as no ledger changes. -/
theorem GrantedIn.extend (granted : GrantedIn sha256 definition initial operations proposal)
    (same : SameLedgers (runMission sha256 definition initial operations)
      (runMission sha256 definition initial (operations ++ [operation]))) :
    GrantedIn sha256 definition initial (operations ++ [operation]) proposal := by
  obtain ⟨first, granting, rest, rfl, becomes, allowed, kept⟩ := granted
  refine ⟨first, granting, rest ++ [operation], by simp, becomes, allowed, ?_⟩
  intro earlier segment
  rcases List.prefix_concat_iff.mp segment with rfl | shorter
  · have before := kept rest (List.prefix_refl _)
    have whole : first ++ granting :: (rest ++ [operation]) =
        (first ++ granting :: rest) ++ [operation] := by simp
    rw [whole]
    exact ⟨same.facts.trans before.facts, same.goals.trans before.goals,
      same.focusStack.trans before.focusStack, same.obligations.trans before.obligations,
      same.receipts.trans before.receipts⟩
  · exact kept earlier shorter

theorem authorizedSoFar_step (accepted : MissionDefinitionSchema definition)
    (current : confirmsLapsed definition (runMission sha256 definition initial operations)
      operation = false) (known : AuthorizedSoFar sha256 definition initial operations
      (runMission sha256 definition initial operations)) :
    AuthorizedSoFar sha256 definition initial (operations ++ [operation])
      (missionStep sha256 definition (runMission sha256 definition initial operations)
        operation) := by
  have last : runMission sha256 definition initial (operations ++ [operation]) =
      missionStep sha256 definition (runMission sha256 definition initial operations) operation :=
    Runs.run_snoc _ _ _ _
  have moves : missionStep sha256 definition (runMission sha256 definition initial operations)
      operation = runMission sha256 definition initial operations ∨ _ :=
    missionStep_moves operation
  obtain same | ⟨patched, rotate, events, transition, moved⟩ := moves
  · rw [same] at last ⊢
    refine ⟨known.identified, known.granted, known.waiting, ?_⟩
    intro proposal member authorized live
    refine (known.live proposal member authorized live).extend ?_
    rw [last]
    exact ⟨rfl, rfl, rfl, rfl, rfl⟩
  · have identified := transition_identified transition known.identified
    have granted := transition_granted transition known.granted
    have waiting := transition_waiting accepted transition known.waiting
    have verified : requireVerified sha256 definition
        (runMission sha256 definition initial operations) = .ok () := by
      refine (missionStep_verified operation).resolve_left ?_
      intro same
      have revision := congrArg MissionState.revision (moved.symm.trans same)
      simp at revision
    have changed := @transition_authorized _ _ _ _ _ _ accepted verified transition
      known.identified known.granted known.waiting current
    rw [moved] at last ⊢
    refine ⟨identified, granted.rotated, ⟨waiting.eligible, waiting.declared⟩, ?_⟩
    intro proposal member authorized live
    obtain ⟨ledgers, ⟨before, epoch⟩ | ⟨fresh, allowed⟩⟩ := changed member authorized live
    · refine (known.live proposal before authorized epoch).extend ?_
      rw [last]
      exact ⟨ledgers.facts, ledgers.goals, ledgers.focusStack, ledgers.obligations,
        ledgers.receipts⟩
    · refine ⟨operations, operation, [], rfl, ⟨fresh, ?_⟩, allowed, ?_⟩
      · rw [moved]
        exact ⟨proposal, member, rfl, authorized⟩
      · intro earlier segment
        rw [List.prefix_nil.mp segment, last]
        exact ⟨ledgers.facts, ledgers.goals, ledgers.focusStack, ledgers.obligations,
          ledgers.receipts⟩

theorem createMissionState_authorized {recordedAt : String}
    (created : createMissionState sha256 definition recordedAt = .ok initial) :
    AuthorizedSoFar sha256 definition initial [] initial := by
  have idempotent := createMissionState_idempotent created
  obtain rfl := eq_openedMission created
  refine ⟨idempotent.identified, idempotent.granted, ⟨?_, ?_⟩, ?_⟩
  · intro proposal member
    cases member
  · intro obligation member
    cases member
  · intro proposal member
    cases member

/-- In every run that confirms no lapsed proposal: whenever a settlement records a receipt,
its proposal became authorized in an earlier state of the run in which its action was
listed as allowed for its goal, and no fact, goal, obligation or receipt has changed since
then. -/
theorem settles_under_current_authority (definition : MissionDefinition) (recordedAt : String)
    (initial : MissionState)
    (created : createMissionState sha256 definition recordedAt = .ok initial)
    (operations : List MissionOperation)
    (current : Runs.Meets (missionStep sha256 definition)
      (fun state operation => confirmsLapsed definition state operation = false) initial operations)
    (input : SettleInput) (next : MissionState)
    (settled : settleMissionAction sha256 definition
      (runMission sha256 definition initial operations) input = .ok next) :
    ∃ proposal ∈ (runMission sha256 definition initial operations).proposals,
      (∃ receipt ∈ next.receipts, receipt.receiptId = input.receiptId ∧
        receipt.proposalId = proposal.proposalId ∧ receipt.action = proposal.action) ∧
      GrantedIn sha256 definition initial operations proposal := by
  have accepted := createMissionState_accepted created
  have known : AuthorizedSoFar sha256 definition initial operations
      (runMission sha256 definition initial operations) :=
    Runs.run_history_meets (AuthorizedSoFar sha256 definition initial)
      (createMissionState_authorized created)
      (fun _ _ confirmed before => authorizedSoFar_step accepted confirmed before)
      operations current
  obtain ⟨patched, rotate, eventType, payload, time, transition, appended⟩ :=
    settleMissionAction_advances settled
  obtain ⟨_, rfl, rfl⟩ := appendEvent_ok appended
  cases transition with
  | actionSettled _ proposal item obligations receipts found authorized focused live =>
    have member := List.mem_of_find?_eq_some found
    refine ⟨proposal, member, ?_, known.live proposal member authorized live⟩
    exact ⟨newReceipt sha256 _ proposal input, List.mem_append_right _ List.mem_cons_self, rfl,
      rfl, rfl⟩

/-! ## A confirmation after an obligation -/

/-- Closing an account cannot be undone and needs the caller's consent. -/
def closureMission : MissionDefinition where
  id := "accounts"
  version := "1"
  label := "Accounts"
  globalCapabilities := []
  goals := [⟨"leave", "Leave", true, true, [], ["close_account"], [], []⟩]
  capabilities :=
    [⟨"close_account", "Close the account", .irreversible, ["leave"], [],
      some ⟨"Close the account?", [.string "yes"], [.caller]⟩, .perGoal, [], [], none⟩]

theorem closureMission_created : createMissionState Sha256.digest closureMission noon =
    .ok (openedMission Sha256.digest closureMission noon) :=
  createMissionState_opened (by decide +kernel) (by decide +kernel)

theorem closureMission_recorded : Recorded Sha256.digest closureMission
    (openedMission Sha256.digest closureMission noon) :=
  createMissionState_recorded digest_hexadecimal closureMission_created

/-- The closure is proposed. -/
def proposedClosure : List MissionOperation :=
  [.activateMissionGoal ⟨"leave", .root, noon⟩,
    .proposeMissionAction ⟨"close_account", [], some "proposal-1", "", "", noon⟩]

/-- A dispute is opened that blocks irreversible actions. -/
def openDispute : MissionOperation :=
  .openMissionObligation
    ⟨some "dispute-1", "", "dispute", "Settle the dispute", .agent, .irreversibleActions, none, none,
      none, noon⟩

/-- The caller consents to the closure as proposed. -/
def confirmClosure (revision : Nat) : MissionOperation :=
  .authorizeMissionAction
    ⟨"proposal-1", "30382923a7d2af1cf4543b78e63ca6c87f71eca63a2a6c08cfe2663626954f3f",
      "turn-4", .caller, .string "yes", revision, noon⟩

def settleClosure : SettleInput := ⟨"proposal-1", "receipt-1", .succeeded, none, noon⟩

/-- The state of the closure after some operations. -/
def closureAfter (operations : List MissionOperation) : MissionState :=
  runMission Sha256.digest closureMission (openedMission Sha256.digest closureMission noon)
    operations

theorem closureAfter_eq (operations : List MissionOperation) :
    closureAfter operations = Runs.run (recordedStep Sha256.digest closureMission)
      (openedMission Sha256.digest closureMission noon) operations :=
  runMission_eq_recorded closureMission_recorded operations

theorem closureAfter_recorded (operations : List MissionOperation) :
    Recorded Sha256.digest closureMission (closureAfter operations) :=
  runMission_recorded closureMission_recorded operations

/-- The dispute blocks the closure, which is then confirmed and settled all the same. -/
theorem closure_confirmed_despite_dispute :
    createMissionState Sha256.digest closureMission noon = .ok (closureAfter []) ∧
      (closureAfter (proposedClosure ++ [openDispute])).proposals.map
          (fun proposal => (proposal.proposalId, proposal.status)) =
        [("proposal-1", .proposed)] ∧
      (availableMissionCapabilities Sha256.digest closureMission
          (closureAfter (proposedClosure ++ [openDispute]))).toOption.map
          (List.map fun decision => (decision.action, decision.allowed, decision.reason)) =
        some [("close_account", false, "blocking_obligation")] ∧
      (closureAfter (proposedClosure ++ [openDispute, confirmClosure 5])).proposals.map
          (fun proposal => (proposal.proposalId, proposal.status)) =
        [("proposal-1", .authorized)] ∧
      (closureAfter (proposedClosure ++ [openDispute, confirmClosure 5,
          .settleMissionAction settleClosure])).receipts.map
          (fun receipt => (receipt.receiptId, receipt.proposalId, receipt.status)) =
        [("receipt-1", "proposal-1", .succeeded)] := by
  refine ⟨closureMission_created, ?_, ?_, ?_, ?_⟩
  · rw [closureAfter_eq]
    decide +kernel
  · rw [availableMissionCapabilities, (closureAfter_recorded _).requireVerified_eq, closureAfter_eq]
    decide +kernel
  · rw [closureAfter_eq]
    decide +kernel
  · rw [closureAfter_eq]
    decide +kernel

/-- A closure that is confirmed before any dispute settles under its authority. -/
theorem closure_settles_under_authority : ∃ next, settleMissionAction Sha256.digest closureMission
        (closureAfter (proposedClosure ++ [confirmClosure 4])) settleClosure = .ok next ∧
      ∃ proposal ∈ (closureAfter (proposedClosure ++ [confirmClosure 4])).proposals,
        (∃ receipt ∈ next.receipts, receipt.receiptId = "receipt-1" ∧
          receipt.proposalId = proposal.proposalId ∧ receipt.action = proposal.action) ∧
        GrantedIn Sha256.digest closureMission (closureAfter [])
          (proposedClosure ++ [confirmClosure 4]) proposal := by
  have current : Runs.Meets (missionStep Sha256.digest closureMission)
      (fun state operation => confirmsLapsed closureMission state operation = false)
      (closureAfter []) (proposedClosure ++ [confirmClosure 4]) :=
    meets_of_recorded closureMission_recorded _ (by decide +kernel)
  have returned : (settleMissionAction Sha256.digest closureMission
      (closureAfter (proposedClosure ++ [confirmClosure 4])) settleClosure).toOption.isSome =
        true := by
    rw [settleMissionAction, (closureAfter_recorded _).requireVerified_eq, closureAfter_eq]
    decide +kernel
  cases settled : settleMissionAction Sha256.digest closureMission
      (closureAfter (proposedClosure ++ [confirmClosure 4])) settleClosure with
  | error =>
    rw [settled] at returned
    cases returned
  | ok next =>
    exact ⟨next, rfl, settles_under_current_authority closureMission noon _
      closureMission_created _ current settleClosure next settled⟩

end CallCenter.MissionAuthority
