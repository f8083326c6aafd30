import CallCenter.MissionIntegrity

/-!
# Completed missions

`completeMission` requires an empty stack, all required goals completed, no open
obligation and no unresolved proposal. Afterwards no goal can be activated and no action
proposed, so nothing of this can change, except that an obligation may still be opened:
`openMissionObligation` is the one operation that neither looks at the status of the
mission nor needs a focused goal.
-/

namespace CallCenter.MissionCompletion

open Guards ListRewrites MissionSchema MissionLedger MissionRuntime MissionSettlement
  MissionTransitions MissionIntegrity

/-- What the completion of a mission stands for. -/
structure Finished (definition : MissionDefinition) (state : MissionState) : Prop where
  unfocused : state.focusStack = []
  achieved : ∀ candidate ∈ definition.goals, candidate.required = true →
    goalStatus state candidate.id = some .completed
  discharged : ∀ obligation ∈ state.obligations, obligation.status ≠ .opened
  resolved : ∀ proposal ∈ state.proposals, proposal.status ≠ .proposed ∧
    proposal.status ≠ .authorized ∧ proposal.status ≠ .indeterminate

/-- The call opens an obligation in a completed mission. -/
def opensAfterCompletion (state : MissionState) : MissionOperation → Bool
  | .openMissionObligation _ => decide (state.status = .completed)
  | _ => false

variable {sha256 : String → String} {definition : MissionDefinition}
  {state patched : MissionState}

theorem unresolvedProposal_eq_false {proposal : MissionProposal} :
    unresolvedProposal proposal = false ↔ proposal.status ≠ .proposed ∧
      proposal.status ≠ .authorized ∧ proposal.status ≠ .indeterminate := by
  simp [unresolvedProposal]

variable {decisions : List CapabilityDecision}

section

variable (available : availableMissionCapabilities sha256 definition state = .ok decisions)
include available

/-- Every decision is made for a declared capability. -/
theorem decision_ok {decision : CapabilityDecision} (member : decision ∈ decisions) :
    ∃ item name, capability definition name = .ok item ∧
      decision = decideCapability definition state item name := by
  simp only [availableMissionCapabilities, capabilityDecisions, bind_ok_iff] at available
  obtain ⟨_, _, focused, _, returned⟩ := available
  obtain ⟨name, _, decided⟩ := exists_before ((mapM_ok_iff _ _ _).mp returned) member
  simp only [bind_ok_iff, pure_ok_iff] at decided
  obtain ⟨item, declared, rfl⟩ := decided
  exact ⟨item, name, declared, rfl⟩

/-- Actions are allowed in active missions only. -/
theorem active_of_allowed {decision : CapabilityDecision} (member : decision ∈ decisions)
    (allowed : decision.allowed) :
    state.status = .active := by
  obtain ⟨item, name, _, rfl⟩ := decision_ok available member
  simp only [decideCapability, Bool.and_eq_true, decide_eq_true_eq] at allowed
  exact allowed.1.1.1

end

variable {operation : MissionOperation} {rotate : Bool}

section

variable (transition : MissionTransition sha256 definition state operation patched rotate)
include transition

/-- No goal is focused in a completed mission. -/
theorem transition_unfocused (unfocused : state.status = .completed → state.focusStack = [])
    (completed : patched.status = .completed) : patched.focusStack = [] := by
  cases transition with
  | activated input selected known declared running =>
    rw [running] at completed
    cases completed
  | goalCompleted | goalAbandoned =>
    have idle : state.focusStack = [] := unfocused completed
    simp [closeFocused, idle]
  | missionCompleted => rfl
  | _ => exact unfocused completed

/-- A transition into a completed mission keeps or establishes what completion stands
for. -/
theorem transition_finished (finished : state.status = .completed → Finished definition state)
    (closed : opensAfterCompletion state operation = false)
    (completed : patched.status = .completed) : Finished definition patched := by
  cases transition with
  | activated input selected known declared running =>
    rw [running] at completed
    cases completed
  | factRecorded =>
    have known := finished completed
    refine ⟨known.unfocused, known.achieved, known.discharged, ?_⟩
    intro _ member
    obtain ⟨proposal, before, rfl⟩ := List.mem_map.mp member
    have resolved := known.resolved proposal before
    have kept : revokeOpen proposal = proposal := by
      refine if_neg ?_
      rintro (authorized | proposed)
      · exact resolved.2.1 authorized
      · exact resolved.1 proposed
    rw [kept]
    exact resolved
  | obligationOpened input =>
    have opens : opensAfterCompletion state (.openMissionObligation input) :=
      decide_eq_true completed
    rw [closed] at opens
    cases opens
  | actionProposed input item decisions decision goalId proposalId declared available disclosed
      allowed focused first identity unused =>
    have running := active_of_allowed available (List.mem_of_find?_eq_some disclosed) allowed
    rw [running] at completed
    cases completed
  | actionAuthorized input proposal item confirmation found awaiting =>
    have resolved := (finished completed).resolved proposal (List.mem_of_find?_eq_some found)
    exact absurd awaiting resolved.1
  | actionSettled input proposal item obligations receipts found authorized =>
    have resolved := (finished completed).resolved proposal (List.mem_of_find?_eq_some found)
    exact absurd authorized resolved.2.1
  | goalCompleted input selected declared focused active satisfied
  | goalAbandoned input selected declared optional focused =>
    rw [currentGoalId, (finished completed).unfocused] at focused
    cases focused
  | missionCompleted recordedAt achieved unfocused discharged resolved =>
    exact ⟨rfl, achieved, discharged, fun proposal member =>
      unresolvedProposal_eq_false.mp (resolved proposal member)⟩

end

theorem missionStep_finished (finished : state.status = .completed → Finished definition state)
    (closed : opensAfterCompletion state operation = false)
    (completed : (missionStep sha256 definition state operation).status = .completed) :
    Finished definition (missionStep sha256 definition state operation) := by
  have moves : missionStep sha256 definition state operation = state ∨ _ :=
    missionStep_moves operation
  obtain same | ⟨patched, rotate, events, transition, moved⟩ := moves
  · rw [same] at completed ⊢
    exact finished completed
  · rw [moved] at completed ⊢
    have known : Finished definition patched :=
      transition_finished transition finished closed completed
    exact ⟨known.unfocused, known.achieved, known.discharged, known.resolved⟩

/-- Nothing reopens a completed mission. -/
theorem missionStep_completed (completed : state.status = .completed) :
    (missionStep sha256 definition state operation).status = .completed := by
  refine missionStep_keeps (·.status = .completed) completed fun _ _ _ transition => ?_
  cases transition with
  | missionCompleted => rfl
  | _ => exact completed

/-- In every run that opens no obligation in a completed mission: once the mission is
completed it stays so, with an empty stack, all required goals completed, no open
obligation and no unresolved proposal. -/
theorem completion_is_stable (definition : MissionDefinition) (recordedAt : String)
    (initial : MissionState)
    (created : createMissionState sha256 definition recordedAt = .ok initial)
    (before after : List MissionOperation)
    (closed : Runs.Meets (missionStep sha256 definition)
      (fun state operation => opensAfterCompletion state operation = false) initial
      (before ++ after))
    (completed : (runMission sha256 definition initial before).status = .completed) :
    (runMission sha256 definition initial (before ++ after)).status = .completed ∧
      Finished definition (runMission sha256 definition initial (before ++ after)) := by
  have still : (runMission sha256 definition initial (before ++ after)).status = .completed := by
    rw [runMission, Runs.run_append]
    exact Runs.run_invariant (fun state : MissionState => state.status = .completed) completed
      (fun _ _ kept => missionStep_completed kept) after
  have finished : (runMission sha256 definition initial (before ++ after)).status = .completed →
      Finished definition (runMission sha256 definition initial (before ++ after)) := by
    refine Runs.run_invariant_meets
      (fun state : MissionState => state.status = .completed → Finished definition state) ?_ ?_ _
      closed
    · obtain rfl := eq_openedMission created
      intro impossible
      cases impossible
    · intro state operation unopened finished
      exact missionStep_finished finished unopened
  exact ⟨still, finished still⟩

/-! ## An obligation after completion -/

/-- The repair is done and the mission completed. -/
def completedRepair : List MissionOperation :=
  [.activateMissionGoal ⟨"repair", .root, noon⟩, .completeMissionGoal ⟨"repair", noon⟩,
    .completeMission noon]

def promiseCallback : MissionOperation :=
  .openMissionObligation
    ⟨some "callback-1", "", "callback", "Call back", .agent, .missionCompletion, none, none, none,
      noon⟩

/-- The completed mission accepts an obligation and stays completed while it is open. -/
theorem obligation_opened_after_completion : createMissionState Sha256.digest repairMission noon =
        .ok (openedMission Sha256.digest repairMission noon) ∧
      (runMission Sha256.digest repairMission (openedMission Sha256.digest repairMission noon)
        (completedRepair ++ [promiseCallback])).status = .completed ∧
      (runMission Sha256.digest repairMission (openedMission Sha256.digest repairMission noon)
          (completedRepair ++ [promiseCallback])).obligations.map
          (fun obligation => (obligation.obligationId, obligation.status)) =
        [("callback-1", .opened)] := by
  refine ⟨repairMission_created, ?_, ?_⟩
  · rw [runMission_eq_recorded repairMission_recorded]
    decide +kernel
  · rw [runMission_eq_recorded repairMission_recorded]
    decide +kernel

/-- A completed repair that records one more fact stays a completed mission. -/
theorem completed_repair_stays_finished :
    (runMission Sha256.digest repairMission (openedMission Sha256.digest repairMission noon)
        completedRepair).status = .completed ∧
      Finished repairMission (runMission Sha256.digest repairMission
        (openedMission Sha256.digest repairMission noon)
        (completedRepair ++ [.recordMissionFact ⟨"survey", .ofNat 5, .caller, "turn-9", none,
          noon⟩])) := by
  have completed : (runMission Sha256.digest repairMission
      (openedMission Sha256.digest repairMission noon) completedRepair).status = .completed := by
    rw [runMission_eq_recorded repairMission_recorded]
    decide +kernel
  exact ⟨completed, (completion_is_stable repairMission noon _ repairMission_created
    completedRepair _ (meets_of_recorded repairMission_recorded _ (by decide +kernel))
    completed).2⟩

end CallCenter.MissionCompletion
