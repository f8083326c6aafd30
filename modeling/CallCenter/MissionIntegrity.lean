import CallCenter.MissionTransitions
import CallCenter.FocusStacks
import CallCenter.Sha256

/-!
# Integrity of mission states

Every operation refuses a state whose ledger, materialised head, or focus stack does not
verify, so a state that fails this check can never be used again. The ledger and the head
verify by construction. The stack does as long as no goal is activated while it waits on
the stack: a detour may name a suspended goal, which then lies on the stack twice.
-/

namespace CallCenter.MissionIntegrity

open JsonValues FlowState ObjectFields Guards HashChains FocusStacks IsoInstants MissionSchema MissionLedger
  MissionRuntime MissionSettlement MissionTransitions

/-! ## The ledger -/

section Ledger
variable (sha256 : String → String) (state : MissionState)

/-- The events form an intact chain, as many as the revision counts, and the last one
commits to the state. -/
structure Committed : Prop where
  chained : firstBroken (eventIntact sha256) MissionEvent.eventHash 0 none state.events = none
  counted : state.revision = state.events.length
  headed : state.events.getLast?.map MissionEvent.stateHeadHash = some (stateHeadHash sha256 state)

end Ledger

variable {sha256 : String → String} {definition : MissionDefinition}
  {state patched next : MissionState}

variable {goalId recordedAt : String}

variable {rotate : Bool}

/-- Appending to an intact ledger gives a committed state, whatever the patch. -/
theorem appendEvent_committed {eventType : String} {payload : Value}
    (chained : firstBroken (eventIntact sha256) MissionEvent.eventHash 0 none state.events = none)
    (counted : state.revision = state.events.length)
    (appended : appendEvent sha256 state patched eventType payload recordedAt rotate = .ok next) :
    Committed sha256 next := by
  obtain ⟨advanced, moved, rfl⟩ := appendEvent_ok appended
  have revised : advanced.revision = state.events.length + 1 := by rw [moved, ← counted]
  refine ⟨?_, ?_, ?_⟩
  · refine (firstBroken_snoc _ _ _ _ _ _).mpr ⟨chained, ?_⟩
    simp [eventIntact, nextEvent, headHash, revised, eventHashOf, MissionEvent.body]
  · simp [revised]
  · simp [nextEvent, stateHeadHash, MissionState.head]

/-! ## The focus stack -/

/-- The status of every entry of the stack is the one of its place. -/
def Focused (state : MissionState) : Prop :=
  Disciplined (goalStatus state) (some .active) (some .suspended) state.focusStack

variable {goals : List (String × GoalState)}

theorem lookup_setGoalStatus_self {known : GoalState} (listed : goals.lookup goalId = some known)
    (status : GoalStatus) :
    (setGoalStatus goals goalId status).lookup goalId = some { known with status } := by
  rw [setGoalStatus, listed]
  exact lookup_setField_self goals goalId _

theorem lookup_setGoalStatus_ne {other : String} (different : other ≠ goalId)
    (status : GoalStatus) :
    (setGoalStatus goals goalId status).lookup other = goals.lookup other := by
  unfold setGoalStatus
  split
  · rfl
  · exact lookup_setField_ne goals goalId other _ different

/-- A goal with a status is listed. -/
theorem listed_of_status {status : GoalStatus} (known : goalStatus state goalId = some status) :
    ∃ entry, state.goals.lookup goalId = some entry ∧ entry.status = status :=
  Option.map_eq_some_iff.mp known

/-- Activating a goal that is not on the stack keeps the discipline. -/
theorem activated_focused {count : Nat} (focused : Focused state)
    (fresh : goalId ∉ state.focusStack)
    (goals : next.goals = activatedGoals state.goals (currentGoalId state) goalId count)
    (stack : next.focusStack = state.focusStack ++ [goalId]) : Focused next := by
  have raised : goalStatus next goalId = some .active := by
    simp [goalStatus, goals, activatedGoals]
  unfold Focused
  rw [stack]
  refine focused.push fresh raised (by decide) ?_ ?_
  · intro other last
    have different : other ≠ goalId := fun same => fresh (same ▸ List.mem_of_getLast? last)
    obtain ⟨entry, listed, -⟩ := listed_of_status (focused.onTop other last)
    have current : currentGoalId state = some other := last
    simp only [goalStatus, goals, activatedGoals, current]
    rw [lookup_setField_ne _ _ _ _ different, lookup_setGoalStatus_self listed]
    rfl
  · intro other different lower
    have waiting : currentGoalId state ≠ some other := lower
    simp only [goalStatus, goals, activatedGoals]
    rw [lookup_setField_ne _ _ _ _ different]
    split
    · rfl
    · next top current =>
      have apart : other ≠ top := fun same => waiting (same ▸ current)
      rw [lookup_setGoalStatus_ne apart]

/-- Closing the focused goal keeps the discipline. -/
theorem closed_focused {status : GoalStatus} (focused : Focused state)
    (top : currentGoalId state = some goalId) (left : status ≠ .suspended) :
    Focused (closeFocused state goalId status) := by
  have last : state.focusStack.getLast? = some goalId := top
  obtain ⟨entry, listed, -⟩ := listed_of_status (focused.onTop goalId last)
  have popped : ∀ other ∈ state.focusStack.dropLast, other ≠ goalId := by
    rintro _ member rfl
    exact absurd ((focused.underTop _ member).symm.trans (focused.onTop _ last)) (by decide)
  have resumed_lookup : ∀ other, state.focusStack.dropLast.getLast? = some other →
      goalStatus (closeFocused state goalId status) other = some .active := by
    intro other resumed
    have member : other ∈ state.focusStack.dropLast := List.mem_of_getLast? resumed
    obtain ⟨waiting, found, -⟩ := listed_of_status (focused.underTop other member)
    have kept : (setGoalStatus state.goals goalId status).lookup other = some waiting := by
      rw [lookup_setGoalStatus_ne (popped other member), found]
    simp only [goalStatus, closeFocused, resumed]
    rw [lookup_setGoalStatus_self kept]
    rfl
  have others : ∀ other, other ≠ goalId → state.focusStack.dropLast.getLast? ≠ some other →
      goalStatus (closeFocused state goalId status) other = goalStatus state other := by
    intro other different lower
    simp only [goalStatus, closeFocused]
    split
    · rw [lookup_setGoalStatus_ne different]
    · next resumed found =>
      have apart : other ≠ resumed := fun same => lower (same ▸ found)
      rw [lookup_setGoalStatus_ne apart, lookup_setGoalStatus_ne different]
  refine focused.pop last ?_ (by decide) resumed_lookup others
  by_cases resumes : state.focusStack.dropLast.getLast? = some goalId
  · exact absurd rfl (popped goalId (List.mem_of_getLast? resumes))
  · simp only [goalStatus, closeFocused]
    split
    · rw [lookup_setGoalStatus_self listed]
      simpa using left
    · next resumed found =>
      have apart : goalId ≠ resumed := fun same => resumes (same ▸ found)
      rw [lookup_setGoalStatus_ne apart, lookup_setGoalStatus_self listed]
      simpa using left

/-! ## Recorded states -/

/-- The state is bound to the definition and its ledger commits to it. -/
structure Recorded (sha256 : String → String) (definition : MissionDefinition)
    (state : MissionState) : Prop where
  hexadecimal : isHexDigest state.definitionHash = true
  bound : requireBoundDefinition sha256 definition state = .ok ()
  committed : Committed sha256 state

/-- On a recorded state the integrity check decides whether the stack agrees with the
goals. -/
theorem Recorded.integrity (recorded : Recorded sha256 definition state) :
    assertStateIntegrity sha256 state = require (state.focusStack.all (focusAgrees state))
        "mission focus stack and goal statuses disagree" := by
  cases agrees : state.focusStack.all (focusAgrees state) with
  | false | true =>
    simp [assertStateIntegrity, require, recorded.hexadecimal, recorded.committed.chained,
      recorded.committed.counted, recorded.committed.headed, agrees]

variable {operation : MissionOperation}

/-- Every step of a mission keeps its state recorded. -/
theorem missionStep_recorded (recorded : Recorded sha256 definition state) :
    Recorded sha256 definition (missionStep sha256 definition state operation) := by
  have advances : missionStep sha256 definition state operation = state ∨ _ :=
    missionStep_advances operation
  obtain same | advanced := advances
  · rw [same]
    exact recorded
  · obtain ⟨patched, rotate, eventType, payload, recordedAt, transition, appended⟩ := advanced
    have committed := appendEvent_committed recorded.committed.chained
      recorded.committed.counted appended
    -- No transition rebinds the state.
    obtain ⟨mission, version, hash⟩ : patched.missionId = state.missionId ∧
        patched.missionVersion = state.missionVersion ∧
        patched.definitionHash = state.definitionHash := by
      cases transition <;> exact ⟨rfl, rfl, rfl⟩
    obtain ⟨_, rfl, moved⟩ := appendEvent_ok appended
    refine ⟨?_, ?_, committed⟩
    · rw [moved, hash]
      exact recorded.hexadecimal
    · have bound := recorded.bound
      rw [moved]
      simp only [requireBoundDefinition, mission, version, hash] at bound ⊢
      exact bound

/-- A new mission is recorded, and no goal is focused or waits. -/
theorem createMissionState_recorded (hex : ∀ text, isHexDigest (sha256 text) = true)
    (created : createMissionState sha256 definition recordedAt = .ok state) :
    Recorded sha256 definition state := by
  simp only [createMissionState, bind_ok_iff] at created
  obtain ⟨done, valid, appended⟩ := created
  have committed : Committed sha256 state := appendEvent_committed rfl rfl appended
  obtain ⟨_, rfl, rfl⟩ := appendEvent_ok appended
  refine ⟨hex _, ?_, committed⟩
  simp [requireBoundDefinition, newMission, valid]

variable {initial : MissionState}

/-- Every state of a mission is recorded. -/
theorem runMission_recorded (recorded : Recorded sha256 definition initial)
    (operations : List MissionOperation) :
    Recorded sha256 definition (runMission sha256 definition initial operations) :=
  Runs.run_invariant (Recorded sha256 definition) recorded
    (fun _ _ kept => missionStep_recorded kept) operations

/-! ## Evaluation

On a recorded state only the stack can fail the checks, so a call can be evaluated without
hashing the ledger. -/

/-- A call on a recorded state. -/
def operateRecorded (sha256 : String → String) (definition : MissionDefinition)
    (state : MissionState) (operation : MissionOperation) : Except String MissionState := do
  require (state.focusStack.all (focusAgrees state))
    "mission focus stack and goal statuses disagree"
  match operation with
  | .activateMissionGoal input => activateGoal sha256 definition state input
  | .recordMissionFact input => recordFact sha256 state input
  | .openMissionObligation input => openObligation sha256 definition state input
  | .proposeMissionAction input => do
      let item ← capability definition input.action
      let decisions ← capabilityDecisions definition state
      (proposeAction sha256 state item decisions input).map ProposeResult.state
  | .authorizeMissionAction input => authorizeAction sha256 definition state input
  | .settleMissionAction input => settleAction sha256 definition state input
  | .completeMissionGoal input => completeGoal sha256 definition state input
  | .abandonMissionGoal input => abandonGoal sha256 definition state input
  | .completeMission recordedAt => closeMission sha256 definition state recordedAt

/-- Of the checks that every operation makes first, only that of the stack can fail. -/
theorem Recorded.requireVerified_eq (recorded : Recorded sha256 definition state) :
    requireVerified sha256 definition state = require (state.focusStack.all (focusAgrees state))
        "mission focus stack and goal statuses disagree" := by
  rw [requireVerified, recorded.integrity, recorded.bound]
  exact bind_pure _

theorem Recorded.operate_eq (recorded : Recorded sha256 definition state)
    (operation : MissionOperation) :
    operate sha256 definition state operation =
      operateRecorded sha256 definition state operation := by
  have verified := recorded.requireVerified_eq
  cases operation with
  | proposeMissionAction input =>
    simp only [operate, operateRecorded, proposeMissionAction, availableMissionCapabilities, verified]
    cases state.focusStack.all (focusAgrees state) with
    | false => rfl
    | true =>
      cases capability definition input.action with
      | error => rfl
      | ok =>
        cases capabilityDecisions definition state with
        | error message | ok decisions => rfl
  | _ =>
    simp only [operate, operateRecorded, activateMissionGoal, recordMissionFact,
      openMissionObligation, authorizeMissionAction, settleMissionAction, completeMissionGoal,
      abandonMissionGoal, completeMission, verified]

/-- The step of a recorded state. -/
def recordedStep (sha256 : String → String) (definition : MissionDefinition)
    (state : MissionState) (operation : MissionOperation) : MissionState :=
  match operateRecorded sha256 definition state operation with
  | .ok next => next
  | .error _ => state

theorem missionStep_eq_recordedStep (recorded : Recorded sha256 definition state)
    (operation : MissionOperation) :
    missionStep sha256 definition state operation =
      recordedStep sha256 definition state operation := by
  rw [missionStep, recorded.operate_eq]
  rfl

/-- The state of a new mission. -/
def openedMission (sha256 : String → String) (definition : MissionDefinition)
    (recordedAt : String) : MissionState :=
  let opened := { newMission sha256 definition with revision := 1, capabilityEpoch := 1 }
  { opened with
    events := [nextEvent sha256 (newMission sha256 definition) opened "mission.created"
      (.object [("definition_hash", .string opened.definitionHash)]) recordedAt] }

theorem createMissionState_opened (valid : requireDefinition definition = .ok ())
    (timed : (canonicalMillis recordedAt).isSome) :
    createMissionState sha256 definition recordedAt =
      .ok (openedMission sha256 definition recordedAt) := by
  obtain ⟨millis, canonical⟩ := Option.isSome_iff_exists.mp timed
  simp only [createMissionState, valid, appendEvent, canonical]
  rfl

theorem eq_openedMission (created : createMissionState sha256 definition recordedAt = .ok state) :
    state = openedMission sha256 definition recordedAt := by
  simp only [createMissionState, bind_ok_iff] at created
  obtain ⟨-, -, appended⟩ := created
  obtain ⟨_, rfl, rfl⟩ := appendEvent_ok appended
  rfl

/-- A run from a recorded state can be evaluated without hashing its ledger. -/
theorem runMission_eq_recorded (recorded : Recorded sha256 definition initial)
    (operations : List MissionOperation) :
    runMission sha256 definition initial operations =
      Runs.run (recordedStep sha256 definition) initial operations :=
  (Runs.run_congr (Recorded sha256 definition) recorded (fun _ _ => missionStep_recorded)
    (fun _ operation kept => missionStep_eq_recordedStep kept operation) operations).1

/-- So can the conditions that its steps meet. -/
theorem meets_of_recorded {Condition : MissionState → MissionOperation → Prop}
    (recorded : Recorded sha256 definition initial) (operations : List MissionOperation)
    (met : Runs.Meets (recordedStep sha256 definition) Condition initial operations) :
    Runs.Meets (missionStep sha256 definition) Condition initial operations :=
  (Runs.run_congr (Recorded sha256 definition) recorded (fun _ _ => missionStep_recorded)
    (fun _ operation kept => missionStep_eq_recordedStep kept operation) operations).2 _ met

/-! ## The stack along a run -/

/-- The call activates a goal that waits on the stack. -/
def Reenters (state : MissionState) : MissionOperation → Prop
  | .activateMissionGoal input => goalStatus state input.goalId = some .suspended
  | _ => False

instance decidableReenters (state : MissionState) :
    (operation : MissionOperation) → Decidable (Reenters state operation)
  | .activateMissionGoal input =>
    inferInstanceAs (Decidable (goalStatus state input.goalId = some .suspended))
  | .recordMissionFact _ | .openMissionObligation _ | .proposeMissionAction _
  | .authorizeMissionAction _ | .settleMissionAction _ | .completeMissionGoal _
  | .abandonMissionGoal _ | .completeMission _ => .isFalse id

/-- The declared goal is the one that was asked for. -/
theorem goal_ok {selected : MissionGoal}
    (declared : goal definition goalId = .ok selected) : selected.id = goalId := by
  unfold goal at declared
  split at declared
  · cases declared
  · next found =>
    cases declared
    simpa using List.find?_some found

/-- A transition that activates no waiting goal keeps the discipline of the stack. -/
theorem transition_focused
    (transition : MissionTransition sha256 definition state operation patched rotate)
    (focused : Focused state) (entering : ¬ Reenters state operation) : Focused patched := by
  cases transition with
  | activated input selected known declared running ready admitted listed idle =>
    have status : goalStatus state selected.id = some known.status := by
      rw [goalStatus, listed, Option.map_some]
    have queued : known.status = .queued := by
      refine idle.resolve_right fun suspended => entering ?_
      rw [Reenters, ← goal_ok declared, status, suspended]
    -- Goals on the stack are active or suspended, so a queued one is not on it.
    have fresh : selected.id ∉ state.focusStack := by
      intro member
      rw [queued] at status
      rcases focused.entry member with ⟨_, active⟩ | ⟨_, waiting⟩
      · rw [status] at active
        cases active
      · rw [status] at waiting
        cases waiting
    exact activated_focused focused fresh rfl rfl
  | factRecorded | obligationOpened | actionProposed | actionAuthorized
  | actionSettled => exact focused
  | goalCompleted input selected declared top active satisfied
  | goalAbandoned input selected declared optional top =>
    exact closed_focused focused top (by decide)
  | missionCompleted recordedAt achieved unfocused =>
    unfold Focused at focused ⊢
    rwa [unfocused] at focused

/-- In a new mission no goal is focused and none waits. -/
theorem createMissionState_focused
    (created : createMissionState sha256 definition recordedAt = .ok state) : Focused state := by
  obtain rfl := eq_openedMission created
  refine Disciplined.empty ?_
  intro goalId waiting
  obtain ⟨entry, listed, suspended⟩ := listed_of_status waiting
  have member := mem_of_lookup _ _ _ listed
  simp only [openedMission, newMission, List.mem_map, Prod.mk.injEq] at member
  obtain ⟨_, _, _, rfl⟩ := member
  cases suspended

/-- The code's check finds no fault in a recorded state with a disciplined stack. -/
theorem Focused.agrees (focused : Focused state) : state.focusStack.all (focusAgrees state) := by
  rw [List.all_eq_true]
  intro goalId member
  unfold focusAgrees
  rcases focused.entry member with ⟨last, active⟩ | ⟨lower, waiting⟩
  · have top : some goalId = currentGoalId state := last.symm
    rw [if_pos top, active]
    rfl
  · have notTop : some goalId ≠ currentGoalId state := Ne.symm lower
    rw [if_neg notTop, waiting]
    rfl

/-- In every run that activates no waiting goal, every state passes the integrity check,
the top of the focus stack is active, every other entry is suspended, and no goal lies on
the stack twice. -/
theorem mission_stays_operable (hex : ∀ text, isHexDigest (sha256 text) = true)
    (definition : MissionDefinition) (recordedAt : String) (initial : MissionState)
    (created : createMissionState sha256 definition recordedAt = .ok initial)
    (operations : List MissionOperation)
    (entering : Runs.Meets (missionStep sha256 definition)
      (fun state operation => ¬ Reenters state operation) initial operations) :
    let reached := runMission sha256 definition initial operations
    assertStateIntegrity sha256 reached = .ok () ∧
      (∀ top, currentGoalId reached = some top → goalStatus reached top = some .active) ∧
      (∀ goalId ∈ reached.focusStack.dropLast, goalStatus reached goalId = some .suspended) ∧
      reached.focusStack.Nodup := by
  have recorded : Recorded sha256 definition (runMission sha256 definition initial operations) :=
    runMission_recorded (createMissionState_recorded hex created) operations
  have focused : Focused (runMission sha256 definition initial operations) := by
    refine Runs.run_invariant_meets Focused (createMissionState_focused created) ?_ operations
      entering
    intro state operation fresh focused
    refine missionStep_keeps Focused focused fun patched rotate events transition => ?_
    have kept : Focused patched := transition_focused transition focused fresh
    exact kept
  refine ⟨?_, focused.onTop, focused.underTop, focused.distinct⟩
  rw [recorded.integrity, focused.agrees]
  rfl

/-! ## Detours that name each other -/

theorem digest_hexadecimal (text : String) : isHexDigest (Sha256.digest text) := by
  simp only [isHexDigest, Bool.and_eq_true, decide_eq_true_eq, List.all_eq_true]
  exact ⟨Sha256.digest_length text, Sha256.digest_digits text⟩

/-- A repair and the scheduling that it may be interrupted by. -/
def repairMission : MissionDefinition where
  id := "field-service"
  version := "1"
  label := "Field service"
  globalCapabilities := []
  goals :=
    [⟨"repair", "Repair", true, true, [], [], [], ["schedule"]⟩,
      ⟨"schedule", "Schedule", false, false, [], [], [], ["repair"]⟩]
  capabilities :=
    [⟨"close_order", "Close the order", .read, ["repair"], [], none, .perGoal, [], [], none⟩]

def noon : String := "2026-01-01T12:00:00.000Z"

theorem repairMission_created : createMissionState Sha256.digest repairMission noon =
    .ok (openedMission Sha256.digest repairMission noon) :=
  createMissionState_opened (by decide +kernel) (by decide +kernel)

theorem repairMission_recorded : Recorded Sha256.digest repairMission
    (openedMission Sha256.digest repairMission noon) :=
  createMissionState_recorded digest_hexadecimal repairMission_created

/-- The repair is interrupted by scheduling, which is completed. -/
def scheduledRepair : List MissionOperation :=
  [.activateMissionGoal ⟨"repair", .root, noon⟩, .activateMissionGoal ⟨"schedule", .detour, noon⟩,
    .completeMissionGoal ⟨"schedule", noon⟩]

/-- The repair is interrupted by scheduling, which is interrupted by the repair. -/
def nestedRepair : List MissionOperation :=
  [.activateMissionGoal ⟨"repair", .root, noon⟩, .activateMissionGoal ⟨"schedule", .detour, noon⟩,
    .activateMissionGoal ⟨"repair", .detour, noon⟩, .completeMissionGoal ⟨"repair", noon⟩]

/-- All four calls return, the repair is completed while a lower entry of the stack still
names it, and the state fails the check that every later call makes. -/
theorem nested_detour_breaks_integrity : createMissionState Sha256.digest repairMission noon =
        .ok (openedMission Sha256.digest repairMission noon) ∧
      (runMission Sha256.digest repairMission (openedMission Sha256.digest repairMission noon)
        nestedRepair).revision = 5 ∧
      assertStateIntegrity Sha256.digest (runMission Sha256.digest repairMission
          (openedMission Sha256.digest repairMission noon) nestedRepair) =
        .error "mission focus stack and goal statuses disagree" := by
  refine ⟨repairMission_created, ?_, ?_⟩
  · rw [runMission_eq_recorded repairMission_recorded]
    decide +kernel
  · rw [(runMission_recorded repairMission_recorded nestedRepair).integrity,
      runMission_eq_recorded repairMission_recorded]
    decide +kernel

/-- The interrupted repair resumes in an operable state. -/
theorem scheduled_repair_resumes : Runs.Meets (missionStep Sha256.digest repairMission)
        (fun state operation => ¬ Reenters state operation)
        (openedMission Sha256.digest repairMission noon) scheduledRepair ∧
      assertStateIntegrity Sha256.digest (runMission Sha256.digest repairMission
        (openedMission Sha256.digest repairMission noon) scheduledRepair) = .ok () := by
  have entering : Runs.Meets (missionStep Sha256.digest repairMission)
      (fun state operation => ¬ Reenters state operation)
      (openedMission Sha256.digest repairMission noon) scheduledRepair :=
    meets_of_recorded repairMission_recorded scheduledRepair (by decide +kernel)
  exact ⟨entering, (mission_stays_operable digest_hexadecimal repairMission noon _
    repairMission_created scheduledRepair entering).1⟩

end CallCenter.MissionIntegrity
