import CallCenter.ProgramTables

/-!
# The capability frontier of a program

Capabilities are issued to the focused goal under an epoch. Whatever changes the focus, the
facts or the epoch withdraws them and revokes every action that is still reserved, so the
capabilities of a state belong to its focused goal and its reserved actions were admitted
under the current frontier.
-/

namespace CallCenter.ProgramFrontier

open ObjectFields KeyedTables ProgramEvents ProgramReducer
open ProgramTransitions ProgramLogs ProgramTables

/-- The payload withdraws the frontier of the state. -/
def withdraws (state : MutableProjection) : ConversationProgramEventPayload → Bool
  | .goalFocused _ => true
  | .goalSuspended _ _ => true
  | .goalCompleted _ => true
  | .capabilityEpochAdvanced _ _ _ _ => true
  | .factAsserted _ _ _ => state.capabilityGoalId.isSome || !state.capabilities.isEmpty
  | .factCorrected _ _ _ _ => state.capabilityGoalId.isSome || !state.capabilities.isEmpty
  | _ => false

/-- What a payload that keeps the frontier makes of a reservation. -/
def settledAfter (reservationId : String) (reservation : ProgramActionReservation) :
    ConversationProgramEventPayload → ProgramActionReservation
  | .actionReceiptRecorded receipt =>
    if receipt.reservationId = reservationId then
      { reservation with
        status := settledStatus receipt.status, receiptId := some receipt.receiptId }
    else reservation
  | _ => reservation

/-- The payload makes the reservation. -/
def reserves (reservationId : String) : ConversationProgramEventPayload → Bool
  | .actionReserved reservation => decide (reservation.reservationId = reservationId)
  | _ => false

/-- What a payload does to the frontier and to the reservations under it. -/
inductive FrontierMoves (state : MutableProjection) (payload : ConversationProgramEventPayload)
    (next : MutableProjection) : Prop where
  | withdrawn (withdrawing : withdraws state payload = true)
      (epoch : next.capabilityEpoch = state.capabilityEpoch + 1)
      (goal : next.capabilityGoalId = none) (capabilities : next.capabilities = [])
      (revoked : next.reservations = mapValues revoke state.reservations)
  | issued (expectedEpoch : Nat) (granted : List String) (reason goalId : String)
      (advance : payload =
        .capabilityEpochAdvanced expectedEpoch next.capabilityEpoch granted reason)
      (epoch : next.capabilityEpoch = state.capabilityEpoch + 1)
      (current : state.focusedGoalId = some goalId) (focused : next.focusedGoalId = some goalId)
      (goal : next.capabilityGoalId = some goalId)
      (capabilities : next.capabilities = sortIds granted)
      (revoked : next.reservations = mapValues revoke state.reservations)
  | kept (keeping : withdraws state payload = false)
      (epoch : next.capabilityEpoch = state.capabilityEpoch)
      (focused : next.focusedGoalId = state.focusedGoalId)
      (goal : next.capabilityGoalId = state.capabilityGoalId)
      (capabilities : next.capabilities = state.capabilities)
      (settled : ∀ reservationId, reserves reservationId payload = false →
        next.reservations.lookup reservationId =
          (state.reservations.lookup reservationId).map fun reservation =>
            settledAfter reservationId reservation payload)

section Steps
variable {state next : MutableProjection} {sequence expectedRevision : Nat}
  {payload : ConversationProgramEventPayload}

section

variable (applies : PayloadApplies state sequence expectedRevision payload next)
include applies

theorem frontier_moves :
    FrontierMoves state payload next := by
  cases applies with
  | factAsserted | factCorrected =>
    -- A fact mutation withdraws the frontier or leaves it alone.
    unfold invalidateActiveFrontierForFactMutation
    split
    · next active => exact .withdrawn active rfl rfl rfl rfl
    · next idle =>
      refine .kept (Bool.eq_false_iff.mpr idle) rfl rfl rfl rfl fun reservationId _ => ?_
      exact Option.map_id'.symm
  | goalFocused | goalSuspended | goalCompleted => exact .withdrawn rfl rfl rfl rfl rfl
  | capabilityEpochAdvanced expectedEpoch epoch capabilities reason goalId current _ contiguous =>
    exact .issued expectedEpoch capabilities reason goalId rfl contiguous current current rfl rfl rfl
  | actionReserved reservation =>
    refine .kept rfl rfl rfl rfl rfl ?_
    intro reservationId unrelated
    have different : reservation.reservationId ≠ reservationId := by
      simpa [reserves] using unrelated
    rw [lookup_setField_ne _ _ _ _ (Ne.symm different)]
    exact Option.map_id'.symm
  | actionReceiptRecorded receipt reservation _ known =>
    refine .kept rfl rfl rfl rfl rfl fun reservationId _ => ?_
    by_cases same : receipt.reservationId = reservationId
    · subst same
      simp [settledAfter, known]
    · rw [lookup_setField_ne _ _ _ _ (Ne.symm same)]
      simp [settledAfter, same]
  | goalOpened | flowCheckpointRecorded | obligationOpened | obligationSettled | workerSpawned
  | workerDeliveryRecorded | workerCancelled | audibilityResponseRegistered
  | audibilityReleasedThrough | audibilityHeardThrough | audibilityInterrupted =>
    exact .kept rfl rfl rfl rfl rfl fun _ _ => Option.map_id'.symm

/-- Epochs never go back. -/
theorem epoch_monotone :
    state.capabilityEpoch ≤ next.capabilityEpoch := by
  cases frontier_moves applies with
  | withdrawn _ epoch | issued _ _ _ _ _ epoch | kept _ epoch => omega

end

/-! ## Reservations -/

theorem revoke_status (reservation : ProgramActionReservation) :
    (revoke reservation).status ≠ .reserved := by
  by_cases status : reservation.status = .reserved
  · simp [revoke, status]
  · rw [revoke, if_neg status]
    exact status

theorem settledStatus_ne_reserved (status : ReceiptStatus) : settledStatus status ≠ .reserved := by
  cases status <;> decide

variable {reservationId : String} {reservation : ProgramActionReservation}

section

variable (applies : PayloadApplies state sequence expectedRevision payload next)
include applies

/-- A reservation is made once. -/
theorem reserves_known (known : state.reservations.lookup reservationId = some reservation) :
    reserves reservationId payload = false := by
  cases applies with
  | actionReserved added goal _ reservable =>
    refine decide_eq_false ?_
    rintro rfl
    rw [reservable.fresh] at known
    cases known
  | _ => rfl

/-- A reservation that is reserved after a payload was reserved before it, and the payload
neither withdrew the frontier nor changed the reservation. -/
theorem reserved_before {before after : ProgramActionReservation}
    (known : state.reservations.lookup reservationId = some before)
    (found : next.reservations.lookup reservationId = some after)
    (reserved : after.status = .reserved) : after = before ∧ withdraws state payload = false := by
  have unrevoked : ∀ revoked : next.reservations = mapValues revoke state.reservations, False := by
    intro revoked
    rw [revoked, lookup_mapValues, known] at found
    cases found
    exact revoke_status before reserved
  cases frontier_moves applies with
  | withdrawn _ _ _ _ revoked | issued _ _ _ _ _ _ _ _ _ _ revoked => exact (unrevoked revoked).elim
  | kept keeping _ _ _ _ settled =>
    have moved := settled reservationId (reserves_known applies known)
    rw [known, found, Option.map_some] at moved
    refine ⟨?_, keeping⟩
    cases payload with
    | actionReceiptRecorded receipt =>
      by_cases same : receipt.reservationId = reservationId
      · rw [settledAfter, if_pos same] at moved
        cases moved
        exact absurd reserved (settledStatus_ne_reserved receipt.status)
      · rw [settledAfter, if_neg same] at moved
        exact Option.some.inj moved
    | _ => exact Option.some.inj moved

/-- A reservation is never removed, and one that is no longer reserved stays so. -/
theorem reservation_persists {before : ProgramActionReservation}
    (known : state.reservations.lookup reservationId = some before) :
    ∃ after, next.reservations.lookup reservationId = some after ∧
      (before.status ≠ .reserved → after.status ≠ .reserved) := by
  have present : ∃ after, next.reservations.lookup reservationId = some after := by
    cases frontier_moves applies with
    | withdrawn _ _ _ _ revoked | issued _ _ _ _ _ _ _ _ _ _ revoked =>
      exact ⟨revoke before, by rw [revoked, lookup_mapValues, known]; rfl⟩
    | kept _ _ _ _ _ settled =>
      have moved := settled reservationId (reserves_known applies known)
      rw [known] at moved
      exact ⟨_, moved⟩
  obtain ⟨after, found⟩ := present
  refine ⟨after, found, ?_⟩
  intro unreserved reserved
  obtain ⟨rfl, -⟩ := reserved_before applies known found reserved
  exact unreserved reserved

end

/-! ## Authority -/

/-- A withdrawal leaves nothing reserved. -/
theorem unreserved_of_revoked (revoked : next.reservations = mapValues revoke state.reservations)
    (found : next.reservations.lookup reservationId = some reservation) :
    reservation.status ≠ .reserved := by
  rw [revoked, lookup_mapValues] at found
  obtain ⟨original, -, rfl⟩ := Option.map_eq_some_iff.mp found
  exact revoke_status original

/-- Where a reservation that is reserved comes from. -/
theorem reserved_origin (applies : PayloadApplies state sequence expectedRevision payload next)
    (found : next.reservations.lookup reservationId = some reservation)
    (reserved : reservation.status = .reserved) :
    state.reservations.lookup reservationId = some reservation ∨
      ∃ added, payload = .actionReserved added ∧ Reservable state expectedRevision added ∧
        reservation.toActionReservation = added := by
  cases known : state.reservations.lookup reservationId with
  | some =>
    obtain ⟨rfl, -⟩ := reserved_before applies known found reserved
    exact Or.inl rfl
  | none =>
    right
    have revoking : reserves reservationId payload := by
      by_contra unrelated
      cases frontier_moves applies with
      | withdrawn _ _ _ _ revoked
      | issued _ _ _ _ _ _ _ _ _ _ revoked => exact unreserved_of_revoked revoked found reserved
      | kept _ _ _ _ _ settled =>
        rw [settled reservationId (Bool.eq_false_iff.mpr unrelated), known] at found
        cases found
    cases applies with
    | actionReserved added goal _ reservable =>
      have same : added.reservationId = reservationId := of_decide_eq_true revoking
      subst same
      rw [lookup_setField_self] at found
      cases found
      exact ⟨added, rfl, reservable, rfl⟩
    | _ => cases revoking

/-- The focus is on a focused goal. -/
def FocusHeld (state : MutableProjection) : Prop :=
  ∀ goalId, state.focusedGoalId = some goalId →
    IdSchema goalId = true ∧ ∃ goal, HoldsFocus state goalId goal

theorem FocusHeld.same (held : FocusHeld state) (focused : next.focusedGoalId = state.focusedGoalId)
    (goals : ∀ goalId goal, state.goals.lookup goalId = some goal →
      next.goals.lookup goalId = some goal) : FocusHeld next := by
  intro goalId current
  rw [focused] at current
  obtain ⟨named, goal, holds⟩ := held goalId current
  exact ⟨named, goal, goals goalId goal holds.found, holds.focused, focused.trans current⟩

theorem focusHeld_mutated {changed : MutableProjection} (held : FocusHeld changed) :
    FocusHeld (invalidateActiveFrontierForFactMutation changed) := by
  have focused := mutation_keeps changed MutableProjection.focusedGoalId fun _ => rfl
  have goals := mutation_keeps changed MutableProjection.goals fun _ => rfl
  refine held.same focused ?_
  intro goalId goal found
  rw [goals]
  exact found

theorem IdSchema_ne_empty {text : String} (identity : IdSchema text) : text ≠ "" := by
  rintro rfl
  cases identity

/-- Every payload keeps the focus on a focused goal. -/
theorem focus_step (applies : PayloadApplies state sequence expectedRevision payload next)
    (schema : ConversationProgramEventPayloadSchema payload.normalized) (held : FocusHeld state) :
    FocusHeld next := by
  cases applies with
  | factAsserted | factCorrected => exact focusHeld_mutated (held.same rfl fun _ _ found => found)
  | goalOpened opened description fresh =>
    refine held.same rfl ?_
    intro goalId goal found
    have different : goalId ≠ opened := by
      rintro rfl
      rw [fresh] at found
      cases found
    exact (lookup_setField_ne _ _ _ _ different).trans found
  | goalFocused =>
    intro goalId current
    cases current
    exact ⟨schema, _, lookup_setField_self _ _ _, rfl, rfl⟩
  | goalSuspended | goalCompleted =>
    intro goalId current
    cases current
  | _ => exact held.same rfl fun _ _ found => found

/-- The focus is on a focused goal, the frontier belongs to it, and every reserved action
was admitted under the frontier. -/
structure Authorized (state : MutableProjection) : Prop where
  focus : FocusHeld state
  frontier : ∀ goalId, state.capabilityGoalId = some goalId → state.focusedGoalId = some goalId
  owned : state.capabilities ≠ [] → state.capabilityGoalId ≠ none
  reserved : ∀ reservationId reservation,
    state.reservations.lookup reservationId = some reservation →
    reservation.status = .reserved → state.capabilityGoalId = some reservation.goalId ∧
        reservation.capabilityEpoch = state.capabilityEpoch ∧
        reservation.action ∈ state.capabilities

theorem emptyProjection_authorized : Authorized emptyProjection := by
  constructor
  · intro goalId focused
    cases focused
  · intro goalId issued
    cases issued
  · intro nonempty
    exact absurd rfl nonempty
  · intro reservationId reservation found
    cases found

/-- Every payload keeps the frontier with the focused goal and the reserved actions under
the frontier. -/
theorem authorized_step (applies : PayloadApplies state sequence expectedRevision payload next)
    (schema : ConversationProgramEventPayloadSchema payload.normalized)
    (authorized : Authorized state) : Authorized next := by
  have held := focus_step applies schema authorized.focus
  cases frontier_moves applies with
  | withdrawn _ _ goal capabilities revoked =>
    refine ⟨held, ?_, ?_, ?_⟩
    · intro goalId issued
      rw [goal] at issued
      cases issued
    · intro nonempty
      exact absurd capabilities nonempty
    · intro reservationId reservation found reserved
      exact absurd reserved (unreserved_of_revoked revoked found)
  | issued _ _ _ goalId _ _ _ focused goal _ revoked =>
    refine ⟨held, ?_, ?_, ?_⟩
    · intro other issued
      rw [goal] at issued
      cases issued
      exact focused
    · intro _
      rw [goal]
      exact Option.some_ne_none goalId
    · intro reservationId reservation found reserved
      exact absurd reserved (unreserved_of_revoked revoked found)
  | kept _ epoch focused goal capabilities =>
    refine ⟨held, ?_, ?_, ?_⟩
    · intro goalId issued
      rw [goal] at issued
      rw [focused]
      exact authorized.frontier goalId issued
    · intro nonempty
      rw [goal]
      rw [capabilities] at nonempty
      exact authorized.owned nonempty
    · intro reservationId reservation found reserved
      rw [goal, epoch, capabilities]
      rcases reserved_origin applies found reserved with known | ⟨added, -, reservable, rfl⟩
      · exact authorized.reserved reservationId reservation known reserved
      · exact ⟨reservable.frontier, reservable.epoch, reservable.capable⟩

end Steps

theorem payloadSchema_of_event {event : ConversationProgramEvent}
    (schema : ConversationProgramEventSchema event.normalized) :
    ConversationProgramEventPayloadSchema event.payload.normalized := by
  simp only [ConversationProgramEventSchema, ConversationProgramEventDraftSchema,
    Bool.and_eq_true] at schema
  exact schema.1.1.1.1.1.2

/-- Sound logs lead to authorized states. -/
theorem sound_authorized {sha256 : String → String} {log : ConversationProgramLog}
    {state : MutableProjection} (sound : Sound sha256 log state) : Authorized state := by
  refine sound.history (fun _ state => Authorized state) emptyProjection_authorized ?_
  intro before event reached next _ _ schema applied authorized
  exact authorized_step (applyEvent_applies applied) (payloadSchema_of_event schema) authorized

/-! ## The projected focus -/

section Projection
variable {sha256 : String → String} {log : ConversationProgramLog} {final : MutableProjection}

/-- The projection shows the focused goal of the state. -/
theorem project_focusedGoal (sound : Sound sha256 log final) {goalId : String}
    (current : final.focusedGoalId = some goalId) :
    ∃ goal, (project log final).focusedGoal = some goal ∧ goal.goalId = goalId ∧
      HoldsFocus final goalId goal := by
  obtain ⟨identity, goal, focus⟩ := (sound_authorized sound).focus goalId current
  have indexed := replay_indexed sound.replayed
  have shown : (project log final).focusedGoal =
      (final.focusedGoalId.filter (· ≠ "")).bind fun goalId =>
        lookupRow ProgramGoal.goalId (project log final).goals goalId := rfl
  have present : (some goalId).filter (· ≠ "") = some goalId := by
    simp [Option.filter, IdSchema_ne_empty identity]
  refine ⟨goal, ?_, ((indexed.goals.lookup_iff goalId goal).mp focus.found).2, focus⟩
  rw [shown, current, present, Option.bind_some]
  exact (indexed.goals.lookupRow_perm (sortBy_perm _ _) goalId).trans focus.found

/-- The focused goal of the projection has the focus in the state. -/
theorem focused_of_project (sound : Sound sha256 log final) {goal : ProgramGoal}
    (shown : (project log final).focusedGoal = some goal) :
    IdSchema goal.goalId = true ∧ HoldsFocus final goal.goalId goal := by
  cases current : final.focusedGoalId with
  | none =>
    have hidden : (project log final).focusedGoal = none := by
      simp [project, current]
    rw [hidden] at shown
    cases shown
  | some =>
    obtain ⟨other, otherShown, named, focus⟩ := project_focusedGoal sound current
    cases otherShown.symm.trans shown
    subst named
    exact ⟨((sound_authorized sound).focus _ current).1, focus⟩

end Projection

end CallCenter.ProgramFrontier
