import CallCenter.ProgramFrontier
import CallCenter.ProgramScripts

/-!
# Reservations and their receipts

A receipt settles a reservation that is still reserved. Since every change of authority
revokes what is reserved, no such change lies between the two events, and the frontier
under which the action was admitted is still the current one when the receipt is recorded.
-/

namespace CallCenter.ProgramRevocation

open ObjectFields Replays ProgramEvents ProgramReducer
open ProgramTransitions ProgramLogs ProgramTables ProgramFrontier ProgramScripts

/-- The payload changes who may act: it moves the focus, issues capabilities or writes a
fact, whether or not it finds a frontier to withdraw. -/
def changesAuthority : ConversationProgramEventPayload → Bool
  | .goalFocused _ => true
  | .goalSuspended _ _ => true
  | .goalCompleted _ => true
  | .capabilityEpochAdvanced _ _ _ _ => true
  | .factAsserted _ _ _ => true
  | .factCorrected _ _ _ _ => true
  | _ => false

/-- The reservation that an event settles. -/
def settledReservation (event : ConversationProgramEvent) : Option String :=
  match event.payload with
  | .actionReceiptRecorded receipt => some receipt.reservationId
  | _ => none

/-- The idempotency key that an event reserves. -/
def reservedKey (event : ConversationProgramEvent) : Option String :=
  match event.payload with
  | .actionReserved reservation => some reservation.idempotencyKey
  | _ => none

variable {sha256 : String → String} {log : ConversationProgramLog} {final : MutableProjection}

/-! ## Between a reservation and its receipt -/

variable {reservation : ActionReservation} {state : MutableProjection}
  {event : ConversationProgramEvent} {before : List ConversationProgramEvent}

/-- With an action reserved, every change of authority is a withdrawal. -/
theorem withdraws_of_changesAuthority (authorized : Authorized state)
    {reservationId : String} {reservation : ProgramActionReservation}
    (found : state.reservations.lookup reservationId = some reservation)
    (reserved : reservation.status = .reserved) (payload : ConversationProgramEventPayload) :
    withdraws state payload = changesAuthority payload := by
  obtain ⟨frontier, -, -⟩ := authorized.reserved reservationId reservation found reserved
  cases payload with
  | factAsserted | factCorrected => simp [withdraws, changesAuthority, frontier]
  | _ => rfl

/-- The record of a new reservation. -/
def reservationRecord (reservation : ActionReservation) (sequence : Nat) :
    ProgramActionReservation :=
  { reservation with reservedSequence := sequence, status := .reserved, receiptId := none }

/-- What is still reserved after some events is the reservation as it was made, and none of
the events changed authority. -/
theorem reserved_through {between : List ConversationProgramEvent}
    (sound : Sound sha256 (withEvents log (before ++ event :: between)) final)
    (payload : event.payload = .actionReserved reservation) :
    ∃ current, final.reservations.lookup reservation.reservationId = some current ∧
      (current.status = .reserved → current = reservationRecord reservation event.sequence ∧
        ∀ other ∈ between, changesAuthority other.payload = false) := by
  induction between using List.reverseRecOn generalizing final with
  | nil =>
    obtain ⟨state, -, -, -, applied⟩ :=
      (sound_snoc_iff (withEvents log before) event final).mp sound
    have applies := applyEvent_applies applied
    rw [payload] at applies
    cases applies with
    | actionReserved =>
      refine ⟨_, lookup_setField_self _ _ _, ?_⟩
      intro _
      exact ⟨rfl, fun other member => by cases member⟩
  | append_singleton between last ih =>
    rw [← List.cons_append, ← List.append_assoc] at sound
    obtain ⟨middle, shorter, -, -, applied⟩ :=
      (sound_snoc_iff (withEvents log (before ++ event :: between)) last final).mp sound
    obtain ⟨earlier, known, undisturbed⟩ := ih shorter
    have applies := applyEvent_applies applied
    obtain ⟨current, found, -⟩ := reservation_persists applies known
    refine ⟨current, found, ?_⟩
    intro reserved
    obtain ⟨rfl, keeping⟩ := reserved_before applies known found reserved
    obtain ⟨record, unchanged⟩ := undisturbed reserved
    refine ⟨record, ?_⟩
    intro other member
    rcases List.mem_append.mp member with old | new
    · exact unchanged other old
    · rw [List.mem_singleton.mp new, ← withdraws_of_changesAuthority (sound_authorized shorter)
        known reserved]
      exact keeping

/-- A reserved action has been reserved by an event of the log. -/
theorem reserved_by_event (sound : Sound sha256 log final) {reservationId : String}
    {reservation : ProgramActionReservation}
    (found : final.reservations.lookup reservationId = some reservation)
    (reserved : reservation.status = .reserved) :
    ∃ before event between, log.events = before ++ event :: between ∧
      event.payload = .actionReserved reservation.toActionReservation := by
  refine sound.history (fun events state => ∀ reservation : ProgramActionReservation,
    state.reservations.lookup reservationId = some reservation → reservation.status = .reserved →
      ∃ before event between, events = before ++ event :: between ∧
        event.payload = .actionReserved reservation.toActionReservation) ?_ ?_ reservation found
    reserved
  · intro reservation found
    cases found
  · intro events event state next _ _ _ applied known reservation found reserved
    rcases reserved_origin (applyEvent_applies applied) found reserved with
      earlier | ⟨added, payload, -, same⟩
    · obtain ⟨before, origin, between, rfl, payload⟩ := known reservation earlier reserved
      exact ⟨before, origin, between ++ [event], by simp, payload⟩
    · exact ⟨events, event, [], rfl, by rw [payload, same]⟩

/-- Capabilities have been issued by an event of the log to the goal that owns them. -/
theorem issued_by_event (sound : Sound sha256 log final) {goalId : String}
    (owner : final.capabilityGoalId = some goalId) :
    ∃ before issued after expectedEpoch granted reason issuing,
      log.events = before ++ issued :: after ∧ issued.payload =
          .capabilityEpochAdvanced expectedEpoch final.capabilityEpoch granted reason ∧
        final.capabilities = sortIds granted ∧
        Sound sha256 (withEvents log (before ++ [issued])) issuing ∧
        issuing.capabilityGoalId = some goalId := by
  refine sound.history (fun events state => state.capabilityGoalId = some goalId →
    ∃ before issued after expectedEpoch granted reason issuing, events = before ++ issued :: after ∧
        issued.payload =
          .capabilityEpochAdvanced expectedEpoch state.capabilityEpoch granted reason ∧
        state.capabilities = sortIds granted ∧
        Sound sha256 (withEvents log (before ++ [issued])) issuing ∧
        issuing.capabilityGoalId = some goalId) ?_ ?_ owner
  · intro impossible
    cases impossible
  · intro events event state next _ longer _ applied known owner
    cases frontier_moves (applyEvent_applies applied) with
    | withdrawn _ _ goal =>
      rw [goal] at owner
      cases owner
    | issued expectedEpoch granted reason _ advance _ _ _ _ capabilities =>
      exact ⟨events, event, [], expectedEpoch, granted, reason, next, rfl, advance, capabilities,
        longer, owner⟩
    | kept _ epoch _ goal capabilities =>
      rw [goal] at owner
      obtain ⟨before, issued, after, expectedEpoch, granted, reason, issuing, rfl, payload, grants,
        issuingSound, issuingOwner⟩ := known owner
      refine ⟨before, issued, after ++ [event], expectedEpoch, granted, reason, issuing, by simp,
        ?_, ?_, issuingSound, issuingOwner⟩
      · rw [epoch]
        exact payload
      · rw [capabilities]
        exact grants

/-! ## At most once -/

/-- Keys that a state records before they are emitted again are emitted once. -/
theorem emitted_nodup {κ : Type} (emit : ConversationProgramEvent → Option κ)
    (Recorded : MutableProjection → κ → Prop) (sound : Sound sha256 log final)
    (step : ∀ event state next, ConversationProgramEventSchema event.normalized = true →
      applyEvent state event = .ok next → (∀ key, Recorded state key → Recorded next key) ∧
        ∀ key, emit event = some key → ¬ Recorded state key ∧ Recorded next key) :
    (log.events.filterMap emit).Nodup := by
  have history := sound.history (fun events state => (events.filterMap emit).Nodup ∧
    ∀ key ∈ events.filterMap emit, Recorded state key) ⟨List.nodup_nil, by simp⟩ ?_
  · exact history.1
  intro events event state next _ _ schema applied known
  obtain ⟨distinct, recorded⟩ := known
  obtain ⟨kept, emitted⟩ := step event state next schema applied
  rw [List.filterMap_append, List.filterMap_cons, List.filterMap_nil]
  cases new : emit event with
  | none =>
    simp only [List.append_nil]
    exact ⟨distinct, fun key member => kept key (recorded key member)⟩
  | some key =>
    obtain ⟨unrecorded, nowRecorded⟩ := emitted key new
    refine ⟨List.nodup_append.mpr ⟨distinct, List.nodup_singleton _, ?_⟩, ?_⟩
    · rintro other member last singleton rfl
      rw [List.mem_singleton.mp singleton] at member
      exact unrecorded (recorded key member)
    · intro other member
      rcases List.mem_append.mp member with old | last
      · exact kept other (recorded other old)
      · rw [List.mem_singleton.mp last]
        exact nowRecorded

/-- No reservation is settled twice. -/
theorem settledReservations_nodup (sound : Sound sha256 log final) :
    (log.events.filterMap settledReservation).Nodup := by
  refine emitted_nodup settledReservation (fun state reservationId => ∃ reservation,
    state.reservations.lookup reservationId = some reservation ∧
      reservation.status ≠ .reserved) sound ?_
  intro event state next _ applied
  have applies := applyEvent_applies applied
  constructor
  · rintro reservationId ⟨reservation, found, unreserved⟩
    obtain ⟨after, kept, stays⟩ := reservation_persists applies found
    exact ⟨after, kept, stays unreserved⟩
  · intro reservationId new
    unfold settledReservation at new
    split at new
    · next receipt payload =>
      cases new
      rw [payload] at applies
      cases applies with
      | actionReceiptRecorded _ reservation _ found reserved =>
        refine ⟨?_, _, lookup_setField_self _ _ _, settledStatus_ne_reserved receipt.status⟩
        rintro ⟨earlier, known, unreserved⟩
        cases known.symm.trans found
        exact unreserved reserved
    · cases new

/-- Only a reservation writes idempotency keys. -/
theorem idempotencyKeys_step {next : MutableProjection}
    (applied : applyEvent state event = .ok next) :
    (reservedKey event = none ∧ next.idempotencyKeys = state.idempotencyKeys) ∨
      ∃ reservation, event.payload = .actionReserved reservation ∧
        (state.idempotencyKeys.lookup reservation.idempotencyKey).filter (· ≠ "") = none ∧
        next.idempotencyKeys = setField state.idempotencyKeys reservation.idempotencyKey
          reservation.reservationId := by
  have applies := applyEvent_applies applied
  unfold reservedKey
  generalize event.payload = payload at applies
  cases applies with
  | actionReserved reservation goal _ reservable =>
    exact Or.inr ⟨reservation, rfl, reservable.unused, rfl⟩
  | factAsserted | factCorrected =>
    exact Or.inl ⟨rfl, mutation_keeps _ MutableProjection.idempotencyKeys fun _ => rfl⟩
  | _ => exact Or.inl ⟨rfl, rfl⟩

/-- No idempotency key is reserved twice. -/
theorem reservedKeys_nodup (sound : Sound sha256 log final) :
    (log.events.filterMap reservedKey).Nodup := by
  refine emitted_nodup reservedKey (fun state key => ∃ reservationId,
    state.idempotencyKeys.lookup key = some reservationId ∧ reservationId ≠ "") sound ?_
  intro event state next schema applied
  rcases idempotencyKeys_step applied with ⟨none, same⟩ | ⟨reservation, payload, unused, written⟩
  · rw [none, same]
    exact ⟨fun _ recorded => recorded, by rintro key ⟨⟩⟩
  · have new : reservedKey event = some reservation.idempotencyKey := by
      rw [reservedKey, payload]
    have fields := payloadSchema_of_event schema
    rw [payload] at fields
    have identified : reservation.reservationId ≠ "" := by
      simp only [ConversationProgramEventPayload.normalized, ConversationProgramEventPayloadSchema,
        ActionReservedSchema, Bool.and_eq_true] at fields
      exact IdSchema_ne_empty fields.1.1.1.1.1.1
    rw [new, written]
    constructor
    · rintro key recorded
      by_cases same : key = reservation.idempotencyKey
      · subst same
        exact ⟨_, lookup_setField_self _ _ _, identified⟩
      · rw [lookup_setField_ne _ _ _ _ same]
        exact recorded
    · rintro key ⟨⟩
      refine ⟨?_, _, lookup_setField_self _ _ _, identified⟩
      rintro ⟨reservationId, found, named⟩
      rw [found] at unused
      simp [named] at unused

/-! ## The projection -/

/-- The state that a receipt finds. -/
theorem receipt_finds {between after : List ConversationProgramEvent}
    {reserved settled : ConversationProgramEvent} {receipt : ActionReceipt}
    (sound : Sound sha256 (withEvents log (before ++ reserved :: (between ++ settled :: after)))
      final) (reservedPayload : reserved.payload = .actionReserved reservation)
    (settledPayload : settled.payload = .actionReceiptRecorded receipt)
    (same : receipt.reservationId = reservation.reservationId) :
    (∀ event ∈ between, changesAuthority event.payload = false) ∧
      ∃ current, Sound sha256 (withEvents log (before ++ reserved :: between)) current ∧
        current.capabilityEpoch = reservation.capabilityEpoch ∧
        current.capabilityGoalId = some reservation.goalId ∧
        reservation.action ∈ current.capabilities := by
  have regrouped : before ++ reserved :: (between ++ settled :: after) =
      (before ++ reserved :: between ++ [settled]) ++ after := by simp
  rw [regrouped] at sound
  obtain ⟨settledState, upToReceipt, -⟩ := sound.initial
  obtain ⟨current, upTo, -, -, applied⟩ :=
    (sound_snoc_iff (withEvents log (before ++ reserved :: between)) settled _).mp upToReceipt
  obtain ⟨record, found, undisturbed⟩ := reserved_through upTo reservedPayload
  have applies := applyEvent_applies applied
  rw [settledPayload] at applies
  cases applies with
  | actionReceiptRecorded _ known _ knownFound status =>
    rw [same, found] at knownFound
    cases knownFound
    obtain ⟨rfl, unchanged⟩ := undisturbed status
    obtain ⟨frontier, epoch, capable⟩ := (sound_authorized upTo).reserved _ _ found status
    exact ⟨unchanged, current, upTo, epoch.symm, frontier, capable⟩

/-- The frontier under which an action was admitted had been issued to its goal. -/
theorem reservation_issued {after : List ConversationProgramEvent}
    {reserved : ConversationProgramEvent}
    (sound : Sound sha256 (withEvents log (before ++ reserved :: after)) final)
    (payload : reserved.payload = .actionReserved reservation) :
    ∃ earlier issued rest expectedEpoch granted reason issuing, before = earlier ++ issued :: rest ∧
        issued.payload = .capabilityEpochAdvanced expectedEpoch reservation.capabilityEpoch
          granted reason ∧
        reservation.action ∈ granted ∧
        Sound sha256 (withEvents log (earlier ++ [issued])) issuing ∧
        issuing.capabilityGoalId = some reservation.goalId := by
  obtain ⟨state, initial, replayed⟩ := sound.initial
  obtain ⟨next, applied, -⟩ := (replay_cons_ok_iff reserved after).mp replayed
  have applies := applyEvent_applies applied
  rw [payload] at applies
  cases applies with
  | actionReserved _ goal _ reservable =>
    obtain ⟨earlier, issued, rest, expectedEpoch, granted, reason, issuing, split, advance,
      capabilities, issuingSound, owner⟩ := issued_by_event initial reservable.frontier
    refine ⟨earlier, issued, rest, expectedEpoch, granted, reason, issuing, split, ?_, ?_,
      issuingSound, owner⟩
    · rw [reservable.epoch]
      exact advance
    · have capable := reservable.capable
      rw [capabilities, sortIds, List.mem_insertionSort] at capable
      exact capable

/-- Nothing comes between the admission of an action and the record of its outcome: no change
of authority lies between a reservation and its receipt, and the frontier that was issued to
the reservation's goal is still current. Every receipt has its reservation, no reservation has
two receipts and no idempotency key two reservations; and capabilities belong to the focused
goal. -/
theorem revocation_is_effective {projection : ConversationProgramProjection}
    (folded : foldConversationProgram sha256 log = .ok projection) :
    (∀ before reserved between settled after reservation receipt,
      log.events = before ++ reserved :: (between ++ settled :: after) →
      reserved.payload = .actionReserved reservation →
      settled.payload = .actionReceiptRecorded receipt →
      receipt.reservationId = reservation.reservationId →
        (∀ event ∈ between, changesAuthority event.payload = false) ∧
        (∃ current,
          foldConversationProgram sha256 (withEvents log (before ++ reserved :: between)) =
              .ok current ∧
            current.capabilityEpoch = reservation.capabilityEpoch ∧
            current.capabilityGoalId = some reservation.goalId ∧
            reservation.action ∈ current.capabilities) ∧
        ∃ earlier issued rest expectedEpoch granted reason issuing,
          before = earlier ++ issued :: rest ∧
            issued.payload = .capabilityEpochAdvanced expectedEpoch reservation.capabilityEpoch
              granted reason ∧
            reservation.action ∈ granted ∧
            foldConversationProgram sha256 (withEvents log (earlier ++ [issued])) = .ok issuing ∧
            issuing.capabilityGoalId = some reservation.goalId) ∧
      (∀ before settled after receipt, log.events = before ++ settled :: after →
        settled.payload = .actionReceiptRecorded receipt →
          ∃ earlier reserved between reservation, before = earlier ++ reserved :: between ∧
            reserved.payload = .actionReserved reservation ∧
            reservation.reservationId = receipt.reservationId) ∧
      (log.events.filterMap settledReservation).Nodup ∧
      (log.events.filterMap reservedKey).Nodup ∧
      (projection.capabilities ≠ [] → ∃ goal, projection.focusedGoal = some goal ∧
        projection.capabilityGoalId = some goal.goalId) := by
  obtain ⟨state, sound, rfl⟩ := (foldConversationProgram_ok_iff _ _).mp folded
  refine ⟨?_, ?_, settledReservations_nodup sound, reservedKeys_nodup sound, ?_⟩
  · intro before reserved between settled after reservation receipt split reservedPayload
      settledPayload same
    have whole : Sound sha256
        (withEvents log (before ++ reserved :: (between ++ settled :: after))) state := by
      rw [← split]
      exact sound
    obtain ⟨unchanged, current, upTo, epoch, owner, capable⟩ :=
      receipt_finds whole reservedPayload settledPayload same
    obtain ⟨earlier, issued, rest, expectedEpoch, granted, reason, issuing, origin, advance,
      capabilities, issuingSound, issuingOwner⟩ := reservation_issued whole reservedPayload
    refine ⟨unchanged, ?_, ?_⟩
    · exact ⟨_, (foldConversationProgram_ok_iff _ _).mpr ⟨current, upTo, rfl⟩, epoch, owner,
        capable⟩
    · exact ⟨earlier, issued, rest, expectedEpoch, granted, reason, _, origin, advance,
        capabilities, (foldConversationProgram_ok_iff _ _).mpr ⟨issuing, issuingSound, rfl⟩,
        issuingOwner⟩
  · intro before settled after receipt split payload
    have whole : Sound sha256 (withEvents log (before ++ settled :: after)) state := by
      rw [← split]
      exact sound
    obtain ⟨found, initial, replayed⟩ := whole.initial
    obtain ⟨next, applied, -⟩ := (replay_cons_ok_iff settled after).mp replayed
    have applies := applyEvent_applies applied
    rw [payload] at applies
    cases applies with
    | actionReceiptRecorded _ reservation _ known status =>
      obtain ⟨earlier, reserved, between, origin, reservedPayload⟩ :=
        reserved_by_event initial known status
      have named :=
        (((replay_indexed initial.replayed).reservations.lookup_iff _ reservation).mp known).2
      exact ⟨earlier, reserved, between, reservation.toActionReservation, origin, reservedPayload,
        named⟩
  · intro nonempty
    have authorized := sound_authorized sound
    obtain ⟨goalId, owner⟩ := Option.ne_none_iff_exists'.mp (authorized.owned nonempty)
    obtain ⟨goal, shown, named, -⟩ :=
      project_focusedGoal sound (authorized.frontier goalId owner)
    exact ⟨goal, shown, by rw [named]; exact owner⟩

/-! ## Batches -/

/-- A batch that is refused leaves the log as it was. -/
def offerBatch (sha256 : String → String) (log : ConversationProgramLog)
    (drafts : List ConversationProgramEventDraft) : ConversationProgramLog :=
  (appendConversationProgramEvents sha256 log drafts).toOption.getD log

/-- Whatever batches are offered, a log only grows and its capability epoch never goes back. -/
theorem offered_batches_extend (batches : List (List ConversationProgramEventDraft)) :
    let reached := Runs.run (offerBatch sha256) log batches
    log.events <+: reached.events ∧ ∀ before after,
      foldConversationProgram sha256 log = .ok before →
      foldConversationProgram sha256 reached = .ok after →
        before.capabilityEpoch ≤ after.capabilityEpoch := by
  obtain ⟨later, same⟩ : ∃ later, Runs.run (offerBatch sha256) log batches =
      withEvents log (log.events ++ later) := by
    refine Runs.run_invariant (fun reached : ConversationProgramLog => ∃ later,
      reached = withEvents log (log.events ++ later)) ⟨[], by simp [withEvents]⟩ ?_ batches
    rintro reached drafts ⟨earlier, known⟩
    unfold offerBatch
    cases appended : appendConversationProgramEvents sha256 reached drafts with
    | error => exact ⟨earlier, known⟩
    | ok next =>
      obtain ⟨-, later, -, rfl⟩ := appendConversationProgramEvents_sound appended
      exact ⟨earlier ++ later, by simp [known, withEvents, Except.toOption]⟩
  rw [same]
  refine ⟨List.prefix_append _ _, ?_⟩
  intro before after folded refolded
  obtain ⟨first, sound, rfl⟩ := (foldConversationProgram_ok_iff _ _).mp folded
  obtain ⟨last, whole, rfl⟩ := (foldConversationProgram_ok_iff _ _).mp refolded
  obtain ⟨state, initial, replayed⟩ := whole.initial
  -- The events of the first log lead to one state only.
  cases sound.replayed.symm.trans initial.replayed
  refine replay_invariant (fun reached : MutableProjection => first.capabilityEpoch ≤
    reached.capabilityEpoch) ?_ replayed le_rfl
  intro reached event next applied known
  exact known.trans (epoch_monotone (applyEvent_applies applied))

/-! ## A refund -/

/-- A refund is reserved under the frontier of the billing goal. -/
def refundReservation : ActionReservation :=
  ⟨"attempt-1", "billing", "refund", CONVERSATION_PROGRAM_GENESIS_SHA256, "key-1", 2, 3⟩

def refundReceipt : ActionReceipt :=
  ⟨"receipt-1", "attempt-1", .succeeded, some CONVERSATION_PROGRAM_GENESIS_SHA256,
    CONVERSATION_PROGRAM_GENESIS_SHA256⟩

/-- An obligation is opened between the reservation and the receipt. -/
def refundScript : List ConversationProgramEventPayload :=
  [.goalOpened "billing" "settle the invoice", .goalFocused "billing",
    .capabilityEpochAdvanced 1 2 ["refund"] "refund access", .actionReserved refundReservation,
    .obligationOpened ⟨"callback", "promise", "call back", .agent, .goalCompletion, none, "caller"⟩,
    .actionReceiptRecorded refundReceipt]

def refundLog : ConversationProgramLog := scriptLog Sha256.digest "call-1" refundScript

theorem refundLog_folds :
    ∃ projection, foldConversationProgram Sha256.digest refundLog = .ok projection := by
  have viewed : (scriptState refundScript).map (fun numbered => numbered.1.capabilityEpoch) =
      .ok 2 := by decide +kernel
  obtain ⟨state, sound, -⟩ := script_sound MutableProjection.capabilityEpoch refundScript
    (show IdSchema "call-1" = true by decide) (by decide +kernel) viewed (by decide)
  exact ⟨_, (foldConversationProgram_ok_iff _ _).mpr ⟨state, sound, rfl⟩⟩

/-- The refund is recorded under the frontier that admitted it. -/
theorem refund_recorded_under_frontier : ∃ before reserved between settled,
      refundLog.events = before ++ reserved :: (between ++ [settled]) ∧
        settled.payload = .actionReceiptRecorded refundReceipt ∧
        (∀ event ∈ between, changesAuthority event.payload = false) ∧
        ∃ current, foldConversationProgram Sha256.digest
              (withEvents refundLog (before ++ reserved :: between)) = .ok current ∧
            current.capabilityEpoch = 2 ∧ "refund" ∈ current.capabilities := by
  obtain ⟨projection, folded⟩ := refundLog_folds
  have payloads : refundLog.events.map ConversationProgramEvent.payload =
      refundScript.take 3 ++ .actionReserved refundReservation ::
        ((refundScript.drop 4).take 1 ++ [.actionReceiptRecorded refundReceipt]) := by
    rw [refundLog, scriptLog, scriptEvents_payloads]
    rfl
  obtain ⟨before, rest, split, -, restPayloads⟩ := List.map_eq_append_iff.mp payloads
  obtain ⟨reserved, tail, rfl, reservedPayload, tailPayloads⟩ := List.map_eq_cons_iff.mp restPayloads
  obtain ⟨between, last, rfl, -, lastPayload⟩ := List.map_eq_append_iff.mp tailPayloads
  obtain ⟨settled, rfl, settledPayload⟩ := List.map_eq_singleton_iff.mp lastPayload
  obtain ⟨unchanged, ⟨current, currentFolded, epoch, -, capable⟩, -⟩ :=
    (revocation_is_effective folded).1 before reserved between settled [] refundReservation
      refundReceipt split reservedPayload settledPayload rfl
  exact ⟨before, reserved, between, settled, split, settledPayload, unchanged, current,
    currentFolded, epoch, capable⟩

end CallCenter.ProgramRevocation
