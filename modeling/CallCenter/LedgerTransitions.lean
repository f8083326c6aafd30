import CallCenter.FlowLedger
import CallCenter.FlowTransitions

/-!
# What a transaction can do

Every committed transaction is one of nine ledger transitions: nothing is stored, or
one of eight changes is made to the state, the ledger and the call under its guards.
As for the pure operations, later proofs go by cases on `LedgerTransition` and never
open a transaction again.

`permits` marks the answers that allow an owner to go on: the right to execute a
reservation, and the one-shot permit to dispatch it.
-/

namespace CallCenter.LedgerTransitions

open FlowDefinition Timestamps FlowState FlowActions FlowRuntime FlowTransitions FlowLedger
  ListRewrites

/-- The answer lets the requester execute, or dispatch. -/
def permits : Transaction → Answer → Bool
  | .reserve _ _, .reservation (.ok reservation) => reservation.execute
  | .markDispatchStarted _, .update (.ok _) => true
  | _, _ => false

/-- The settlement that records an expired owner. -/
def expirySettlement (receiptId : String) : SettleArgs where
  receiptId
  status := .indeterminate
  result := .undefined
  error := some EXPIRED_OWNER_ERROR

/-- One committed transaction: what it stored, under which guards, and what it answered. -/
inductive LedgerTransition (sha256 : String → String) (flow : AgentFlow) (db : Database)
    (clock : ClockReading) : Transaction → Database → Answer → Prop
  | unchanged {transaction : Transaction} {answer : Answer}
      (idle : permits transaction answer = false) :
      LedgerTransition sha256 flow db clock transaction db answer
  | callChanged {call : Option CallRow} :
      LedgerTransition sha256 flow db clock (.changeCall call) { db with call } .done
  | navigated {navigation : Navigation} {now : Instant} {next : FlowExecutionState}
      (moved : Transition sha256 flow db.state ⟨navigation.operation, now⟩ next) :
      LedgerTransition sha256 flow db clock (.navigate navigation now) { db with state := next }
        .done
  | reserved {args : FlowActionReservationArgs} {now : Instant} {key hash : String} {bytes : Nat}
      (admitted : ReservationAdmitted sha256 flow db.state args.toReserveArgs key hash bytes now)
      (absent : rowOf db.ledger args.receiptId = none) :
      LedgerTransition sha256 flow db clock (.reserve args now) { db with
          state := reservedState db.state
            (newReceipt db.state args.toReserveArgs key hash bytes now) now
          ledger := db.ledger ++ [insertedRow db.state
            (newReceipt db.state args.toReserveArgs key hash bytes now) args.arguments args clock] }
        (.reservation (.ok
          { state := reservedState db.state
              (newReceipt db.state args.toReserveArgs key hash bytes now) now
            receipt := newReceipt db.state args.toReserveArgs key hash bytes now
            execute := true
            replayed := false
            ownerToken := some args.ownerToken }))
  | reclaimed {args : FlowActionReservationArgs} {now : Instant}
      {reservation : FlowActionReservation} {hash : String} {row : LedgerRow}
      (replayed : ReservationReplayed sha256 flow db.state args.toReserveArgs reservation hash)
      (reserved : reservation.receipt.status = .reserved)
      (found : rowOf db.ledger reservation.receipt.id = some row)
      (expired : row.leaseExpired clock = true)
      (undispatched : row.dispatchStartedAt = none) :
      LedgerTransition sha256 flow db clock (.reserve args now) { db with
          ledger := updateRows db.ledger reservation.receipt.id (mayReclaim clock)
            (reclaimedRow args.ownerToken clock) }
        (.reservation (.ok { reservation with
            execute := true, replayed := false, ownerToken := some args.ownerToken }))
  | ownerExpired {args : FlowActionReservationArgs} {now : Instant} {receiptId : String}
      {row : LedgerRow} {located : Located FlowActionReceipt} {evidence : Option (String × Nat)}
      {answer : Answer}
      (held : Holds db.state receiptId located)
      (reserved : located.current.status = .reserved)
      (found : rowOf db.ledger receiptId = some row)
      (dispatched : row.dispatchStartedAt.isSome = true)
      (idle : permits (.reserve args now) answer = false) :
      LedgerTransition sha256 flow db clock (.reserve args now) { db with
          state := revisedState db.state located
            (settledReceipt located.current (expirySettlement receiptId) evidence clock.instant)
            clock.instant
          ledger := updateRows db.ledger receiptId (fun row => row.status = .reserved)
            (expiredRow (some clock.instant)) }
        answer
  | dispatched {args : DispatchArgs} {row : LedgerRow} {located : Located FlowActionReceipt}
      (held : Holds db.state args.receiptId located)
      (reserved : located.current.status = .reserved)
      (undispatched : located.current.dispatchStartedAt = none)
      (found : rowOf db.ledger args.receiptId = some row)
      (owner : row.ownerToken = args.ownerToken)
      (leased : row.leaseExpired clock = false)
      (updated : (db.ledger.filter fun row => decide (row.id = canonicalUuid args.receiptId)
        && mayDispatch args.ownerToken row).length = 1) :
      LedgerTransition sha256 flow db clock (.markDispatchStarted args) { db with
          state := revisedState db.state located (dispatchedReceipt located.current clock.instant)
            clock.instant
          ledger := updateRows db.ledger args.receiptId (mayDispatch args.ownerToken)
            (dispatchedRow (some clock.instant) clock) }
        (.update (.ok
          { state := revisedState db.state located
              (dispatchedReceipt located.current clock.instant) clock.instant
            receipt := dispatchedReceipt located.current clock.instant }))
  | settled {args : AtomicSettleArgs} {now : Instant} {row : LedgerRow}
      {located : Located FlowActionReceipt} {evidence : Option (String × Nat)} {answer : Answer}
      (held : Holds db.state args.receiptId located)
      (reserved : located.current.status = .reserved)
      (found : rowOf db.ledger args.receiptId = some row)
      (owner : row.ownerToken = args.ownerToken)
      (delivery : deliveryConflict args row.dispatchStartedAt.isSome = none) :
      LedgerTransition sha256 flow db clock (.settle args now) { db with
          state := revisedState db.state located
            (settledReceipt located.current args.toSettleArgs evidence now) now
          ledger := updateRows db.ledger args.receiptId
            (fun row => row.ownerToken = canonicalUuid args.ownerToken)
            (settledRow args (settledReceipt located.current args.toSettleArgs evidence now)) }
        answer
  | recovered {ids : List String}
      (stale : ids = (db.ledger.filter (isStaleRow clock)).map LedgerRow.id)
      (embedded : ∀ id ∈ ids, recoverable db.state id = true) :
      LedgerTransition sha256 flow db clock .recoverStale { db with
          state := markStaleDispatchedActionsIndeterminate db.state ids clock.instant
          ledger := db.ledger.map fun row =>
            if ids.contains row.id && decide (row.status = .reserved) then
              expiredRow (some clock.instant) row
            else row }
        .done

section Inversion

variable {sha256 : String → String} {flow : AgentFlow} {db next : Database}
  {clock : ClockReading}

/-- A locked mutation that committed, with the database it left. -/
inductive Stored {α : Type} (db : Database) (outcome : LockedFlowMutation α) : Database → Prop
  | ledgerOnly (kept : outcome.state = none) :
      Stored db outcome { db with ledger := outcome.ledger }
  | advanced {state : FlowExecutionState} (changed : outcome.state = some state)
      (revision : state.revision = db.state.revision + 1) :
      Stored db outcome { db with state, ledger := outcome.ledger }

theorem withLockedFlowState_stored {α : Type} {value : α}
    {mutate : Except String (LockedFlowMutation α)}
    (locked : withLockedFlowState sha256 db mutate = .ok (next, value)) :
    ∃ outcome, mutate = .ok outcome ∧ outcome.value = value ∧ Stored db outcome next := by
  unfold withLockedFlowState at locked
  split at locked
  · cases locked
  split at locked
  · cases locked
  rename_i outcome
  refine ⟨outcome, rfl, ?_⟩
  split at locked
  · rename_i kept
    cases locked
    exact ⟨rfl, .ledgerOnly kept⟩
  rename_i state changed
  split at locked
  · cases locked
  split at locked
  · cases locked
  rename_i revision
  cases locked
  exact ⟨rfl, .advanced changed (by simpa using revision)⟩

/-- An answer that stores nothing leaves the database as it was. -/
theorem answer_stored {α : Type} {value : α} {outcome : LockedFlowMutation α}
    (answered : answer db value = .ok outcome) (stored : Stored db outcome next) :
    next = db ∧ outcome = ⟨none, db.ledger, value⟩ := by
  cases answered
  cases stored with
  | ledgerOnly => exact ⟨rfl, rfl⟩
  | advanced changed => cases changed

/-- A mutation that returns a state stores it. -/
theorem state_stored {α : Type} {state : FlowExecutionState} {ledger : List LedgerRow} {value : α}
    (stored : Stored db ⟨some state, ledger, value⟩ next) : next = { db with state, ledger } := by
  cases stored with
  | ledgerOnly kept => cases kept
  | advanced changed =>
    cases changed
    rfl

variable {now : Instant} {args : FlowActionReservationArgs}

variable {reservation : AtomicActionReservation}

/-- Reading a compacted result back grants nothing. -/
theorem rehydrateCompactedReplay_execute {ledger : List LedgerRow}
    (idle : reservation.execute = false) :
    permits (.reserve args now)
      (.reservation (rehydrateCompactedReplay sha256 ledger reservation)) = false := by
  unfold rehydrateCompactedReplay
  split
  · split
    · rfl
    · exact idle
  · exact idle

/-- A reservation to execute is handed out as it is. -/
theorem rehydrateCompactedReplay_of_execute {ledger : List LedgerRow}
    (executes : reservation.execute) :
    rehydrateCompactedReplay sha256 ledger reservation = .ok reservation := by
  unfold rehydrateCompactedReplay
  rw [if_neg]
  rintro ⟨idle, _⟩
  rw [executes] at idle
  cases idle

variable {outcome : LockedFlowMutation (Except RuntimeError AtomicActionReservation)}

/-- A request that met a reserved receipt waits, records an expired owner past the
boundary, or takes over before it. -/
theorem reserveExisting_transition {reservation : FlowActionReservation} {hash : String}
    (replayed : ReservationReplayed sha256 flow db.state args.toReserveArgs reservation hash)
    (reserved : reservation.receipt.status = .reserved)
    (mutated : reserveExisting sha256 db args reservation clock = .ok outcome)
    (stored : Stored db outcome next) :
    LedgerTransition sha256 flow db clock (.reserve args now) next
      (.reservation (outcome.value.bind (rehydrateCompactedReplay sha256 next.ledger))) := by
  unfold reserveExisting at mutated
  split at mutated
  · obtain ⟨rfl, rfl⟩ := answer_stored mutated stored
    exact .unchanged rfl
  rename_i row found
  split at mutated
  · obtain ⟨rfl, rfl⟩ := answer_stored mutated stored
    exact .unchanged (rehydrateCompactedReplay_execute replayed.unexecuted)
  rename_i expired
  have expired : row.leaseExpired clock := by simpa using expired
  split at mutated
  · rename_i dispatched
    split at mutated
    · cases mutated
    · obtain ⟨rfl, rfl⟩ := answer_stored mutated stored
      exact .unchanged rfl
    rename_i settled outcomeOfSettle
    cases mutated
    cases stored with
    | ledgerOnly kept => cases kept
    | advanced changed revision =>
      cases changed
      rcases settleFlowAction_cases outcomeOfSettle with
        kept | ⟨located, evidence, held, _, isReserved, _, _, rfl⟩
      · -- A replayed settlement would not advance the revision.
        rw [kept] at revision
        omega
      · exact .ownerExpired held isReserved found dispatched (rehydrateCompactedReplay_execute rfl)
  rename_i undispatched
  split at mutated
  · obtain ⟨rfl, rfl⟩ := answer_stored mutated stored
    exact .unchanged (rehydrateCompactedReplay_execute replayed.unexecuted)
  cases mutated
  cases stored with
  | advanced changed => cases changed
  | ledgerOnly =>
    rw [Except.bind, rehydrateCompactedReplay_of_execute rfl]
    exact .reclaimed replayed reserved found expired (by simpa using undispatched)

/-- A reservation replays, records or takes over a receipt, or reserves a fresh one. -/
theorem reserveFlowActionLocked_transition
    (mutated : reserveFlowActionLocked sha256 flow db args clock now = .ok outcome)
    (stored : Stored db outcome next) :
    LedgerTransition sha256 flow db clock (.reserve args now) next
      (.reservation (outcome.value.bind (rehydrateCompactedReplay sha256 next.ledger))) := by
  unfold reserveFlowActionLocked at mutated
  split at mutated
  · cases mutated
  · obtain ⟨rfl, rfl⟩ := answer_stored mutated stored
    exact .unchanged rfl
  rename_i reservation reserves
  rcases reserveFlowAction_cases reserves with
    ⟨hash, replayed⟩ | ⟨key, hash, bytes, admitted, rfl⟩
  · have unexecuted := replayed.unexecuted
    split at mutated
    · rename_i waiting
      exact reserveExisting_transition replayed waiting.2 mutated stored
    · obtain ⟨rfl, rfl⟩ := answer_stored mutated stored
      exact .unchanged (rehydrateCompactedReplay_execute unexecuted)
  · rw [if_neg (by simp), if_neg (by simp)] at mutated
    have own : (newReceipt db.state args.toReserveArgs key hash bytes now).arguments =
        some args.arguments := rfl
    have named : (newReceipt db.state args.toReserveArgs key hash bytes now).id =
        args.receiptId := rfl
    dsimp only at mutated
    rw [own, named] at mutated
    dsimp only at mutated
    by_cases taken : (rowOf db.ledger args.receiptId).isSome = true
    · rw [if_pos taken] at mutated
      cases mutated
    · rw [if_neg taken] at mutated
      cases mutated
      obtain rfl := state_stored stored
      rw [Except.bind, rehydrateCompactedReplay_of_execute rfl]
      exact .reserved admitted (by simpa using taken)

theorem reserveFlowActionAtomic_transition {value : Except RuntimeError AtomicActionReservation}
    (committed : reserveFlowActionAtomic sha256 flow db args clock now = .ok (next, value)) :
    LedgerTransition sha256 flow db clock (.reserve args now) next (.reservation value) := by
  unfold reserveFlowActionAtomic at committed
  split at committed
  · cases committed
    exact .unchanged rfl
  obtain ⟨⟨reached, lockedValue⟩, locked, same⟩ := map_ok_iff.mp committed
  cases same
  obtain ⟨outcome, mutated, rfl, stored⟩ := withLockedFlowState_stored locked
  split at mutated
  · obtain ⟨rfl, rfl⟩ := answer_stored mutated stored
    exact .unchanged rfl
  · exact reserveFlowActionLocked_transition mutated stored

theorem markDispatchStartedLocked_transition {args : DispatchArgs}
    {outcome : LockedFlowMutation (Except RuntimeError ReceiptUpdate)}
    (mutated : markDispatchStartedLocked db args clock = .ok outcome)
    (stored : Stored db outcome next) :
    LedgerTransition sha256 flow db clock (.markDispatchStarted args) next
      (.update outcome.value) := by
  unfold markDispatchStartedLocked at mutated
  have refused {reason : RuntimeError} (answered : answer db (.error reason) = .ok outcome) :
      LedgerTransition sha256 flow db clock (.markDispatchStarted args) next
        (.update outcome.value) := by
    obtain ⟨rfl, rfl⟩ := answer_stored answered stored
    exact .unchanged rfl
  split at mutated
  · exact refused mutated
  rename_i row found
  split at mutated
  · exact refused mutated
  rename_i owner
  split at mutated
  · exact refused mutated
  split at mutated
  · exact refused mutated
  rename_i leased
  split at mutated
  · cases mutated
  · exact refused mutated
  rename_i update marked
  split at mutated
  · cases mutated
  rename_i updated
  cases mutated
  obtain ⟨located, held, reserved, undispatched, rfl⟩ :=
    markFlowActionDispatchStarted_cases marked
  obtain rfl := state_stored stored
  exact .dispatched held reserved undispatched found (by simpa using owner)
    (by simpa using leased) (by simpa using updated)

variable {value : Except RuntimeError ReceiptUpdate}

theorem markFlowActionDispatchStartedAtomic_transition {args : DispatchArgs}
    (committed : markFlowActionDispatchStartedAtomic sha256 db args clock = .ok (next, value)) :
    LedgerTransition sha256 flow db clock (.markDispatchStarted args) next (.update value) := by
  unfold markFlowActionDispatchStartedAtomic at committed
  split at committed
  · cases committed
    exact .unchanged rfl
  obtain ⟨outcome, mutated, rfl, stored⟩ := withLockedFlowState_stored committed
  split at mutated
  · obtain ⟨rfl, rfl⟩ := answer_stored mutated stored
    exact .unchanged rfl
  · exact markDispatchStartedLocked_transition mutated stored

/-- A settlement of a settled row only answers; a settlement of a reserved one revises
both copies. -/
theorem settleFlowActionAtomic_transition {args : AtomicSettleArgs}
    (committed : settleFlowActionAtomic sha256 db args now = .ok (next, value)) :
    LedgerTransition sha256 flow db clock (.settle args now) next (.update value) := by
  obtain ⟨outcome, mutated, rfl, stored⟩ := withLockedFlowState_stored committed
  have answered {reply : Except RuntimeError ReceiptUpdate}
      (replied : answer db reply = .ok outcome) :
      LedgerTransition sha256 flow db clock (.settle args now) next (.update outcome.value) := by
    obtain ⟨rfl, _⟩ := answer_stored replied stored
    exact .unchanged rfl
  unfold settleFlowActionLocked at mutated
  split at mutated
  · exact answered mutated
  rename_i row found
  split at mutated
  · exact answered mutated
  rename_i owner
  split at mutated
  · split at mutated
    · cases mutated
    · exact answered mutated
    · exact answered mutated
  split at mutated
  · exact answered mutated
  rename_i delivery
  split at mutated
  · cases mutated
  · exact answered mutated
  rename_i update settles
  split at mutated
  · exact answered mutated
  rename_i advanced
  cases mutated
  rcases settleFlowAction_cases settles with
    kept | ⟨located, evidence, held, _, reserved, _, _, rfl⟩
  · rw [kept] at advanced
    exact absurd rfl advanced
  obtain rfl := state_stored stored
  exact .settled held reserved found (by simpa using owner) delivery

theorem recoverStaleFlowActionsAtomic_transition {value : Unit}
    (committed : recoverStaleFlowActionsAtomic sha256 db clock = .ok (next, value)) :
    LedgerTransition sha256 flow db clock .recoverStale next .done := by
  obtain ⟨outcome, mutated, rfl, stored⟩ := withLockedFlowState_stored committed
  unfold recoverStaleLocked at mutated
  dsimp only at mutated
  split at mutated
  · obtain ⟨rfl, _⟩ := answer_stored mutated stored
    exact .unchanged rfl
  split at mutated
  · cases mutated
  rename_i embedded
  cases mutated
  obtain rfl := state_stored stored
  refine .recovered rfl ?_
  intro id member
  by_contra missing
  exact embedded (List.any_eq_true.mpr ⟨id, member, by simpa using missing⟩)

theorem navigate_transition {navigation : Navigation} {value : Unit}
    (committed : withLockedFlowState sha256 db (navigateLocked sha256 flow db navigation now) =
      .ok (next, value)) :
    LedgerTransition sha256 flow db clock (.navigate navigation now) next .done := by
  obtain ⟨outcome, mutated, rfl, stored⟩ := withLockedFlowState_stored committed
  unfold navigateLocked at mutated
  split at mutated
  · cases mutated
  · obtain ⟨rfl, _⟩ := answer_stored mutated stored
    exact .unchanged rfl
  rename_i moved applied
  split at mutated
  · obtain ⟨rfl, _⟩ := answer_stored mutated stored
    exact .unchanged rfl
  cases mutated
  obtain rfl := state_stored stored
  have stepped : Transition sha256 flow db.state ⟨navigation.operation, now⟩
      (step sha256 flow db.state ⟨navigation.operation, now⟩) := step_transition _
  rw [step, applied] at stepped
  exact .navigated stepped

/-- Every committed transaction is one of the transitions. -/
theorem transact_transition {transaction : Transaction} {answer : Answer}
    (committed : transact sha256 flow db transaction clock = .ok (next, answer)) :
    LedgerTransition sha256 flow db clock transaction next answer := by
  unfold transact at committed
  cases transaction with
  | reserve =>
    obtain ⟨⟨reached, value⟩, reserved, same⟩ := map_ok_iff.mp committed
    cases same
    exact reserveFlowActionAtomic_transition reserved
  | markDispatchStarted =>
    obtain ⟨⟨reached, value⟩, marked, same⟩ := map_ok_iff.mp committed
    cases same
    exact markFlowActionDispatchStartedAtomic_transition marked
  | settle =>
    obtain ⟨⟨reached, value⟩, settled, same⟩ := map_ok_iff.mp committed
    cases same
    exact settleFlowActionAtomic_transition settled
  | recoverStale =>
    obtain ⟨⟨reached, value⟩, recovered, same⟩ := map_ok_iff.mp committed
    cases same
    exact recoverStaleFlowActionsAtomic_transition recovered
  | navigate =>
    obtain ⟨⟨reached, value⟩, navigated, same⟩ := map_ok_iff.mp committed
    cases same
    exact navigate_transition navigated
  | changeCall =>
    cases committed
    exact .callChanged

/-- An answered request committed one transition. -/
theorem respond_transition {request : Request} {answer : Answer}
    (answered : respond sha256 flow db request = some (next, answer)) :
    LedgerTransition sha256 flow db request.clock request.transaction next answer := by
  unfold respond at answered
  split at answered
  · cases answered
  · cases committed : transact sha256 flow db request.transaction request.clock with
    | error =>
      rw [committed] at answered
      cases answered
    | ok =>
      rw [committed] at answered
      cases answered
      exact transact_transition committed

/-- A served request leaves the database alone or commits one transition. -/
theorem serve_transition (request : Request) : serve sha256 flow db request = db ∨
    ∃ answer, respond sha256 flow db request = some (serve sha256 flow db request, answer) ∧
      LedgerTransition sha256 flow db request.clock request.transaction
        (serve sha256 flow db request) answer := by
  cases responded : respond sha256 flow db request with
  | none =>
    left
    rw [serve, responded]
    rfl
  | some outcome =>
    right
    obtain ⟨reached, answer⟩ := outcome
    have served : serve sha256 flow db request = reached := by
      rw [serve, responded]
      rfl
    refine ⟨answer, by rw [served], ?_⟩
    rw [served]
    exact respond_transition responded

end Inversion

end CallCenter.LedgerTransitions
