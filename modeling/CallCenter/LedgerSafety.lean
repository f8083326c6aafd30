import CallCenter.LedgerAgreement
import CallCenter.FlowAdmission

/-!
# At-most-once dispatch

Requests of any number of owners are served in the order in which the lock of the call
serialises them; clocks are arbitrary, and any request may be aborted. Whatever the
order, a receipt crosses the dispatch boundary at most once, by the owner its row
names, and no later answer lets anybody execute it again.

A row makes `Progress`: it keeps its identity, a boundary that was crossed and an
outcome that is known. One step lemma gives progress of a row, the run lemma follows.
-/

namespace CallCenter.LedgerSafety

open FlowDefinition Timestamps FlowActions FlowLedger LedgerTransitions LedgerAgreement ListRewrites
  KeyedTables

/-- What a row keeps for good. -/
structure Progress (before after : LedgerRow) : Prop where
  id : after.id = before.id
  dispatch : before.dispatchStartedAt.isSome = true →
    after.dispatchStartedAt = before.dispatchStartedAt
  outcome : before.status = .succeeded ∨ before.status = .failed → after.status = before.status

theorem Progress.refl (row : LedgerRow) : Progress row row := ⟨rfl, fun _ => rfl, fun _ => rfl⟩

theorem Progress.trans {first second third : LedgerRow} (earlier : Progress first second)
    (later : Progress second third) : Progress first third := by
  refine ⟨later.id.trans earlier.id, ?_, ?_⟩
  · intro dispatched
    have kept := earlier.dispatch dispatched
    exact (later.dispatch (by rw [kept]; exact dispatched)).trans kept
  · intro known
    have kept := earlier.outcome known
    exact (later.outcome (by rw [kept]; exact known)).trans kept

/-- Each treatment of a row is progress. -/
theorem rowStep_progress {transaction : Transaction} {clock : ClockReading}
    {before after : LedgerRow} (step : RowStep transaction clock before after) :
    Progress before after := by
  cases step with
  | kept => exact .refl before
  | reclaimed => exact ⟨rfl, fun _ => rfl, fun _ => rfl⟩
  | ownerExpired reserved =>
    refine ⟨rfl, fun _ => rfl, ?_⟩
    rw [reserved]
    simp
  | dispatched asked named owner leased reserved undispatched =>
    refine ⟨rfl, ?_, fun _ => rfl⟩
    rw [undispatched]
    simp
  | settled asked named owner reserved =>
    refine ⟨rfl, fun _ => rfl, ?_⟩
    rw [reserved]
    simp

section Steps

variable {sha256 : String → String} {flow : AgentFlow} {db : Database} {request : Request}

section

variable (mirrored : Mirrored db)
include mirrored

/-- What a served request does to the rows. -/
theorem serve_rows (request : Request) :
    RowsAdvance request.transaction request.clock db.ledger
      (serve sha256 flow db request).ledger := by
  have served : serve sha256 flow db request = db ∨ _ := serve_transition request
  rcases served with kept | ⟨_, _, transition⟩
  · rw [kept]
    exact rowsAdvance_refl _ _ _
  · exact transition_rows mirrored transition

/-- Every row survives a request, treated in one of the five ways. -/
theorem serve_row (request : Request) {row : LedgerRow} (known : row ∈ db.ledger) :
    ∃ after ∈ (serve sha256 flow db request).ledger,
      RowStep request.transaction request.clock row after := by
  have advance : RowsAdvance request.transaction request.clock db.ledger
      (serve sha256 flow db request).ledger := serve_rows mirrored request
  rcases advance with rewritten | ⟨inserted, appended, _⟩
  · exact exists_after rewritten known
  · rw [appended]
    exact ⟨row, List.mem_append_left _ known, .kept⟩

/-- The row with the same identity after a request is that treated row. -/
theorem serve_same_row {row after : LedgerRow} (known : row ∈ db.ledger)
    (present : after ∈ (serve sha256 flow db request).ledger) (same : after.id = row.id) :
    RowStep request.transaction request.clock row after := by
  obtain ⟨treated, member, step⟩ := serve_row mirrored request known
  have equal : treated = after := (serve_mirrored db request mirrored).distinct.same_row member
    present ((rowStep_progress step).id.trans same.symm)
  rw [← equal]
  exact step

/-- Rows make progress over a whole run. -/
theorem run_progress (requests : List Request) :
    Mirrored (Runs.run (serve sha256 flow) db requests) ∧
      ∀ row ∈ db.ledger, ∃ after ∈ (Runs.run (serve sha256 flow) db requests).ledger,
        Progress row after := by
  refine Runs.run_invariant (fun reached => Mirrored reached ∧
    ∀ row ∈ db.ledger, ∃ after ∈ reached.ledger, Progress row after) ?_ ?_ requests
  · exact ⟨mirrored, fun row known => ⟨row, known, .refl row⟩⟩
  · rintro reached request ⟨agrees, progress⟩
    refine ⟨serve_mirrored reached request agrees, ?_⟩
    intro row known
    obtain ⟨middle, present, earlier⟩ := progress row known
    obtain ⟨after, member, step⟩ := serve_row agrees request present
    exact ⟨after, member, earlier.trans (rowStep_progress step)⟩

end

end Steps

/-- The request moves the row with this identity across the dispatch boundary. -/
def Crosses (sha256 : String → String) (flow : AgentFlow) (db : Database) (request : Request)
    (id : String) : Prop :=
  ∃ row ∈ db.ledger, ∃ after ∈ (serve sha256 flow db request).ledger,
    row.id = id ∧ after.id = id ∧ row.dispatchStartedAt = none ∧
      after.dispatchStartedAt.isSome = true

section Crossing

variable {sha256 : String → String} {flow : AgentFlow} {db : Database} {request : Request}
  {id : String}

section

variable (mirrored : Mirrored db)
include mirrored

/-- Only the permit to dispatch crosses, for the owner that the row names. -/
theorem crosses_by_owner (crosses : Crosses sha256 flow db request id) :
    ∃ args row, request.transaction = .markDispatchStarted args ∧
      canonicalUuid args.receiptId = id ∧ rowOf db.ledger args.receiptId = some row ∧
      row.ownerToken = args.ownerToken ∧ row.status = .reserved := by
  obtain ⟨row, known, after, present, rfl, same, undispatched, dispatched⟩ := crosses
  cases serve_same_row mirrored known present same with
  | kept =>
    rw [undispatched] at dispatched
    cases dispatched
  | reclaimed =>
    simp [reclaimedRow, undispatched] at dispatched
  | ownerExpired reserved earlier =>
    rw [undispatched] at earlier
    cases earlier
  | settled =>
    simp [settledRow, undispatched] at dispatched
  | @dispatched args asked named owner leased reserved =>
    refine ⟨args, row, asked, named.symm, ?_, owner, reserved⟩
    unfold rowOf
    rw [← named]
    exact mirrored.distinct.lookupRow_self known

/-- A receipt that crossed is dispatched in every later database. -/
theorem crosses_stays (crosses : Crosses sha256 flow db request id) (later : List Request) :
    ∃ row ∈ (Runs.run (serve sha256 flow) db (request :: later)).ledger,
      row.id = id ∧ row.dispatchStartedAt.isSome = true := by
  obtain ⟨_, _, after, present, _, named, _, dispatched⟩ := crosses
  obtain ⟨_, progress⟩ := run_progress (serve_mirrored db request mirrored) later
  obtain ⟨row, member, reached⟩ := progress after present
  refine ⟨row, member, reached.id.trans named, ?_⟩
  rw [reached.dispatch dispatched]
  exact dispatched

/-- A permit to dispatch is a crossing. -/
theorem permit_crosses {args : DispatchArgs} {next : Database} {update : ReceiptUpdate}
    (asked : request.transaction = .markDispatchStarted args)
    (answered : respond sha256 flow db request = some (next, .update (.ok update))) :
    Crosses sha256 flow db request (canonicalUuid args.receiptId) := by
  have served : serve sha256 flow db request = next := by
    rw [serve, answered]
    rfl
  have transition := respond_transition answered
  have mirroredNext := transition_mirrored mirrored transition
  rw [asked] at transition
  unfold Crosses
  rw [served]
  cases transition with
  | unchanged idle => cases idle
  | @dispatched _ row located held reserved undispatched found =>
    obtain ⟨known, named⟩ := lookupRow_some found
    have agrees := mirrored.agrees_found held found
    have revised : dispatchedReceipt located.current request.clock.instant ∈
        located.overwrite (dispatchedReceipt located.current request.clock.instant) :=
      List.mem_append_right _ List.mem_cons_self
    obtain ⟨after, present, agreesAfter⟩ := exists_after mirroredNext.agree revised
    refine ⟨row, known, after, present, named, ?_, agrees.dispatch.trans undispatched, ?_⟩
    · rw [agreesAfter.id]
      exact congrArg canonicalUuid held.2
    · rw [agreesAfter.dispatch]
      rfl

/-- A reservation to execute is for a receipt that neither copy has dispatched. -/
theorem execution_undispatched {args : FlowActionReservationArgs} {now : Instant}
    {next : Database} {reservation : AtomicActionReservation}
    (asked : request.transaction = .reserve args now)
    (answered : respond sha256 flow db request = some (next, .reservation (.ok reservation)))
    (executes : reservation.execute) :
    reservation.receipt.dispatchStartedAt = none ∧
      ∀ row ∈ db.ledger, row.id = canonicalUuid reservation.receipt.id →
        row.dispatchStartedAt = none := by
  have transition := respond_transition answered
  rw [asked] at transition
  cases transition with
  | unchanged idle =>
    rw [permits, executes] at idle
    cases idle
  | reserved admitted absent =>
    refine ⟨rfl, ?_⟩
    intro row known named
    exact absurd named (lookupRow_none absent row known)
  | reclaimed replayed reserved found expired undispatched =>
    have agrees := mirrored.agrees_of_lookup agrees_keyed replayed.known found
    refine ⟨agrees.dispatch.symm.trans undispatched, ?_⟩
    intro row known named
    obtain ⟨member, foundName⟩ := lookupRow_some found
    rw [mirrored.distinct.same_row known member (named.trans foundName.symm)]
    exact undispatched
  | ownerExpired held reserved found dispatched idle =>
    rw [permits, executes] at idle
    cases idle

end

end Crossing

/-- What no interleaving of the transactions of a call can break. -/
structure LedgerSafe (sha256 : String → String) (flow : AgentFlow) (call : Option CallRow) :
    Prop where
  /-- A receipt that crossed the boundary never crosses it again. -/
  once : ∀ early first middle second id,
    Crosses sha256 flow (serveAll sha256 flow call early) first id →
    ¬ Crosses sha256 flow (serveAll sha256 flow call (early ++ first :: middle)) second id
  /-- Only the owner that the row names can cross it. -/
  byOwner : ∀ requests request id,
    Crosses sha256 flow (serveAll sha256 flow call requests) request id →
    ∃ args row, request.transaction = .markDispatchStarted args ∧
      canonicalUuid args.receiptId = id ∧
      rowOf (serveAll sha256 flow call requests).ledger args.receiptId = some row ∧
      row.ownerToken = args.ownerToken
  /-- Every permit to dispatch is a crossing, so there is at most one for a receipt. -/
  permit : ∀ requests request args next update, request.transaction = .markDispatchStarted args →
    respond sha256 flow (serveAll sha256 flow call requests) request =
      some (next, .update (.ok update)) →
    Crosses sha256 flow (serveAll sha256 flow call requests) request (canonicalUuid args.receiptId)
  /-- A receipt that crossed it is never handed out for execution. -/
  withheld : ∀ early first middle second id args now next reservation,
    Crosses sha256 flow (serveAll sha256 flow call early) first id →
    second.transaction = .reserve args now →
    respond sha256 flow (serveAll sha256 flow call (early ++ first :: middle)) second =
      some (next, .reservation (.ok reservation)) →
    canonicalUuid reservation.receipt.id = id → reservation.execute = false
  /-- Both copies of every receipt have the same status and the same boundary. -/
  agreement : ∀ requests, List.Forall₂ (fun receipt row => row.id = canonicalUuid receipt.id ∧
        row.status = receipt.status ∧ row.dispatchStartedAt = receipt.dispatchStartedAt)
      (serveAll sha256 flow call requests).state.actionReceipts
      (serveAll sha256 flow call requests).ledger ∧
    ((serveAll sha256 flow call requests).ledger.map LedgerRow.id).Nodup
  /-- A known outcome is final. -/
  final : ∀ early later, ∀ row ∈ (serveAll sha256 flow call early).ledger,
    row.status = .succeeded ∨ row.status = .failed →
    ∃ after ∈ (serveAll sha256 flow call (early ++ later)).ledger,
      after.id = row.id ∧ after.status = row.status
  /-- A dispatched receipt fails only by a settlement that reports its rejection. -/
  rejected : ∀ requests request, ∀ row ∈ (serveAll sha256 flow call requests).ledger,
    ∀ after ∈ (serveAll sha256 flow call (requests ++ [request])).ledger, after.id = row.id →
    row.dispatchStartedAt.isSome = true → row.status ≠ .failed → after.status = .failed →
    ∃ args now, request.transaction = .settle args now ∧
      canonicalUuid args.receiptId = row.id ∧ args.status = .failed ∧
      args.deliveryState = some .rejected

/-- A dispatched row that fails was settled as rejected. -/
theorem rowStep_rejected {transaction : Transaction} {clock : ClockReading}
    {row after : LedgerRow} (step : RowStep transaction clock row after)
    (dispatched : row.dispatchStartedAt.isSome) (live : row.status ≠ .failed)
    (failed : after.status = .failed) :
    ∃ args now, transaction = .settle args now ∧ canonicalUuid args.receiptId = row.id ∧
      args.status = .failed ∧ args.deliveryState = some .rejected := by
  cases step with
  | kept | reclaimed => exact absurd failed live
  | ownerExpired => cases failed
  | dispatched => exact absurd failed live
  | @settled args now receipt asked named owner reserved delivery outcome =>
    have asFailed : args.status = .failed := by
      have recorded : args.status.status = .failed := outcome.symm.trans failed
      cases settlement : args.status with
      | failed => rfl
      | succeeded | indeterminate =>
        rw [settlement] at recorded
        cases recorded
    refine ⟨args, now, asked, named.symm, asFailed, ?_⟩
    by_contra other
    rw [deliveryConflict, dispatched, if_pos ⟨asFailed, rfl, other⟩] at delivery
    cases delivery

/-- The ledger of a call is safe under every interleaving of its transactions. -/
theorem ledger_safe (sha256 : String → String) (flow : AgentFlow) (call : Option CallRow) :
    LedgerSafe sha256 flow call := by
  have mirrored (requests : List Request) : Mirrored (serveAll sha256 flow call requests) :=
    Runs.run_invariant Mirrored (newCall_mirrored call) serve_mirrored requests
  have dispatchedLater (early middle : List Request) (first : Request) (id : String)
      (crosses : Crosses sha256 flow (serveAll sha256 flow call early) first id) :
      ∃ row ∈ (serveAll sha256 flow call (early ++ first :: middle)).ledger,
        row.id = id ∧ row.dispatchStartedAt.isSome = true := by
    rw [serveAll, Runs.run_append]
    exact crosses_stays (mirrored early) crosses middle
  constructor
  case once =>
    rintro early first middle second id crossed ⟨row, known, _, _, named, _, undispatched, _⟩
    obtain ⟨other, member, otherName, dispatched⟩ := dispatchedLater early middle first id crossed
    have same : other = row := (mirrored _).distinct.same_row member known
      (otherName.trans named.symm)
    rw [same, undispatched] at dispatched
    cases dispatched
  case byOwner =>
    intro requests request id crosses
    obtain ⟨args, row, asked, named, found, owner, _⟩ :=
      crosses_by_owner (mirrored requests) crosses
    exact ⟨args, row, asked, named, found, owner⟩
  case permit =>
    intro requests request args next update asked answered
    exact permit_crosses (mirrored requests) asked answered
  case withheld =>
    intro early first middle second id args now next reservation crossed asked answered named
    obtain ⟨row, member, rowName, dispatched⟩ := dispatchedLater early middle first id crossed
    by_contra executes
    have undispatched := (execution_undispatched (mirrored _) asked answered
      (by simpa using executes)).2 row member (rowName.trans named.symm)
    rw [undispatched] at dispatched
    cases dispatched
  case agreement =>
    intro requests
    refine ⟨(mirrored requests).agree.imp ?_, (mirrored requests).distinct⟩
    intro receipt row agrees
    exact ⟨agrees.id, agrees.status, agrees.dispatch⟩
  case final =>
    intro early later row known settled
    obtain ⟨after, member, progress⟩ := (run_progress (mirrored early) later).2 row known
    refine ⟨after, ?_, progress.id, progress.outcome settled⟩
    rw [serveAll, Runs.run_append]
    exact member
  case rejected =>
    intro requests request row known after present same dispatched live failed
    rw [serveAll_snoc] at present
    exact rowStep_rejected (serve_same_row (mirrored requests) known present same) dispatched live
      failed

/-- A live call, bound to the runtime with the digest of the empty object. -/
def liveCall : Option CallRow :=
  some ⟨true, some "44136fa355b3678a1146ad16f7e8649e94fb4fc21fe77e8310c060f61caaff8a"⟩

def endCallReceipt : String := "22222222-2222-4222-8222-222222222222"

/-- An owner reserves the end of a call. -/
def endCallReserved : Request where
  transaction := .reserve
    { receiptId := endCallReceipt, invocationId := "q1w2e3r4t5y6u7i8o9p0a1s2", tool := "end_call",
      arguments := [], capabilityEpoch := 0, providerInvocationId := none,
      ownerToken := "11111111-1111-4111-8111-111111111111",
      runtimeDigest := "44136fa355b3678a1146ad16f7e8649e94fb4fc21fe77e8310c060f61caaff8a" } epoch
  clock := ⟨0, epoch⟩
  aborted := false

/-- The owner dispatches it. -/
def endCallDispatched : Request where
  transaction := .markDispatchStarted
    { receiptId := endCallReceipt, ownerToken := "11111111-1111-4111-8111-111111111111",
      runtimeDigest := "44136fa355b3678a1146ad16f7e8649e94fb4fc21fe77e8310c060f61caaff8a" }
  clock := ⟨0, epoch⟩
  aborted := false

/-- A ledger with one row holds that row. -/
theorem row_of_listing {ledger : List LedgerRow} {id : String} {dispatched : Bool}
    (listing : ledger.map (fun row => (row.id, row.dispatchStartedAt.isSome)) =
      [(id, dispatched)]) :
    ∃ row ∈ ledger, row.id = id ∧ row.dispatchStartedAt.isSome = dispatched := by
  have listed : (id, dispatched) ∈ ledger.map fun row => (row.id, row.dispatchStartedAt.isSome) := by
    rw [listing]
    exact List.mem_singleton_self _
  obtain ⟨row, member, same⟩ := List.mem_map.mp listed
  cases same
  exact ⟨row, member, rfl, rfl⟩

/-- The end of a call crosses the boundary, and its owner cannot cross it twice. -/
theorem end_call_dispatched_once : Crosses FlowAdmission.endCallDigest FlowValidation.orderFlow
      (serveAll FlowAdmission.endCallDigest FlowValidation.orderFlow liveCall [endCallReserved])
      endCallDispatched endCallReceipt ∧
    ¬ Crosses FlowAdmission.endCallDigest FlowValidation.orderFlow
      (serveAll FlowAdmission.endCallDigest FlowValidation.orderFlow liveCall
        [endCallReserved, endCallDispatched])
      endCallDispatched endCallReceipt := by
  have crosses : Crosses FlowAdmission.endCallDigest FlowValidation.orderFlow
      (serveAll FlowAdmission.endCallDigest FlowValidation.orderFlow liveCall [endCallReserved])
      endCallDispatched endCallReceipt := by
    have before : (serveAll FlowAdmission.endCallDigest FlowValidation.orderFlow liveCall
        [endCallReserved]).ledger.map (fun row => (row.id, row.dispatchStartedAt.isSome)) =
        [(endCallReceipt, false)] := by decide +kernel
    have later : (serveAll FlowAdmission.endCallDigest FlowValidation.orderFlow liveCall
        [endCallReserved, endCallDispatched]).ledger.map
          (fun row => (row.id, row.dispatchStartedAt.isSome)) =
        [(endCallReceipt, true)] := by decide +kernel
    obtain ⟨row, known, named, undispatched⟩ := row_of_listing before
    obtain ⟨after, present, sameName, dispatched⟩ := row_of_listing later
    have present : after ∈ (serve FlowAdmission.endCallDigest FlowValidation.orderFlow
        (serveAll FlowAdmission.endCallDigest FlowValidation.orderFlow liveCall [endCallReserved])
        endCallDispatched).ledger := by
      rw [← serveAll_snoc]
      exact present
    exact ⟨row, known, after, present, named, sameName, by simpa using undispatched, dispatched⟩
  exact ⟨crosses, (ledger_safe FlowAdmission.endCallDigest FlowValidation.orderFlow liveCall).once
    [endCallReserved] endCallDispatched [] endCallDispatched endCallReceipt crosses⟩

end CallCenter.LedgerSafety
