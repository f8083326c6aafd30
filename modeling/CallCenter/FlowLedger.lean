import CallCenter.FlowRuntime
import CallCenter.FlowStateSchema
import CallCenter.KeyedTables

/-!
# The action ledger

The store keeps every receipt twice: embedded in the execution state, and as a row of
`flow_action_receipts` with its owner and lease. The transactions of
`flow-state-store.ts` change both under one lock of the call's row, so they are
functions from a database to a database; a transaction that throws is rolled back.

A `Database` holds what the transactions of one call read and write. Clock readings
are arguments and not tied to each other, so time may pass, or not, between any two
transactions. Constraints of the tables can only abort a transaction and are
represented by `Request.aborted`, except for the primary key of the ledger.
-/

namespace CallCenter.FlowLedger

open JsonValues FlowDefinition FlowValidation Timestamps FlowState FlowActions FlowRuntime
  FlowStateSchema KeyedTables

def DISPATCH_OWNER_LEASE_MS : Nat := 60000

/-- What is known about the delivery of an action. -/
inductive DeliveryState where
  | notSent
  | accepted
  | rejected
  | committed
  | unknown
deriving DecidableEq

/-- A reading of the database clock: its value in milliseconds and its text. -/
structure ClockReading where
  millis : Nat
  instant : Instant

/-- A row of `flow_action_receipts`. -/
structure LedgerRow where
  id : String
  runtimeDigest : String
  capabilityEpoch : Nat
  stepPath : String
  stepAttempt : Nat
  tool : String
  invocationId : Option String
  providerInvocationId : Option String
  arguments : List (String × Value)
  argumentsHash : String
  idempotencyKey : String
  status : ReceiptStatus
  ownerToken : String
  dispatchLeaseExpiresAt : Nat
  ownerHeartbeatAt : Nat
  dispatchStartedAt : Option Instant
  dispatchAttempt : Nat
  deliveryState : DeliveryState
  result : Option Value
  resultHash : Option String
  error : Option String
  reservedAt : Instant
  settledAt : Option Instant

/-- The authority of the call in `calls`. -/
structure CallRow where
  active : Bool
  runtimeDigest : Option String

/-- The rows of one call. -/
structure Database where
  call : Option CallRow
  state : FlowExecutionState
  ledger : List LedgerRow

/-- Lower-case form of a hexadecimal digit. -/
def lowerHex (c : Char) : Char :=
  if 65 ≤ c.toNat ∧ c.toNat ≤ 70 then Char.ofNat (c.toNat + 32) else c

/-- The form in which the database stores and compares a UUID. -/
def canonicalUuid (text : String) : String := String.ofList (text.toList.map lowerHex)

/-- A hexadecimal digit in either case. -/
def isHexChar (c : Char) : Bool :=
  isNumeral c || decide (97 ≤ c.toNat ∧ c.toNat ≤ 102) || decide (65 ≤ c.toNat ∧ c.toNat ≤ 70)

/-- Characters of a UUID from the given position: groups of digits, the version digit
and the variant digit. -/
def uuidCharAt (position : Nat) (c : Char) : Bool :=
  if position = 8 ∨ position = 13 ∨ position = 18 ∨ position = 23 then decide (c = '-')
  else if position = 14 then decide (49 ≤ c.toNat ∧ c.toNat ≤ 56)
  else if position = 19 then decide (lowerHex c ∈ ['8', '9', 'a', 'b'])
  else isHexChar c

/-- `UUID`. -/
def isUuid (text : String) : Bool :=
  decide (text.toList.length = 36) && text.toList.zipIdx.all fun entry => uuidCharAt entry.2 entry.1

/-- The row of a receipt. -/
def rowOf (ledger : List LedgerRow) (receiptId : String) : Option LedgerRow :=
  lookupRow LedgerRow.id ledger (canonicalUuid receiptId)

/-- The lease of a row has run out. -/
def LedgerRow.leaseExpired (row : LedgerRow) (clock : ClockReading) : Bool :=
  decide (row.dispatchLeaseExpiresAt ≤ clock.millis)

/-- Update the rows of a receipt that pass a test. -/
def updateRows (ledger : List LedgerRow) (receiptId : String) (test : LedgerRow → Bool)
    (change : LedgerRow → LedgerRow) : List LedgerRow :=
  updateWhere LedgerRow.id ledger (canonicalUuid receiptId) test change

/-- What a locked mutation wants to store: a new state, if it changed, and the ledger. -/
structure LockedFlowMutation (α : Type) where
  state : Option FlowExecutionState
  ledger : List LedgerRow
  value : α

/-- Lock the state, apply a mutation and store its result. Every stored state passes the
schema and advances exactly one revision; anything else throws and is rolled back. -/
def withLockedFlowState {α : Type} (sha256 : String → String) (db : Database)
    (mutate : Except String (LockedFlowMutation α)) : Except String (Database × α) :=
  if FlowExecutionStateSchema sha256 db.state = false then
    .error "persisted flow state is invalid; execution stopped fail-closed"
  else
    match mutate with
    | .error message => .error message
    | .ok outcome =>
      match outcome.state with
      | none => .ok ({ db with ledger := outcome.ledger }, outcome.value)
      | some next =>
        if FlowExecutionStateSchema sha256 next = false then
          .error "persisted flow state is invalid; execution stopped fail-closed"
        else if next.revision ≠ db.state.revision + 1 then
          .error "flow mutation must advance exactly one revision"
        else .ok ({ db with state := next, ledger := outcome.ledger }, outcome.value)

/-- A mutation that stores nothing. -/
def answer {α : Type} (db : Database) (value : α) : Except String (LockedFlowMutation α) :=
  .ok { state := none, ledger := db.ledger, value }

/-- A refusal, as the value of a transaction that stores nothing. -/
def refusal {α : Type} (code : ErrorCode) (error : String) : Except RuntimeError α :=
  .error ⟨error, code, none⟩

/-- The call is active and still bound to the runtime that asks. -/
def lockActiveCall (db : Database) (runtimeDigest : String) : Option RuntimeError :=
  match db.call.filter (·.active) with
  | none => some ⟨"call tool authority is no longer active", .callNotActive, none⟩
  | some call =>
    match call.runtimeDigest.filter (· ≠ "") with
    | none =>
      some ⟨"call has no immutable runtime digest; action stopped fail-closed",
        .runtimeDigestMissing, none⟩
    | some digest =>
      if digest ≠ runtimeDigest then
        some ⟨"call runtime digest changed; action stopped fail-closed",
          .runtimeDigestMismatch, none⟩
      else none

/-- A request to reserve an action, with the owner that will dispatch it. -/
structure FlowActionReservationArgs extends ReserveArgs where
  ownerToken : String
  runtimeDigest : String

/-- An admitted, replayed or reclaimed receipt. -/
structure AtomicActionReservation extends FlowActionReservation where
  ownerToken : Option String

/-- Identities are UUIDs and the runtime digest is one. -/
def actionIdentityError (receiptId ownerToken runtimeDigest : String) : Option RuntimeError :=
  if isUuid receiptId = false ∨ isUuid ownerToken = false then
    some ⟨"receipt and owner identities must be UUIDs", .invalidActionIdentity, none⟩
  else if isHexDigest runtimeDigest = false then
    some ⟨"runtime digest must be a SHA-256 value", .invalidRuntimeDigest, none⟩
  else none

/-- The row of an expired owner after the boundary. -/
def expiredRow (settledAt : Option Instant) (row : LedgerRow) : LedgerRow :=
  { row with
    status := .indeterminate
    deliveryState := .unknown
    error := some "dispatch owner expired after the durable boundary"
    settledAt }

/-- The test of the update that takes over an undispatched row. -/
def mayReclaim (clock : ClockReading) (row : LedgerRow) : Bool :=
  decide (row.status = .reserved) && row.dispatchStartedAt.isNone && row.leaseExpired clock

/-- A row whose expired lease passes to a new owner before the boundary. -/
def reclaimedRow (ownerToken : String) (clock : ClockReading) (row : LedgerRow) : LedgerRow :=
  { row with
    ownerToken := canonicalUuid ownerToken
    dispatchLeaseExpiresAt := clock.millis + DISPATCH_OWNER_LEASE_MS
    ownerHeartbeatAt := clock.millis }

/-- The row of a fresh reservation. -/
def insertedRow (state : FlowExecutionState) (receipt : FlowActionReceipt)
    (arguments : List (String × Value)) (args : FlowActionReservationArgs) (clock : ClockReading) :
    LedgerRow where
  id := canonicalUuid receipt.id
  runtimeDigest := args.runtimeDigest
  capabilityEpoch := receipt.capabilityEpoch
  stepPath := receipt.step
  stepAttempt := (state.attempts.lookup receipt.step).getD 0
  tool := receipt.tool
  invocationId := receipt.invocationId
  providerInvocationId := receipt.providerInvocationId
  arguments
  argumentsHash := receipt.argumentsHash
  idempotencyKey := receipt.idempotencyKey
  status := .reserved
  ownerToken := canonicalUuid args.ownerToken
  dispatchLeaseExpiresAt := clock.millis + DISPATCH_OWNER_LEASE_MS
  ownerHeartbeatAt := clock.millis
  dispatchStartedAt := none
  dispatchAttempt := 0
  deliveryState := .notSent
  result := none
  resultHash := none
  error := none
  reservedAt := receipt.reservedAt
  settledAt := none

def EXPIRED_OWNER_ERROR : String :=
  "dispatch owner expired after the action crossed the durable dispatch boundary"

/-- A request that met a reserved receipt: it waits for a live owner, records an expired
one that crossed the boundary, and takes over one that did not. -/
def reserveExisting (sha256 : String → String) (db : Database) (args : FlowActionReservationArgs)
    (reserved : FlowActionReservation) (clock : ClockReading) :
    Except String (LockedFlowMutation (Except RuntimeError AtomicActionReservation)) :=
  match rowOf db.ledger reserved.receipt.id with
  | none =>
    answer db (refusal .receiptLedgerMissing "embedded action receipt has no durable ledger row")
  | some persisted =>
    if persisted.leaseExpired clock = false then answer db (.ok { reserved with ownerToken := none })
    else if persisted.dispatchStartedAt.isSome then
      match settleFlowAction sha256 db.state
          ⟨reserved.receipt.id, .indeterminate, .undefined, some EXPIRED_OWNER_ERROR⟩
          clock.instant with
      | .error (.thrown message) => .error message
      | .error (.refused reason) => answer db (.error reason)
      | .ok settled =>
        .ok
          { state := some settled.state
            ledger := updateRows db.ledger reserved.receipt.id (fun row => row.status = .reserved)
              (expiredRow settled.receipt.settledAt)
            value := .ok
              { state := settled.state, receipt := settled.receipt, execute := false,
                replayed := false, ownerToken := none } }
    else
      if (db.ledger.filter fun row =>
          decide (row.id = canonicalUuid reserved.receipt.id)
            && mayReclaim clock row).length ≠ 1 then
        answer db (.ok { reserved with ownerToken := none })
      else
        .ok
          { state := none
            ledger := updateRows db.ledger reserved.receipt.id (mayReclaim clock)
              (reclaimedRow args.ownerToken clock)
            value := .ok { reserved with
                execute := true, replayed := false, ownerToken := some args.ownerToken } }

def reserveFlowActionLocked (sha256 : String → String) (flow : AgentFlow) (db : Database)
    (args : FlowActionReservationArgs) (clock : ClockReading) (now : Instant) :
    Except String (LockedFlowMutation (Except RuntimeError AtomicActionReservation)) :=
  match reserveFlowAction sha256 flow db.state args.toReserveArgs now with
  | .error (.thrown message) => .error message
  | .error (.refused reason) => answer db (.error reason)
  | .ok reserved =>
    if reserved.execute = false ∧ reserved.receipt.status = .reserved then
      reserveExisting sha256 db args reserved clock
    else if reserved.execute = false then answer db (.ok { reserved with ownerToken := none })
    else
      match reserved.receipt.arguments with
      | none =>
        answer db (refusal .receiptStateMismatch
          "new action reservation lost its bounded arguments")
      | some arguments =>
        if (rowOf db.ledger reserved.receipt.id).isSome then
          .error "duplicate key value violates unique constraint"
        else
          .ok
            { state := some reserved.state
              ledger := db.ledger ++ [insertedRow db.state reserved.receipt arguments args clock]
              value := .ok { reserved with ownerToken := some args.ownerToken } }

/-- A replayed success whose result was compacted gets it back from its row, when the
row still carries the same evidence. -/
def rehydrateCompactedReplay (sha256 : String → String) (ledger : List LedgerRow)
    (reservation : AtomicActionReservation) : Except RuntimeError AtomicActionReservation :=
  if reservation.execute = false ∧ reservation.receipt.status = .succeeded ∧
      reservation.receipt.resultCompacted = true ∧ (present reservation.receipt.resultHash).isSome then
    match (rowOf ledger reservation.receipt.id).filter fun row =>
        decide (row.status = .succeeded) && decide (row.resultHash = reservation.receipt.resultHash)
          && decide ((hashFlowValue sha256 (row.result.getD .null)).toOption =
            reservation.receipt.resultHash) with
    | none =>
      refusal .receiptStateMismatch "compacted replay result does not match its durable receipt"
    | some row =>
      .ok { reservation with
        receipt := { reservation.receipt with
          resultCompacted := false, result := some (row.result.getD .null) } }
  else .ok reservation

/-- Reserve an action before any side effect is dispatched. -/
def reserveFlowActionAtomic (sha256 : String → String) (flow : AgentFlow) (db : Database)
    (args : FlowActionReservationArgs) (clock : ClockReading) (now : Instant) :
    Except String (Database × Except RuntimeError AtomicActionReservation) :=
  match actionIdentityError args.receiptId args.ownerToken args.runtimeDigest with
  | some reason => .ok (db, .error reason)
  | none =>
    (withLockedFlowState sha256 db (match lockActiveCall db args.runtimeDigest with
        | some reason => answer db (.error reason)
        | none => reserveFlowActionLocked sha256 flow db args clock now)).map fun locked =>
      (locked.1, locked.2.bind (rehydrateCompactedReplay sha256 locked.1.ledger))

/-- A request of an owner to dispatch its receipt. -/
structure DispatchArgs where
  receiptId : String
  ownerToken : String
  runtimeDigest : String

/-- The row after it crossed the dispatch boundary. -/
def dispatchedRow (startedAt : Option Instant) (clock : ClockReading) (row : LedgerRow) :
    LedgerRow :=
  { row with
    dispatchStartedAt := startedAt
    dispatchAttempt := row.dispatchAttempt + 1
    deliveryState := .unknown
    ownerHeartbeatAt := clock.millis
    dispatchLeaseExpiresAt := clock.millis + DISPATCH_OWNER_LEASE_MS }

/-- The owner and status test of the update that crosses the boundary. -/
def mayDispatch (ownerToken : String) (row : LedgerRow) : Bool :=
  decide (row.ownerToken = canonicalUuid ownerToken) && decide (row.status = .reserved)
    && row.dispatchStartedAt.isNone

def markDispatchStartedLocked (db : Database) (args : DispatchArgs) (clock : ClockReading) :
    Except String (LockedFlowMutation (Except RuntimeError ReceiptUpdate)) :=
  match rowOf db.ledger args.receiptId with
  | none => answer db (refusal .unknownReceipt s!"unknown action receipt \"{args.receiptId}\"")
  | some row =>
    if row.ownerToken ≠ args.ownerToken then
      answer db (refusal .receiptOwnerMismatch "action receipt is owned by another execution")
    else if row.status ≠ .reserved ∨ row.dispatchStartedAt.isSome then
      answer db (refusal .dispatchAlreadyStarted
        "action receipt already crossed or left the dispatch boundary")
    else if row.leaseExpired clock then
      answer db (refusal .dispatchOwnerExpired "action dispatch ownership expired before dispatch")
    else
      match markFlowActionDispatchStarted db.state args.receiptId clock.instant with
      | .error (.thrown message) => .error message
      | .error (.refused reason) => answer db (.error reason)
      | .ok marked =>
        if (db.ledger.filter fun row =>
            decide (row.id = canonicalUuid args.receiptId)
              && mayDispatch args.ownerToken row).length ≠ 1 then
          .error "action dispatch boundary changed while locked"
        else
          .ok
            { state := some marked.state
              ledger := updateRows db.ledger args.receiptId (mayDispatch args.ownerToken)
                (dispatchedRow marked.receipt.dispatchStartedAt clock)
              value := .ok marked }

/-- The one-shot permit to dispatch. -/
def markFlowActionDispatchStartedAtomic (sha256 : String → String) (db : Database)
    (args : DispatchArgs) (clock : ClockReading) :
    Except String (Database × Except RuntimeError ReceiptUpdate) :=
  match actionIdentityError args.receiptId args.ownerToken args.runtimeDigest with
  | some reason => .ok (db, .error reason)
  | none =>
    withLockedFlowState sha256 db (match lockActiveCall db args.runtimeDigest with
        | some reason => answer db (.error reason)
        | none => markDispatchStartedLocked db args clock)

/-- A settlement of an owner, with what it knows about the delivery. -/
structure AtomicSettleArgs extends SettleArgs where
  ownerToken : String
  deliveryState : Option DeliveryState

/-- Why a settlement contradicts the dispatch boundary of its row, if it does. -/
def deliveryConflict (args : AtomicSettleArgs) (dispatched : Bool) : Option RuntimeError :=
  if args.status = .failed ∧ dispatched = true ∧ args.deliveryState ≠ some .rejected then
    some ⟨"a dispatched action cannot be declared not sent", .invalidDeliveryTransition, none⟩
  else if args.status = .failed ∧ dispatched = false ∧ args.deliveryState.any (· ≠ .notSent) then
    some ⟨"an undispatched failure must remain not_sent", .invalidDeliveryTransition, none⟩
  else if args.status ≠ .failed ∧ dispatched = false then
    some ⟨"action outcome cannot settle before its dispatch boundary", .dispatchNotStarted, none⟩
  else if args.status = .succeeded ∧ args.deliveryState.any (· ≠ .committed) then
    some ⟨"successful action evidence must be committed", .invalidDeliveryTransition, none⟩
  else if args.status = .indeterminate ∧
      args.deliveryState.any (fun delivery => delivery ≠ .accepted ∧ delivery ≠ .unknown) then
    some ⟨"indeterminate action delivery must be accepted or unknown",
      .invalidDeliveryTransition, none⟩
  else none

/-- The delivery state of a settlement that names none. -/
def defaultDelivery : Settlement → DeliveryState
  | .succeeded => .committed
  | .failed => .notSent
  | .indeterminate => .unknown

/-- The row after its settlement. -/
def settledRow (args : AtomicSettleArgs) (receipt : FlowActionReceipt) (row : LedgerRow) :
    LedgerRow :=
  { row with
    status := receipt.status
    result := args.supplied
    resultHash := receipt.resultHash
    error := present args.error
    deliveryState := args.deliveryState.getD (defaultDelivery args.status)
    settledAt := receipt.settledAt }

def settleFlowActionLocked (sha256 : String → String) (db : Database) (args : AtomicSettleArgs)
    (now : Instant) : Except String (LockedFlowMutation (Except RuntimeError ReceiptUpdate)) :=
  match rowOf db.ledger args.receiptId with
  | none => answer db (refusal .unknownReceipt s!"unknown action receipt \"{args.receiptId}\"")
  | some row =>
    if row.ownerToken ≠ args.ownerToken then
      answer db (refusal .receiptOwnerMismatch "action receipt is owned by another execution")
    else if row.status ≠ .reserved then
      match settleFlowAction sha256 db.state args.toSettleArgs now with
      | .error (.thrown message) => .error message
      | .error (.refused reason) => answer db (.error reason)
      | .ok replay => answer db (.ok replay)
    else
      match deliveryConflict args row.dispatchStartedAt.isSome with
      | some reason => answer db (.error reason)
      | none =>
        match settleFlowAction sha256 db.state args.toSettleArgs now with
        | .error (.thrown message) => .error message
        | .error (.refused reason) => answer db (.error reason)
        | .ok settled =>
          -- A new state is a new object exactly when its revision advanced.
          if settled.state.revision = db.state.revision then answer db (.ok settled)
          else
            .ok
              { state := some settled.state
                ledger := updateRows db.ledger args.receiptId
                  (fun row => row.ownerToken = canonicalUuid args.ownerToken)
                  (settledRow args settled.receipt)
                value := .ok settled }

/-- Settle the ledger and the embedded state together. -/
def settleFlowActionAtomic (sha256 : String → String) (db : Database) (args : AtomicSettleArgs)
    (now : Instant) : Except String (Database × Except RuntimeError ReceiptUpdate) :=
  withLockedFlowState sha256 db (settleFlowActionLocked sha256 db args now)

/-- A reserved row past the boundary whose owner has expired. -/
def isStaleRow (clock : ClockReading) (row : LedgerRow) : Bool :=
  decide (row.status = .reserved) && row.dispatchStartedAt.isSome && row.leaseExpired clock

/-- The embedded receipt of a stale row is one that recovery can mark. -/
def recoverable (state : FlowExecutionState) (id : String) : Bool :=
  (state.actionReceipts.find? fun receipt => decide (receipt.id = id)).any fun receipt =>
    decide (receipt.status = .reserved) && receipt.dispatchStartedAt.isSome

def recoverStaleLocked (db : Database) (clock : ClockReading) :
    Except String (LockedFlowMutation Unit) :=
  let ids := (db.ledger.filter (isStaleRow clock)).map LedgerRow.id
  if ids = [] then answer db ()
  else if ids.any (fun id => !recoverable db.state id) then
    .error "persisted flow state is invalid; execution stopped fail-closed"
  else
    .ok
      { state := some (markStaleDispatchedActionsIndeterminate db.state ids clock.instant)
        ledger := db.ledger.map fun row =>
          if ids.contains row.id && decide (row.status = .reserved) then
            expiredRow (some clock.instant) row
          else row
        value := () }

/-- Record abandoned owners past the boundary as indeterminate. -/
def recoverStaleFlowActionsAtomic (sha256 : String → String) (db : Database)
    (clock : ClockReading) : Except String (Database × Unit) :=
  withLockedFlowState sha256 db (recoverStaleLocked db clock)

/-- Operations that move the call without touching the ledger. -/
inductive Navigation where
  | selectTopic (nodeId : String)
  | enterStep (path : String)
  | complete (args : CompleteArgs)
  | rotate

def Navigation.operation : Navigation → FlowOperation
  | .selectTopic nodeId => .selectTopic nodeId
  | .enterStep path => .enterStep path
  | .complete args => .complete args
  | .rotate => .rotate

/-- Apply a navigation under the lock. -/
def navigateLocked (sha256 : String → String) (flow : AgentFlow) (db : Database)
    (navigation : Navigation) (now : Instant) : Except String (LockedFlowMutation Unit) :=
  match applyOperation sha256 flow db.state ⟨navigation.operation, now⟩ with
  | .error (.thrown message) => .error message
  | .error (.refused _) => answer db ()
  | .ok next =>
    if next.revision = db.state.revision then answer db ()
    else .ok { state := some next, ledger := db.ledger, value := () }

/-- The transactions of one call. -/
inductive Transaction where
  | reserve (args : FlowActionReservationArgs) (now : Instant)
  | markDispatchStarted (args : DispatchArgs)
  | settle (args : AtomicSettleArgs) (now : Instant)
  | recoverStale
  | navigate (navigation : Navigation) (now : Instant)
  | changeCall (call : Option CallRow)

/-- What a transaction answers. -/
inductive Answer where
  | reservation (result : Except RuntimeError AtomicActionReservation)
  | update (result : Except RuntimeError ReceiptUpdate)
  | done

/-- A transaction as the database serves it: with its clock, or aborted before it
commits. -/
structure Request where
  transaction : Transaction
  clock : ClockReading
  aborted : Bool

/-- The transaction on its own. -/
def transact (sha256 : String → String) (flow : AgentFlow) (db : Database)
    (transaction : Transaction) (clock : ClockReading) : Except String (Database × Answer) :=
  match transaction with
  | .reserve args now =>
    (reserveFlowActionAtomic sha256 flow db args clock now).map fun result =>
      (result.1, .reservation result.2)
  | .markDispatchStarted args =>
    (markFlowActionDispatchStartedAtomic sha256 db args clock).map fun result =>
      (result.1, .update result.2)
  | .settle args now =>
    (settleFlowActionAtomic sha256 db args now).map fun result => (result.1, .update result.2)
  | .recoverStale =>
    (recoverStaleFlowActionsAtomic sha256 db clock).map fun result => (result.1, .done)
  | .navigate navigation now =>
    (withLockedFlowState sha256 db (navigateLocked sha256 flow db navigation now)).map
      fun result => (result.1, .done)
  | .changeCall call => .ok ({ db with call }, .done)

/-- The answer of a served request; an abort answers nothing. -/
def respond (sha256 : String → String) (flow : AgentFlow) (db : Database) (request : Request) :
    Option (Database × Answer) :=
  if request.aborted then none
  else (transact sha256 flow db request.transaction request.clock).toOption

/-- An aborted or failed transaction leaves the database as it was. -/
def serve (sha256 : String → String) (flow : AgentFlow) (db : Database) (request : Request) :
    Database :=
  ((respond sha256 flow db request).map Prod.fst).getD db

/-- The database of a new call. -/
def newCall (call : Option CallRow) : Database where
  call
  state := createFlowExecutionState epoch
  ledger := []

/-- The database after the requests, in the order in which the lock serialised them. -/
def serveAll (sha256 : String → String) (flow : AgentFlow) (call : Option CallRow)
    (requests : List Request) : Database :=
  Runs.run (serve sha256 flow) (newCall call) requests

theorem serveAll_snoc (sha256 : String → String) (flow : AgentFlow) (call : Option CallRow)
    (requests : List Request) (request : Request) :
    serveAll sha256 flow call (requests ++ [request]) =
      serve sha256 flow (serveAll sha256 flow call requests) request :=
  Runs.run_snoc _ _ _ _

end CallCenter.FlowLedger
