import CallCenter.AuthorityProtocol

/-!
# Tool batches of a bridge session

A session hands the calls of a provider response to the tool authority, one after another and
under one catalog authority, and journals what it authorized and how it ended. This is the part of
the session that runs tools: the catalog authority, the batches, the journal's capacity and the
shutdown. The rest of the session acts through inputs: it journals events of its own, raises the
barge-in epoch, rotates clients and ends the session. What an operation of the authority client
brings back is an input too, and so is whether the provider's outbox takes the outputs.

A settled batch is deleted from the table in a microtask; here it leaves with its settlement.
-/

namespace CallCenter.BridgeSession

open AuthorityProtocol JsonValues ObjectFields
open FlowState (isHexDigest)

/-- A call of a ready batch. -/
structure ToolCall where
  callId : String
  responseId : String
  itemId : Option String := none
  name : String
  arguments : Value

inductive SkipReason where
  | sessionClosing | interrupted | priorIndeterminate

/-- How a call of a batch ended. -/
inductive CallOutcome where
  | ok (result : ToolResult)
  | failed (error : ClientError)
  | skipped (reason : SkipReason)

def CallOutcome.ofAnswer : Except ClientError ToolResult → CallOutcome
  | .ok result => .ok result
  | .error error => .failed error

def CallOutcome.report : CallOutcome → Option CatalogReport
  | .ok result => some result.activeCatalogAuthority
  | _ => none

def CallOutcome.indeterminate : CallOutcome → Bool
  | .failed error => error.indeterminate
  | _ => false

abbrev Settled := List (ToolCall × CallOutcome)

def skipAll (reason : SkipReason) (calls : List ToolCall) : Settled :=
  calls.map fun call => (call, .skipped reason)

/-! ### The journal -/

/-- Events of tool batches, which are numbered for the statements, and all others. -/
inductive JournalEvent where
  | batchAuthorized (batch : Nat) (responseId : String) (calls : List ToolCall)
  | batchSettled (batch : Nat) (responseId : String) (calls : Settled)
  | outcomeUnknownAtShutdown (batch : Nat) (responseId : String) (callIds : List String)
  | other (type : String) (payload : Nat)

/-- The configuration, and the serialized size of an event with its sequence number. -/
structure BridgeHost where
  provider : Provider
  allowedClientTools : List String
  maximumToolCalls : Nat
  eventBytes : Nat → JournalEvent → Nat

def MAX_QUEUED_EVENTS : Nat := 1000
def MAX_QUEUED_BYTES : Nat := 4 * 1024 * 1024
def MAX_BATCH_BYTES : Nat := 512 * 1024
def TERMINAL_RESERVE_EVENTS : Nat := 8
def TERMINAL_RESERVE_BYTES : Nat := 32 * 1024

/-- The sizes of the queued events. -/
structure Journal where
  queued : List Nat := []
  nextSequence : Nat := 1

def Journal.hasRoom (journal : Journal) (terminal : Bool) (bytes : Nat) : Bool :=
  bytes ≤ MAX_BATCH_BYTES &&
    journal.queued.length + 1 ≤ MAX_QUEUED_EVENTS - (if terminal then 0 else TERMINAL_RESERVE_EVENTS) &&
    journal.queued.sum + bytes ≤ MAX_QUEUED_BYTES - (if terminal then 0 else TERMINAL_RESERVE_BYTES)

def Journal.append (host : BridgeHost) (journal : Journal) (terminal : Bool) (event : JournalEvent) :
    Journal :=
  let bytes := host.eventBytes journal.nextSequence event
  if journal.hasRoom terminal bytes then
    { queued := journal.queued ++ [bytes], nextSequence := journal.nextSequence + 1 }
  else journal

/-! ### The session -/

/-- An authorized batch. `advances` counts how often the catalog had been advanced before. -/
structure Batch where
  number : Nat
  responseId : String
  calls : List ToolCall
  bargeInEpoch : Nat
  client : Nat
  authority : Value
  advances : Nat

/-- A batch that waits for the client. -/
structure OpenBatch extends Batch where
  settled : Settled
  waiting : ToolCall
  remaining : List ToolCall

/-- A call that an open client validated for a batch. -/
structure Handed where
  batch : Batch
  call : ToolCall
  verdict : Except ClientError GatewayRequest

/-- The catalog and the batches. Counts and handed calls are kept for the statements. -/
structure ToolSide where
  activeCatalogAuthority : Option Value := none
  toolBatches : List (String × OpenBatch) := []
  batchCount : Nat := 0
  advances : Nat := 0
  handed : List Handed := []

structure Bridge extends ToolSide where
  ready : Bool := false
  closing : Bool := false
  authorityClient : Option Nat := none
  closedClients : List Nat := []
  totalToolCalls : Nat := 0
  bargeInEpoch : Nat := 0
  cancelRequestedResponses : List String := []
  journal : Option Journal := none
  journalSealed : Bool := false
  fatalQueued : Bool := false

section Session

variable (host : BridgeHost)

/-- A refused event of an open session queues its end. -/
def record (bridge : Bridge) (terminal : Bool) (event : JournalEvent) : Bridge :=
  match bridge.journal with
  | none => bridge
  | some journal =>
    if bridge.journalSealed then bridge
    else
      { bridge with
        journal := some (journal.append host terminal event)
        fatalQueued := bridge.fatalQueued || !bridge.closing &&
          !journal.hasRoom terminal (host.eventBytes journal.nextSequence event) }

def fatal (bridge : Bridge) : Bridge :=
  if bridge.closing then bridge
  else { record host bridge true (.other "session.failure" 0) with closing := true, ready := false }

/-! ### Catalog authority -/

def CatalogReport.toValue (report : CatalogReport) : Value :=
  .object [("catalogDigest", .string report.catalogDigest),
    ("capabilityEpoch", report.capabilityEpoch), ("availability", .string report.availability.text)]

def validateActiveCatalogAuthority (allowAvailability : Bool) (value : Value) : Option Value :=
  let availability := property value "availability"
  if isRecord value &&
      (keysOf value).all (fun key => ["catalogDigest", "capabilityEpoch"].contains key ||
        allowAvailability && key = "availability") &&
      isText isHexDigest (property value "catalogDigest") &&
      isSafeNatural (property value "capabilityEpoch") &&
      (isUndefined availability || isOneOf ["active", "blocked"] availability) then
    some (.object ([("catalogDigest", property value "catalogDigest"),
      ("capabilityEpoch", property value "capabilityEpoch")] ++
      if isUndefined availability then [] else [("availability", availability)]))
  else none

def epochOf (authority : Value) : Int :=
  (safeInteger (property authority "capabilityEpoch")).getD 0

/-- The last report of a batch, unless one is malformed or rewinds the epoch. -/
def followReports (prior : Int) (latest : Option Value) : List CatalogReport → Option (Option Value)
  | [] => some latest
  | report :: rest =>
    match validateActiveCatalogAuthority true (CatalogReport.toValue report) with
    | none => none
    | some next =>
      if epochOf next < prior then none else followReports (epochOf next) (some next) rest

/-- The catalog authority that a batch leaves behind, if all of its calls succeeded. -/
def nextCatalogAuthority (authority : Value) (settled : Settled) : Option (Option Value) :=
  let reports := settled.filterMap fun entry => entry.2.report
  if reports.length = settled.length then followReports (epochOf authority) none reports
  else some none

/-! ### Batches -/

def gatewayInput (call : ToolCall) (authority : Value) : Value :=
  .object [("provider", .string host.provider.text), ("callId", .string call.callId),
    ("responseId", .string call.responseId),
    ("itemId", (call.itemId.map Value.string).getD .undefined), ("name", .string call.name),
    ("arguments", call.arguments), ("activeCatalogAuthority", authority)]

/-- What the loop over the calls did before it had to wait. -/
structure Walk where
  handed : List (ToolCall × Except ClientError GatewayRequest) := []
  settled : Settled := []
  waiting : Option (ToolCall × List ToolCall) := none

/-- The client refuses a malformed call at once; every other answer comes later. -/
def walkCalls (stopped : Option SkipReason) (clientClosed : Bool) (authority : Value) :
    List ToolCall → Walk
  | [] => {}
  | call :: rest =>
    match stopped with
    | some reason => { settled := skipAll reason (call :: rest) }
    | none =>
      if clientClosed then { waiting := some (call, rest) }
      else
        match normalizeGatewayCall (gatewayInput host call authority) with
        | .ok request => { handed := [(call, .ok request)], waiting := some (call, rest) }
        | .error error =>
          let later :=
            if error.indeterminate then { settled := skipAll .priorIndeterminate rest }
            else walkCalls stopped clientClosed authority rest
          { handed := (call, .error error) :: later.handed
            settled := (call, .failed error) :: later.settled
            waiting := later.waiting }

def settleBatch (bridge : Bridge) (batch : Batch) (settled : Settled) : Bridge :=
  { record host bridge false (.batchSettled batch.number batch.responseId settled) with
    toolBatches := bridge.toolBatches.filter (·.1 ≠ batch.responseId) }

/-- The batch has settled. -/
def finishBatch (bridge : Bridge) (batch : Batch) (settled : Settled) (taken : Bool) : Bridge :=
  let bridge := settleBatch host bridge batch settled
  if bridge.closing then bridge
  else if settled.any fun entry => entry.2.indeterminate then fatal host bridge
  else
    match nextCatalogAuthority batch.authority settled with
    | none => fatal host bridge
    | some next =>
      let bridge := match next with
        | none => bridge
        | some authority => record host { bridge with
              activeCatalogAuthority := some authority
              advances := bridge.advances + 1 }
            false (.other "active_catalog.advanced" 0)
      if !taken then fatal host bridge
      else if bridge.bargeInEpoch ≠ batch.bargeInEpoch then
        record host bridge false (.other "tool.response_create_suppressed" 0)
      else bridge

/-- Why the loop does not start another call. -/
def stopReason (bridge : Bridge) (batch : Batch) : Option SkipReason :=
  if bridge.closing then some .sessionClosing
  else if bridge.bargeInEpoch ≠ batch.bargeInEpoch then some .interrupted
  else none

/-- The loop over the calls, up to the next one that has to be awaited. -/
def executeCalls (bridge : Bridge) (batch : Batch) (settled : Settled) (calls : List ToolCall)
    (taken : Bool) : Bridge :=
  let walk := walkCalls host (stopReason bridge batch) (bridge.closedClients.contains batch.client)
    batch.authority calls
  let bridge :=
    { bridge with
      handed := bridge.handed ++ walk.handed.map fun entry => ⟨batch, entry.1, entry.2⟩ }
  match walk.waiting with
  | some (call, rest) =>
    { bridge with
      toolBatches := setField bridge.toolBatches batch.responseId
        { toBatch := batch, settled := settled ++ walk.settled, waiting := call, remaining := rest } }
  | none => finishBatch host bridge batch (settled ++ walk.settled) taken

def dispatchToolBatch (bridge : Bridge) (responseId : String) (calls : List ToolCall)
    (taken : Bool) : Bridge :=
  if bridge.closing || !bridge.ready then bridge
  else if bridge.cancelRequestedResponses.contains responseId then
    if taken then record host bridge false (.other "tool.batch_retired" calls.length)
    else fatal host bridge
  else if calls.isEmpty || hasField bridge.toolBatches responseId ||
      host.maximumToolCalls < bridge.totalToolCalls + calls.length ||
      bridge.activeCatalogAuthority.any
        (fun authority => isText (· = "blocked") (property authority "availability")) ||
      !calls.all (fun call => host.allowedClientTools.contains call.name) then
    fatal host bridge
  else
    let bridge := { bridge with totalToolCalls := bridge.totalToolCalls + calls.length }
    match bridge.authorityClient, bridge.activeCatalogAuthority with
    | some client, some authority =>
      let batch : Batch :=
        { number := bridge.batchCount, responseId, calls, bargeInEpoch := bridge.bargeInEpoch
          client, authority, advances := bridge.advances }
      executeCalls host (record host { bridge with batchCount := bridge.batchCount + 1 } false
          (.batchAuthorized batch.number responseId calls)) batch [] calls taken
    | _, _ => fatal host bridge

/-- The client's answer for the call that a batch waits for. -/
def callSettled (bridge : Bridge) (responseId : String) (answer : Except ClientError ToolResult)
    (taken : Bool) : Bridge :=
  match bridge.toolBatches.lookup responseId with
  | none => bridge
  | some batch =>
    let outcome := CallOutcome.ofAnswer answer
    let settled := batch.settled ++ [(batch.waiting, outcome)]
    if outcome.indeterminate then
      finishBatch host bridge batch.toBatch
        (settled ++ skipAll .priorIndeterminate batch.remaining) taken
    else executeCalls host bridge batch.toBatch settled batch.remaining taken

/-- The end of the shutdown: batches that never settled, the end of the session, and the seal. -/
def sealJournal (bridge : Bridge) : Bridge :=
  let bridge := bridge.toolBatches.foldl (fun bridge entry =>
    record host bridge true (.outcomeUnknownAtShutdown entry.2.number entry.2.responseId
      (entry.2.calls.map ToolCall.callId))) bridge
  { record host bridge true (.other "session.ended" 0) with journalSealed := true }

/-- What happens to a session, in any order. -/
inductive BridgeInput where
  | bootstrapped (authority : Value)
  | providerAcknowledged
  | callsReady (responseId : String) (calls : List ToolCall) (taken : Bool)
  | callSettled (responseId : String) (answer : Except ClientError ToolResult) (taken : Bool)
  | bargeIn (interrupted : Option String)
  | clientRotated (client : Nat)
  | clientExpired (client : Nat)
  | recorded (terminal : Bool) (type : String) (payload : Nat)
  | failed
  | queuedFailure
  | journalAcknowledged (events : Nat)
  | sealed

def step (bridge : Bridge) : BridgeInput → Bridge
  | .bootstrapped authority =>
    if bridge.activeCatalogAuthority.isSome || bridge.journalSealed then bridge
    else
      match validateActiveCatalogAuthority false authority with
      | none => fatal host bridge
      | some authority =>
        { bridge with
          activeCatalogAuthority := some authority
          journal := some {}
          authorityClient := if bridge.closing then none else some 0 }
  | .providerAcknowledged =>
    { bridge with ready := !bridge.closing && bridge.authorityClient.isSome }
  | .callsReady responseId calls taken => dispatchToolBatch host bridge responseId calls taken
  | .callSettled responseId answer taken => callSettled host bridge responseId answer taken
  | .bargeIn interrupted =>
    if bridge.ready then
      { bridge with
        bargeInEpoch := bridge.bargeInEpoch + 1
        cancelRequestedResponses := bridge.cancelRequestedResponses ++ interrupted.toList }
    else bridge
  | .clientRotated client =>
    if bridge.closing || bridge.authorityClient.isNone then bridge
    else { bridge with authorityClient := some client }
  | .clientExpired client => { bridge with closedClients := client :: bridge.closedClients }
  | .recorded terminal type payload => record host bridge terminal (.other type payload)
  | .failed => fatal host bridge
  | .queuedFailure =>
    if bridge.fatalQueued then fatal host { bridge with fatalQueued := false } else bridge
  | .journalAcknowledged events =>
    { bridge with
      journal := bridge.journal.map fun journal =>
        { journal with queued := journal.queued.drop events } }
  | .sealed => if bridge.closing && !bridge.journalSealed then sealJournal host bridge else bridge

/-! ### What one input does -/

section

variable (bridge : Bridge)

@[simp] theorem record_side (terminal : Bool) (event : JournalEvent) :
    (record host bridge terminal event).toToolSide = bridge.toToolSide := by
  unfold record
  cases bridge.journal with
  | none => rfl
  | some => by_cases sealed : bridge.journalSealed <;> simp [sealed]

@[simp] theorem fatal_side :
    (fatal host bridge).toToolSide = bridge.toToolSide := by
  by_cases closing : bridge.closing <;> simp [fatal, closing]

theorem sealJournal_side :
    (sealJournal host bridge).toToolSide = bridge.toToolSide := by
  dsimp only [sealJournal]
  rw [record_side]
  generalize bridge.toolBatches = entries
  induction entries generalizing bridge with
  | nil => rfl
  | cons entry rest ih => rw [List.foldl_cons, ih, record_side]

/-- A settled batch leaves the table, and the catalog of its last report if that counts. -/
theorem finishBatch_side (batch : Batch) (settled : Settled) (taken : Bool) :
    (finishBatch host bridge batch settled taken).toToolSide =
        (settleBatch host bridge batch settled).toToolSide ∨
      ∃ authority, nextCatalogAuthority batch.authority settled = some (some authority) ∧
        (finishBatch host bridge batch settled taken).toToolSide =
          { (settleBatch host bridge batch settled).toToolSide with
            activeCatalogAuthority := some authority
            advances := (settleBatch host bridge batch settled).advances + 1 } := by
  dsimp only [finishBatch]
  generalize settleBatch host bridge batch settled = middle
  have sent : ∀ before : Bridge, (if !taken then fatal host before
      else if before.bargeInEpoch ≠ batch.bargeInEpoch then
        record host before false (.other "tool.response_create_suppressed" 0)
      else before).toToolSide = before.toToolSide := by
    intro before
    split
    · exact fatal_side host before
    split
    · exact record_side host before _ _
    · rfl
  split
  · exact .inl rfl
  split
  · exact .inl (fatal_side host middle)
  cases nextCatalogAuthority batch.authority settled with
  | none => exact .inl (fatal_side host middle)
  | some next =>
    cases next with
    | none => exact .inl (sent middle)
    | some authority => exact .inr ⟨authority, rfl, (sent _).trans (record_side host _ _ _)⟩

/-- The inputs that concern batches and the catalog. -/
theorem step_side (input : BridgeInput) :
    (step host bridge input).toToolSide = bridge.toToolSide ∨
      (∃ value authority, bridge.activeCatalogAuthority = none ∧
        validateActiveCatalogAuthority false value = some authority ∧
        (step host bridge input).toToolSide =
          { bridge.toToolSide with activeCatalogAuthority := some authority }) ∨
      (∃ responseId calls taken,
        step host bridge input = dispatchToolBatch host bridge responseId calls taken) ∨
      ∃ responseId answer taken,
        step host bridge input = callSettled host bridge responseId answer taken := by
  cases input with
  | bootstrapped value =>
    dsimp only [step]
    split
    · exact .inl rfl
    rename_i first
    cases validated : validateActiveCatalogAuthority false value with
    | none => exact .inl (fatal_side host bridge)
    | some authority => exact .inr (.inl ⟨value, authority, by simp_all, validated, rfl⟩)
  | callsReady => exact .inr (.inr (.inl ⟨_, _, _, rfl⟩))
  | callSettled => exact .inr (.inr (.inr ⟨_, _, _, rfl⟩))
  | recorded => exact .inl (record_side host bridge _ _)
  | failed => exact .inl (fatal_side host bridge)
  | sealed =>
    dsimp only [step]
    split
    · exact .inl (sealJournal_side host bridge)
    · exact .inl rfl
  | queuedFailure =>
    dsimp only [step]
    split
    · exact .inl (fatal_side host _)
    · exact .inl rfl
  | journalAcknowledged | providerAcknowledged | clientExpired => exact .inl rfl
  | bargeIn | clientRotated => dsimp only [step]; split <;> exact .inl rfl

end

end Session

end CallCenter.BridgeSession
