import CallCenter.ConversationAppends
import CallCenter.ConversationTransitions
import CallCenter.Utf16Texts

/-!
# Deferred results of workers

The result of a worker waits in the inbox of its conversation until a live route claims it and
the kernel decides it. While the goal of the worker is suspended the kernel defers the result, and
the lease of the claim runs out. A message is claimed at most sixteen times; the next claim
quarantines it, so a long suspension loses the result. So does a result whose event the kernel
refuses, a summary of more than 4,096 units (the adapter sends its beginning, and the database
expects all of it), and a payload that the kernel takes and the database finds too large.
-/

namespace CallCenter.DeferredResults

open Guards Replays ObjectFields JsonValues Utf16Texts ConversationEvents ConversationKernel
  ConversationAppends ConversationTransitions

/-! ## Claims -/

structure InboxRow where
  deliveryToken : Option String
  deliveryLeaseExpiresAt : Option Nat
  deliveryCount : Nat
  applicationId : Option String
  acknowledged : Bool
  quarantined : Bool

def unleased (now : Nat) (row : InboxRow) : Bool :=
  !row.acknowledged && !row.quarantined && row.deliveryLeaseExpiresAt.all (decide <| · ≤ now)

def exhausted (now : Nat) (row : InboxRow) : Bool :=
  unleased now row && row.applicationId.isNone && decide (16 ≤ row.deliveryCount)

def candidate (now : Nat) (row : InboxRow) : Bool :=
  unleased now row && decide (row.deliveryCount < 16)

/-- With the rows before it in the order of creation, a row is among the first of its kind. -/
def selected (limit : Nat) (kind : InboxRow → Bool) (earlier : List InboxRow) (row : InboxRow) :
    Bool :=
  kind row && decide ((earlier.filter kind).length < limit)

structure Claim where
  deliveryToken : String
  leaseMs : Nat
  maximumMessages : Nat
  now : Nat

def Claim.valid (claim : Claim) : Bool :=
  decide (1000 ≤ claim.leaseMs ∧ claim.leaseMs ≤ 300000 ∧
    1 ≤ claim.maximumMessages ∧ claim.maximumMessages ≤ 64)

def InboxRow.quarantine (row : InboxRow) : InboxRow :=
  { row with quarantined := true, deliveryToken := none, deliveryLeaseExpiresAt := none }

def InboxRow.lease (row : InboxRow) (claim : Claim) : InboxRow :=
  { row with
    deliveryToken := some claim.deliveryToken
    deliveryLeaseExpiresAt := some (claim.now + claim.leaseMs)
    deliveryCount := row.deliveryCount + 1 }

/-- `claim_voice_conversation_inbox` as it concerns one row: the row afterwards, and whether the
claim returns it. -/
def claimRow (earlier : List InboxRow) (claim : Claim) (row : InboxRow) : InboxRow × Bool :=
  if claim.valid = false then (row, false)
  else if selected 64 (exhausted claim.now) earlier row then (row.quarantine, false)
  else if selected claim.maximumMessages (candidate claim.now) earlier row then
    (row.lease claim, true)
  else (row, false)

theorem claimRow_cases (earlier : List InboxRow) (claim : Claim) (row : InboxRow) :
    claimRow earlier claim row = (row, false) ∨
      16 ≤ row.deliveryCount ∧ claimRow earlier claim row = (row.quarantine, false) ∨
      row.deliveryCount < 16 ∧ claimRow earlier claim row = (row.lease claim, true) := by
  unfold claimRow
  split
  · exact Or.inl rfl
  split
  · next chosen =>
    simp only [selected, exhausted, Bool.and_eq_true, decide_eq_true_eq] at chosen
    exact Or.inr (Or.inl ⟨chosen.1.2, rfl⟩)
  split
  · next chosen =>
    simp only [selected, candidate, Bool.and_eq_true, decide_eq_true_eq] at chosen
    exact Or.inr (Or.inr ⟨chosen.1.2, rfl⟩)
  · exact Or.inl rfl

/-! ## Attempts -/

/-- A fact of a result with the citations that support it. -/
structure ResultFact where
  key : String
  value : Value
  citationIds : List String

/-- A result in the inbox, with what its delivery reads of the succeeded worker. -/
structure ResultMessage where
  id : String
  workerId : String
  goalId : String
  policyEpoch : Nat
  factDependencies : List FactDependency
  facts : List ResultFact
  summary : String
  resultSha256 : String
  /-- `Date.parse(worker.settledAt)` -/
  settledAtMs : Nat

/-- `result.summary.slice(0, 4_096)` -/
def advisoryUnits (message : ResultMessage) : List Nat := (utf16 message.summary).take 4096

/-- The payload of the event; a fact without citations cites the result. -/
def workerResultConversationPayload (message : ResultMessage) : WorkerResult where
  deliveryId := message.id
  workerId := message.workerId
  goalId := message.goalId
  policyEpoch := message.policyEpoch
  dependencyFactRevisions := message.factDependencies
  facts := message.facts.map fun fact => ⟨fact.key, fact.value,
    fact.citationIds.headD ("result-" ++ (message.resultSha256.take 24).toString)⟩
  advisories :=
    [⟨"worker-" ++ message.workerId, String.ofList (decodeUnits (advisoryUnits message))⟩]

/-- Size of a number in the database, which prints no exponents. The exponents that the language
prints are negative or exceed the digits of the fraction. -/
def numericBytes (number : JsonNumber) : Nat :=
  let mantissa := number.text.toList.takeWhile (· != 'e')
  let whole := mantissa.takeWhile (· != '.')
  let fraction := (mantissa.dropWhile (· != '.')).drop 1
  match (number.text.toList.dropWhile (· != 'e')).drop 1 with
  | [] => mantissa.length
  | '-' :: places => whole.length + 1 + fraction.length + Nat.ofDigitChars 10 places 0
  | '+' :: places | places => whole.length + Nat.ofDigitChars 10 places 0

mutual

/-- Size of a value as the database prints it, with a blank after each comma and colon. -/
def databaseBytes : Value → Nat
  | .number (.finite number) => numericBytes number
  | .array items => max 2 (itemBytes items)
  | .object fields => max 2 (fieldBytes fields)
  | other => utf8Bytes other.print

/-- Two brackets and the separators are two bytes for each item. -/
def itemBytes : List Value → Nat
  | [] => 0
  | item :: rest => databaseBytes item + 2 + itemBytes rest

/-- Fields have a key and a colon besides. -/
def fieldBytes : List (String × Value) → Nat
  | [] => 0
  | (key, value) :: rest => utf8Bytes (jsonString key) + 2 + databaseBytes value + 2 + fieldBytes rest

end

structure System where
  log : ConversationLog
  row : InboxRow
  earlier : List InboxRow

structure Attempt where
  deliveryToken : String
  applicationId : String
  now : Nat

variable (sha256 : String → String) (message : ResultMessage)

/-- The event has its identity from the message. -/
def resultEventId : String :=
  "live-route-worker/" ++ sha256 ("hacc/live-conversation-route/worker-result/v1\x00" ++ message.id)

/-- What a live route offers to the log. -/
def resultDraft : ConversationEventDraft :=
  ⟨resultEventId sha256 message, message.settledAtMs,
    .workerResultDelivered (workerResultConversationPayload message)⟩

/-- `appendAndFoldGovernedEvent`: the decision about the event of an attempt, and the log with it.
The kernel parses the event, and an event that the log has already is an error. -/
def decided (log : ConversationLog) : Option (DeliveryStatus × ConversationLog) :=
  match appendConversationEvent sha256 log (resultDraft sha256 message) with
  | .error _ => none
  | .ok candidate =>
    if candidate.events.length = log.events.length then none
    else match foldConversation sha256 candidate with
      | .error _ => none
      | .ok state =>
        (state.deliveries.reverse.find? fun record =>
          record.eventId = resultEventId sha256 message).map fun record => (record.status, candidate)

/-- `apply_voice_conversation_inbox`; a comparison with an absent value refuses nothing. -/
def applyInbox (attempt : Attempt) (row : InboxRow) : Option InboxRow :=
  match row.applicationId with
  | some applied => if applied ≠ attempt.applicationId then none else some row
  | none =>
    if row.deliveryToken.any (decide <| · ≠ attempt.deliveryToken) ||
        row.deliveryLeaseExpiresAt.any (decide <| · ≤ attempt.now) then none
    else some { row with
      applicationId := some attempt.applicationId, acknowledged := true
      deliveryToken := none, deliveryLeaseExpiresAt := none }

/-- `applyGovernedDurableConversationInboxMessage`: a deferred delivery and an error change
nothing. The two payloads that the database compares are built from one row and differ at most in
the text of the advisory; the log takes payloads of at most 24,576 bytes. -/
def applyResult (system : System) (attempt : Attempt) : System :=
  match decided sha256 message system.log with
  | none | some (.deferred, _) => system
  | some (_, candidate) =>
    if advisoryUnits message ≠ utf16 message.summary ∨
        24576 < databaseBytes (resultDraft sha256 message).payload.toValue then system
    else match applyInbox attempt system.row with
      | none => system
      | some row => { system with log := candidate, row }

/-- Earlier rows may change in any way between two claims. -/
inductive Input where
  | converse (drafts : List ConversationEventDraft)
  | earlier (rows : List InboxRow)
  | claim (claim : Claim)
  | attempt (attempt : Attempt)

/-- Batches that throw, refused claims and refused attempts change nothing. -/
def step (system : System) : Input → System
  | .converse drafts => { system with log := appendStep sha256 system.log drafts }
  | .earlier rows => { system with earlier := rows }
  | .claim claim => { system with row := (claimRow system.earlier claim system.row).1 }
  | .attempt attempt => applyResult sha256 message system attempt

/-! ## Waiting -/

/-- The event ends the worker or decides its result. -/
def endsWorker : ConversationEventPayload → Bool
  | .workerCancelled workerId _ | .workerFinished workerId _ _ _ => message.workerId == workerId
  | .workerResultDelivered result =>
    message.workerId == result.workerId || message.id == result.deliveryId
  | _ => false

/-- The draft neither ends the worker nor takes the identity of the result's event. -/
def spares (draft : ConversationEventDraft) : Bool :=
  !endsWorker message draft.payload && draft.eventId != resultEventId sha256 message

/-- Every attempt is deferred, and other events spare the worker. -/
def deferring (system : System) : Input → Bool
  | .converse drafts => drafts.all (spares sha256 message)
  | .attempt _ => (decided sha256 message system.log).map Prod.fst == some .deferred
  | _ => true

/-- The worker is running, and its result is neither decided nor in the log. -/
structure Pending (worker : WorkerRecord) (state : MutableState) (events : List ConversationEvent) :
    Prop where
  running : state.workers.lookup message.workerId = some worker
  undecided : state.logicalDeliveries.lookup message.id = none
  unwritten : ∀ event ∈ events, event.eventId ≠ resultEventId sha256 message

/-- The result is pending in a valid log, and its row waits. -/
structure Waiting (worker : WorkerRecord) (system : System) : Prop where
  pending : ∃ state, Sound sha256 system.log state ∧
    Pending sha256 message worker state system.log.events
  unacknowledged : system.row.acknowledged = false
  unapplied : system.row.applicationId = none
  counted : system.row.quarantined = true → 16 ≤ system.row.deliveryCount

variable {sha256 message} {worker : WorkerRecord} {system : System}

/-- An event that spares the worker leaves it running and its result undecided. -/
theorem event_keeps {state next : MutableState} {sequence : Nat} {eventId : String}
    {payload : ConversationEventPayload}
    (applies : EventApplies sha256 state sequence eventId payload next)
    (spared : endsWorker message payload = false)
    (running : state.workers.lookup message.workerId = some worker)
    (undecided : state.logicalDeliveries.lookup message.id = none) :
    next.workers.lookup message.workerId = some worker ∧
      next.logicalDeliveries.lookup message.id = none := by
  cases applies with
  | workerSpawned spawn fresh =>
    have other : message.workerId ≠ spawn.workerId := by
      intro same
      rw [← same, running] at fresh
      cases fresh
    exact ⟨(lookup_setField_ne _ _ _ _ other).trans running, undecided⟩
  | workerCancelled | workerFinished =>
    have other := beq_eq_false_iff_ne.mp spared
    exact ⟨(lookup_setField_ne _ _ _ _ other).trans running, undecided⟩
  | resultAccepted | resultRejected =>
    obtain ⟨other, different⟩ := Bool.or_eq_false_iff.mp spared
    exact ⟨(lookup_setField_ne _ _ _ _ (beq_eq_false_iff_ne.mp other)).trans running,
      (lookup_setField_ne _ _ _ _ (beq_eq_false_iff_ne.mp different)).trans undecided⟩
  | resultUnapplied =>
    have different := beq_eq_false_iff_ne.mp (Bool.or_eq_false_iff.mp spared).2
    exact ⟨running, (lookup_setField_ne _ _ _ _ different).trans undecided⟩
  | _ => exact ⟨running, undecided⟩

/-- So does a batch of such events. -/
theorem appendStep_pending {log : ConversationLog} {drafts : List ConversationEventDraft}
    {state : MutableState} (sound : Sound sha256 log state)
    (spared : drafts.all (spares sha256 message))
    (pending : Pending sha256 message worker state log.events) :
    ∃ next, Sound sha256 (appendStep sha256 log drafts) next ∧
      Pending sha256 message worker next (appendStep sha256 log drafts).events := by
  unfold appendStep
  split
  · next next appended =>
    obtain ⟨other, final, otherSound, extended, rfl⟩ :=
      (appendConversationEvents_ok_iff _ _ _).mp appended
    obtain rfl := Except.ok.inj (sound.replayed.symm.trans otherSound.replayed)
    refine ⟨final.state, (batch_sound extended sound fun _ => rfl).1, ?_⟩
    -- The batch is replayed draft by draft, and each one keeps the result pending.
    refine replay_history (fun before extension => before.all (spares sha256 message) →
      Pending sha256 message worker extension.state extension.events) (fun _ => pending) ?_ extended
      spared
    intro before draft extension next _ appended earlier each
    simp only [List.all_append, List.all_cons, List.all_nil, Bool.and_true, spares, Bool.and_eq_true,
      Bool.not_eq_true', bne_iff_ne] at each
    obtain ⟨eachEarlier, unended, other⟩ := each
    have known := earlier eachEarlier
    obtain ⟨-, ⟨rfl, _⟩ | ⟨_, _, applied, events, _⟩⟩ := appendDraft_cases appended
    · exact known
    · obtain ⟨running, undecided⟩ :=
        event_keeps (applyEvent_applies applied) unended known.running known.undecided
      refine ⟨running, undecided, ?_⟩
      rw [events, List.forall_mem_append]
      exact ⟨known.unwritten, List.forall_mem_singleton.mpr other⟩
  · exact ⟨state, sound, pending⟩

/-- A deferred attempt, a claim and a conversation that spares the worker keep the result
waiting. -/
theorem step_waiting (input : Input) (spared : deferring sha256 message system input)
    (waiting : Waiting sha256 message worker system) :
    Waiting sha256 message worker (step sha256 message system input) := by
  cases input with
  | converse drafts =>
    obtain ⟨state, sound, pending⟩ := waiting.pending
    exact { waiting with pending := appendStep_pending sound spared pending }
  | earlier rows => exact { waiting with }
  | claim claim =>
    rw [step]
    obtain same | ⟨many, quarantined⟩ | ⟨_, leased⟩ :=
      claimRow_cases system.earlier claim system.row
    · rw [same]
      exact waiting
    · rw [quarantined]
      exact { waiting with counted := fun _ => many }
    · rw [leased]
      exact { waiting with counted := fun late => (waiting.counted late).trans (Nat.le_succ _) }
  | attempt attempt =>
    obtain ⟨⟨_, next⟩, deferred, rfl⟩ := Option.map_eq_some_iff.mp (beq_iff_eq.mp spared)
    rw [step, applyResult, deferred]
    exact waiting

/-! ## Delivery -/

/-- The goal of the worker is current, and policy and facts are those it was spawned with. -/
structure Applicable (conversation : MutableState) (worker : WorkerRecord)
    (message : ResultMessage) : Prop
    extends Acceptable conversation worker (workerResultConversationPayload message) where
  active : (conversation.goals.lookup worker.goalId).map ConversationGoal.status = some .active
  declared : dependenciesMatch message.factDependencies worker.dependencies = true

/-- The event that the draft becomes at the end of the log. -/
def draftEvent (sha256 : String → String) (log : ConversationLog) (draft : ConversationEventDraft) :
    ConversationEvent :=
  signEvent sha256 log.conversationId log.events draft

/-- The event passes the schema of the kernel and its size limit. -/
structure EventTaken (sha256 : String → String) (log : ConversationLog)
    (draft : ConversationEventDraft) : Prop where
  schema : ConversationEventSchema (draftEvent sha256 log draft) = true
  small : utf8Bytes (draftEvent sha256 log draft).toValue.text ≤ MAX_EVENT_BYTES

/-- The summary is sent whole, and the database takes the payload. -/
structure PayloadStored (message : ResultMessage) : Prop where
  whole : (utf16 message.summary).length ≤ 4096
  small : databaseBytes (ConversationEventPayload.workerResultDelivered
    (workerResultConversationPayload message)).toValue ≤ 24576

/-- The claim returns the message, and the attempt is accepted and acknowledges it. -/
def Delivers (sha256 : String → String) (message : ResultMessage) (system : System) (claim : Claim)
    (attempt : Attempt) : Prop :=
  (claimRow system.earlier claim system.row).2 = true ∧
    (decided sha256 message system.log).map Prod.fst = some .accepted ∧
    (Runs.run (step sha256 message) system [.claim claim, .attempt attempt]).row.acknowledged = true

section
variable {log : ConversationLog} {state : MutableState} (sound : Sound sha256 log state)
include sound

/-- What appending a draft with a new identity returns. -/
theorem append_new_iff {draft : ConversationEventDraft}
    (unwritten : ∀ event ∈ log.events, event.eventId ≠ draft.eventId)
    (candidate : ConversationLog) :
    appendConversationEvent sha256 log draft = .ok candidate ↔
      EventTaken sha256 log draft ∧
        ∃ next, applyEvent sha256 state (draftEvent sha256 log draft) = .ok next ∧
          candidate = withEvents log (log.events ++ [draftEvent sha256 log draft]) := by
  have missing : log.events.find? (fun event => event.eventId = draft.eventId) = none :=
    List.find?_eq_none.mpr fun event member same =>
      unwritten event member (of_decide_eq_true same)
  rw [appendConversationEvent, appendConversationEvents_ok_iff]
  constructor
  · rintro ⟨other, extension, otherSound, extended, rfl⟩
    obtain rfl := Except.ok.inj (sound.replayed.symm.trans otherSound.replayed)
    obtain ⟨_, appended, same⟩ := (replay_cons_ok_iff _ _).mp extended
    cases same
    simp only [appendDraft, missing, bind_ok_iff, require_ok_iff, pure_ok_iff,
      decide_eq_true_eq] at appended
    obtain ⟨-, -, -, schema, -, small, next, applied, rfl⟩ := appended
    exact ⟨⟨schema, small⟩, next, applied, rfl⟩
  · rintro ⟨taken, next, applied, rfl⟩
    refine ⟨state, ⟨next, _, true⟩, sound, (replay_cons_ok_iff _ _).mpr ⟨_, ?_, rfl⟩, rfl⟩
    have parsed : ConversationEventDraftSchema draft = true := by
      have schema := taken.schema
      simp only [ConversationEventSchema, Bool.and_eq_true] at schema
      exact schema.1.1.1.1.1
    simp only [appendDraft, missing, bind_ok_iff, require_ok_iff, pure_ok_iff, decide_eq_true_eq]
    exact ⟨(), parsed, (), taken.schema, (), taken.small, next, applied, rfl⟩

variable (pending : Pending sha256 message worker state log.events)
include pending

/-- A decision is made only about an event that the kernel takes. -/
theorem taken_of_decided {decision : DeliveryStatus × ConversationLog}
    (made : decided sha256 message log = some decision) :
    EventTaken sha256 log (resultDraft sha256 message) := by
  unfold decided at made
  split at made
  · cases made
  · next candidate appended =>
    exact ((append_new_iff sound pending.unwritten candidate).mp appended).1

/-- Once its goal is current again, a pending result whose event the kernel takes is accepted. -/
theorem decided_accepted (applicable : Applicable state worker message)
    (taken : EventTaken sha256 log (resultDraft sha256 message)) :
    ∃ candidate, decided sha256 message log = some (.accepted, candidate) := by
  obtain ⟨⟨running, goal, current, contract, epoch, dependencies⟩, active, declared⟩ := applicable
  have accepted : decideDelivery state (some worker) (workerResultConversationPayload message) =
      (.accepted, none) := by
    grind [decideDelivery, workerResultConversationPayload]
  have found : state.workers.lookup (workerResultConversationPayload message).workerId =
      some worker := pending.running
  have fresh : state.logicalDeliveries.lookup
      (workerResultConversationPayload message).deliveryId = none := pending.undecided
  obtain ⟨next, record, applied, recorded, identity, status⟩ :
      ∃ next record,
        applyEvent sha256 state (draftEvent sha256 log (resultDraft sha256 message)) = .ok next ∧
        next.deliveries = state.deliveries ++ [record] ∧
        record.eventId = resultEventId sha256 message ∧ record.status = .accepted := by
    simp [applyEvent, draftEvent, signEvent, resultDraft, deliverResult, fresh, settleDelivery,
      found, accepted, deliveryRecord]
  have appended := (append_new_iff sound pending.unwritten _).mpr ⟨taken, next, applied, rfl⟩
  -- The appended log folds to the state after the event, whose last delivery is the event's.
  obtain ⟨final, finalSound⟩ := appendConversationEvents_sound appended
  obtain ⟨middle, replayed, last⟩ := (replay_snoc_ok_iff _ _).mp finalSound.replayed
  obtain rfl := Except.ok.inj (sound.replayed.symm.trans replayed)
  obtain rfl := Except.ok.inj (applied.symm.trans last)
  have folded := (foldConversation_ok_iff _ _).mpr ⟨next, finalSound, rfl⟩
  refine ⟨withEvents log (log.events ++ [draftEvent sha256 log (resultDraft sha256 message)]), ?_⟩
  simp only [decided, appended, folded]
  simp [withEvents, conversationState, recorded, identity, status]

end

/-- A claim at a time at which the row has no lease and no row before it is a candidate returns
it. -/
theorem claimRow_few (waiting : Waiting sha256 message worker system) {claim : Claim}
    (valid : claim.valid)
    (free : system.row.deliveryLeaseExpiresAt.all (decide <| · ≤ claim.now))
    (first : ∀ other ∈ system.earlier, candidate claim.now other = false)
    (few : system.row.deliveryCount < 16) :
    claimRow system.earlier claim system.row = (system.row.lease claim, true) := by
  have room : 0 < claim.maximumMessages := (of_decide_eq_true valid).2.2.1
  have unquarantined : system.row.quarantined = false := by
    by_contra late
    exact absurd (waiting.counted (eq_true_of_ne_false late)) (Nat.not_le.mpr few)
  have unrivalled : system.earlier.filter (candidate claim.now) = [] := by
    simpa [List.filter_eq_nil_iff] using first
  have chosen : candidate claim.now system.row = true := by
    simp [candidate, unleased, free, few, waiting.unacknowledged, unquarantined]
  simp [claimRow, valid, selected, unrivalled, chosen, room, exhausted, Nat.not_le.mpr few]

/-- An attempt applies only a payload that the database takes. -/
theorem stored_of_acknowledged {attempt : Attempt} (waits : system.row.acknowledged = false)
    (applied : (applyResult sha256 message system attempt).row.acknowledged) :
    PayloadStored message := by
  unfold applyResult at applied
  split at applied
  · simp [waits] at applied
  · simp [waits] at applied
  split at applied
  · simp [waits] at applied
  · next sent =>
    obtain ⟨whole, small⟩ := not_or.mp sent
    have lengths := congrArg List.length (not_not.mp whole)
    rw [advisoryUnits, List.length_take] at lengths
    exact ⟨by omega, Nat.not_lt.mp small⟩

/-- In every run in which the attempts on a result are deferred: the message is not acknowledged,
it is quarantined only after sixteen claims that returned it, and once its goal is current again a
claim at a time at which no lease is held and no row before it is a candidate delivers it exactly
if fewer claims returned it, the kernel takes its event and the database its payload. -/
theorem deferred_result_delivered_iff (sha256 : String → String) (message : ResultMessage)
    (worker : WorkerRecord) (initial : System) (inputs : List Input)
    (waiting : Waiting sha256 message worker initial)
    (deferred : Runs.Meets (step sha256 message) (deferring sha256 message · ·) initial inputs) :
    let system := Runs.run (step sha256 message) initial inputs
    system.row.acknowledged = false ∧
      (system.row.quarantined = true → 16 ≤ system.row.deliveryCount) ∧
      ∀ conversation, replayEvents sha256 system.log.events = .ok conversation →
        Applicable conversation worker message → ∀ claim attempt, claim.valid = true →
        system.row.deliveryLeaseExpiresAt.all (decide <| · ≤ claim.now) = true →
        (∀ other ∈ system.earlier, candidate claim.now other = false) →
        attempt.deliveryToken = claim.deliveryToken → attempt.now < claim.now + claim.leaseMs →
        (Delivers sha256 message system claim attempt ↔
          system.row.deliveryCount < 16 ∧ EventTaken sha256 system.log (resultDraft sha256 message) ∧
            PayloadStored message) := by
  intro system
  have waits : Waiting sha256 message worker system := Runs.run_invariant_meets
    (Waiting sha256 message worker) waiting (fun _ input spared => step_waiting input spared) inputs
    deferred
  refine ⟨waits.unacknowledged, waits.counted, ?_⟩
  intro conversation replayed applicable claim attempt valid free first token leased
  obtain ⟨state, sound, pending⟩ := waits.pending
  obtain rfl := Except.ok.inj (sound.replayed.symm.trans replayed)
  constructor
  · rintro ⟨returned, accepted, acknowledged⟩
    obtain ⟨decision, made, -⟩ := Option.map_eq_some_iff.mp accepted
    refine ⟨?_, taken_of_decided sound pending made, stored_of_acknowledged
      (step_waiting (.claim claim) rfl waits).unacknowledged acknowledged⟩
    obtain same | ⟨_, same⟩ | ⟨few, _⟩ := claimRow_cases system.earlier claim system.row
    · simp [same] at returned
    · simp [same] at returned
    · exact few
  · rintro ⟨few, taken, stored⟩
    have claimed := claimRow_few waits valid free first few
    obtain ⟨candidate, accepted⟩ := decided_accepted sound pending applicable taken
    refine ⟨by rw [claimed], by rw [accepted]; rfl, ?_⟩
    have sent : advisoryUnits message = utf16 message.summary :=
      List.take_of_length_le stored.whole
    simp [step, applyResult, accepted, sent, claimed, applyInbox, InboxRow.lease, waits.unapplied,
      token, Nat.not_le.mpr leased, resultDraft, Nat.not_lt.mpr stored.small]

/-! ## A long suspension -/

/-- Claims and attempts of live routes. -/
def routed : Input → Bool
  | .claim _ | .attempt _ => true
  | _ => false

/-- The row after an input, as far as claims change it. -/
def claimStep (earlier : List InboxRow) (row : InboxRow) : Input → InboxRow
  | .claim claim => (claimRow earlier claim row).1
  | _ => row

/-- While the kernel defers the result, live routes change its row by their claims and nothing
else. -/
theorem deferred_routes (inputs after : List Input) (routes : inputs.all routed = true)
    (deferred : (decided sha256 message system.log).map Prod.fst = some .deferred) :
    Runs.run (step sha256 message) system inputs =
        { system with row := Runs.run (claimStep system.earlier) system.row inputs } ∧
      (Runs.Meets (step sha256 message) (deferring sha256 message · ·)
          { system with row := Runs.run (claimStep system.earlier) system.row inputs } after →
        Runs.Meets (step sha256 message) (deferring sha256 message · ·)
          system (inputs ++ after)) := by
  induction inputs generalizing system with
  | nil => exact ⟨rfl, id⟩
  | cons input rest ih =>
    obtain ⟨route, routes⟩ := Bool.and_eq_true_iff.mp routes
    cases input with
    | converse | earlier => cases route
    | claim claim =>
      have later := @ih (step sha256 message system (.claim claim)) routes deferred
      exact ⟨later.1, fun met => ⟨rfl, later.2 met⟩⟩
    | attempt attempt =>
      have unchanged : step sha256 message system (.attempt attempt) = system := by
        obtain ⟨⟨_, next⟩, decision, rfl⟩ := Option.map_eq_some_iff.mp deferred
        rw [step, applyResult, decision]
      have later := ih routes deferred
      rw [Runs.run_cons, Runs.run_cons, List.cons_append, Runs.Meets, unchanged]
      exact ⟨later.1, fun met => ⟨beq_iff_eq.mpr deferred, later.2 met⟩⟩

/-- The results hold for every digest; this one spares the run its hashing. -/
def fixedDigest (_ : String) : String := GENESIS_HASH

/-- A worker has priced a plan. -/
def quoteResult : ResultMessage :=
  ⟨"message", "worker", "goal", 0, [], [⟨"price", .string "9", ["v1"]⟩], "Quoted.", GENESIS_HASH, 0⟩

def quoteWorker : WorkerRecord := ⟨"worker", "goal", "quote", 0, [], 2, .running⟩

/-- An event of the call, under the fixed digest. -/
def callEvent (sequence : Nat) (eventId : String) (payload : ConversationEventPayload) :
    ConversationEvent :=
  ⟨1, "call-1", sequence, GENESIS_HASH, eventId, 0, payload, GENESIS_HASH⟩

/-- Its goal has been suspended. -/
def suspendedQuote : System where
  log := ⟨1, "call-1", [callEvent 1 "e1" (.goalActivated "goal" "Quote"),
    callEvent 2 "e2" (.workerSpawned ⟨"worker", "goal", "quote", 0, []⟩),
    callEvent 3 "e3" (.goalSuspended "goal" "Interrupted")]⟩
  row := ⟨none, none, 0, none, false, false⟩
  earlier := []

/-- A claim every thirty seconds, as the leases run out. -/
def deferrals (count : Nat) : List Input :=
  (List.range count).flatMap fun turn =>
    [.claim ⟨"route", 30000, 16, 30000 * turn⟩, .attempt ⟨"route", "application", 30000 * turn⟩]

theorem suspended_quote_valid : validateConversationLog fixedDigest suspendedQuote.log = .ok () := by
  decide +kernel

theorem suspended_quote_waits : Waiting fixedDigest quoteResult quoteWorker suspendedQuote :=
  ⟨⟨_, ⟨suspended_quote_valid, rfl⟩, rfl, rfl, by decide +kernel⟩, rfl, rfl, nofun⟩

theorem suspended_quote_deferred :
    (decided fixedDigest quoteResult suspendedQuote.log).map Prod.fst = some .deferred := by
  decide +kernel

/-- The goal is resumed. -/
def resumption : ConversationEventDraft := ⟨"e4", 0, .goalResumed "goal"⟩

theorem resumption_appended : appendStep fixedDigest suspendedQuote.log [resumption] =
    withEvents suspendedQuote.log
      (suspendedQuote.log.events ++ [callEvent 4 "e4" (.goalResumed "goal")]) := by
  have unwritten : ∀ event ∈ suspendedQuote.log.events, event.eventId ≠ resumption.eventId := by
    decide +kernel
  have taken : EventTaken fixedDigest suspendedQuote.log resumption :=
    ⟨by decide +kernel, by decide +kernel⟩
  have appended :=
    (append_new_iff ⟨suspended_quote_valid, rfl⟩ unwritten _).mpr ⟨taken, _, rfl, rfl⟩
  rw [appendStep, ← appendConversationEvent, appended]
  rfl

/-- Two deferrals, the resumption, and a claim that delivers the quote. -/
theorem resumed_quote_delivered : Delivers fixedDigest quoteResult
    (Runs.run (step fixedDigest quoteResult) suspendedQuote
      (deferrals 2 ++ [.converse [resumption]]))
    ⟨"route", 30000, 16, 60000⟩ ⟨"route", "application", 60000⟩ := by
  obtain ⟨reached, met⟩ := deferred_routes (deferrals 2) [.converse [resumption]] (by decide)
    suspended_quote_deferred
  have spared : deferring fixedDigest quoteResult suspendedQuote (.converse [resumption]) := by
    decide +kernel
  obtain ⟨_, _, delivers⟩ := deferred_result_delivered_iff fixedDigest quoteResult quoteWorker
    suspendedQuote (deferrals 2 ++ [.converse [resumption]]) suspended_quote_waits
    (met ⟨spared, trivial⟩)
  rw [Runs.run_snoc, reached, step, resumption_appended] at delivers ⊢
  refine (delivers _ rfl ⟨⟨rfl, rfl, rfl, rfl, rfl, nofun⟩, rfl, by decide⟩ _ _ rfl rfl nofun rfl
    (by decide)).mpr ⟨by decide, ⟨by decide +kernel, by decide +kernel⟩, ?_⟩
  exact ⟨by decide +kernel, by decide +kernel⟩

/-- Sixteen deferrals, and the next claim quarantines the quote. -/
theorem long_suspension_quarantines : Runs.Meets (step fixedDigest quoteResult)
        (deferring fixedDigest quoteResult · ·) suspendedQuote
        (deferrals 16) ∧
      (Runs.run (step fixedDigest quoteResult) suspendedQuote
        (deferrals 16 ++ [.claim ⟨"route", 30000, 16, 480000⟩])).row.quarantined = true := by
  obtain ⟨_, met⟩ := deferred_routes (deferrals 16) [] (by decide) suspended_quote_deferred
  refine ⟨by simpa using met trivial, ?_⟩
  rw [(deferred_routes _ [] (by decide) suspended_quote_deferred).1]
  decide +kernel

end CallCenter.DeferredResults
