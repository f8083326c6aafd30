import CallCenter.AudibilityRanges
import CallCenter.Runs

/-!
# Transitions of the audibility ledger

One inversion for the events of a registered response and one for the ledger: what an
accepted event has been checked for, and the state it leads to. An invariant of the stored
responses follows from its preservation by the ten events of a response.
-/

namespace CallCenter.AudibilityTransitions

open ObjectFields Guards Runs
open AudibilityEvents AudibilityReducer

/-! ## Reads -/

variable {α : Type} {key : String} {ledger : AudibilityLedger}

variable {fields : List (String × α)}

theorem readProperty_own_iff {value : α} :
    readProperty fields key = .own value ↔ fields.lookup key = some value := by
  unfold readProperty
  cases found : fields.lookup key with
  | some => simp
  | none =>
    by_cases inherited : key ∈ INHERITED_NAMES
    · simp [inherited]
    · simp [inherited]

theorem readProperty_inherited_iff :
    readProperty fields key = .inherited ↔ fields.lookup key = none ∧ key ∈ INHERITED_NAMES := by
  unfold readProperty
  cases found : fields.lookup key with
  | some => simp
  | none =>
    by_cases inherited : key ∈ INHERITED_NAMES
    · simp [inherited]
    · simp [inherited]

theorem readProperty_missing_iff :
    readProperty fields key = .missing ↔ fields.lookup key = none ∧ key ∉ INHERITED_NAMES := by
  unfold readProperty
  cases found : fields.lookup key with
  | some => simp
  | none =>
    by_cases inherited : key ∈ INHERITED_NAMES
    · simp [inherited]
    · simp [inherited]

theorem not_found_iff : (readProperty fields key).found = false ↔
      fields.lookup key = none ∧ key ∉ INHERITED_NAMES := by
  rw [← readProperty_missing_iff]
  cases readProperty fields key with
  | own value | inherited | missing => simp [Property.found]

/-- An object lists the values of its fields. -/
theorem mem_objectValues {value : α} :
    value ∈ objectValues fields ↔ ∃ key, (key, value) ∈ fields := by
  simp only [objectValues, List.mem_map, List.mem_append, List.mem_insertionSort, List.mem_filter,
    Prod.exists, exists_eq_right]
  constructor
  · rintro ⟨key, ⟨member, -⟩ | ⟨member, -⟩⟩
    · exact ⟨key, member⟩
    · exact ⟨key, member⟩
  · rintro ⟨key, member⟩
    refine ⟨key, ?_⟩
    cases index : arrayIndex key with
    | some => exact Or.inl ⟨member, by simp⟩
    | none => exact Or.inr ⟨member, by simp⟩

variable {current : AudibilityResponseLedger}

theorem mem_intersectingClaims {range : SampleRange} {claim : TerminalClaim} :
    claim ∈ intersectingClaims current range ↔
      (∃ key, (key, claim) ∈ current.claims) ∧ rangesOverlap claim.range range = true := by
  rw [intersectingClaims, List.mem_filter, mem_objectValues]

/-- The listed grants include one for every claim in the range. -/
def ClaimsGranted (current : AudibilityResponseLedger) (range : SampleRange)
    (claimGrantIds : List String) : Prop :=
  ∀ claim ∈ intersectingClaims current range, ∃ grantId ∈ claimGrantIds, ∃ grant,
    current.grants.lookup grantId = some grant ∧ grant.claimId = claim.claimId

theorem everyClaimGranted_iff (current : AudibilityResponseLedger) (range : SampleRange)
    (claimGrantIds : List String) :
    everyClaimGranted current range claimGrantIds = true ↔
      ClaimsGranted current range claimGrantIds := by
  simp only [everyClaimGranted, ClaimsGranted, List.all_eq_true, List.any_eq_true,
    List.mem_filterMap]
  refine forall₂_congr fun claim _ => ?_
  constructor
  · rintro ⟨found, ⟨grantId, listed, read⟩, granted⟩
    refine ⟨grantId, listed, ?_⟩
    unfold readGrant at read
    cases property : readProperty current.grants grantId with
    | own grant =>
      rw [property] at read
      cases read
      refine ⟨grant, readProperty_own_iff.mp property, ?_⟩
      simpa [grantsClaim] using granted
    | inherited =>
      rw [property] at read
      cases read
      simp [grantsClaim] at granted
    | missing =>
      rw [property] at read
      cases read
  · rintro ⟨grantId, listed, grant, stored, same⟩
    refine ⟨some grant, ⟨grantId, listed, ?_⟩, by simp [grantsClaim, same]⟩
    rw [readGrant, readProperty_own_iff.mpr stored]

/-- A request is granted: its claims have grants and the response is not sealed. -/
def Releasing (current : AudibilityResponseLedger) (range : SampleRange)
    (claimGrantIds : List String) : Prop :=
  ClaimsGranted current range claimGrantIds ∧ current.playbackSealed = false

theorem released_iff {evidence : AudibilityEvidenceReference} {decisionId : String}
    {range : SampleRange} {claimGrantIds : List String} :
    (decideRelease current evidence decisionId range claimGrantIds).outcome = .released ↔
      Releasing current range claimGrantIds := by
  unfold Releasing
  rw [← everyClaimGranted_iff]
  simp only [decideRelease]
  cases everyClaimGranted current range claimGrantIds with
  | false => simp
  | true =>
    cases current.playbackSealed with
    | false | true => simp

/-! ## Events of a response -/

section Response
variable (current : AudibilityResponseLedger) (evidence : AudibilityEvidenceReference)

/-- The ranges of the decisions that an acknowledgement names. -/
def namedRanges (releaseDecisionIds : List String) : List SampleRange :=
  (releaseDecisionIds.map (findDecision current)).filterMap fun decision =>
    decision.map ReleaseDecision.range

/-- The decision can be acknowledged. -/
structure Playable (decision : ReleaseDecision) : Prop where
  recorded : decision ∈ current.releaseDecisions
  released : decision.outcome = .released
  current : decision.queueEpoch = current.queueEpoch

/-- The response that a payload leads to, with what it was checked for. -/
inductive ResponseApplies (responseId : String) :
    AudibilityPayload → AudibilityResponseLedger → Prop where
  | chunk (chunkId : String) (ordinal sampleCount : Nat) (pcmSha256 : String)
      (opened : current.generationClosed = false)
      (room : current.chunks.length < MAX_CHUNKS_PER_RESPONSE)
      (contiguous : ordinal = current.chunks.length)
      (fresh : ∀ chunk ∈ current.chunks, chunk.chunkId ≠ chunkId)
      (safe : current.generatedSampleCount + sampleCount ≤ MAX_SAFE_INTEGER) :
      ResponseApplies responseId (.pcmChunkGenerated chunkId ordinal sampleCount pcmSha256)
        { current with
          generatedSampleCount := current.generatedSampleCount + sampleCount
          chunks := current.chunks ++ [⟨chunkId, ordinal,
            ⟨current.generatedSampleCount, current.generatedSampleCount + sampleCount⟩,
            sampleCount, pcmSha256, evidence⟩] }
  | closed (opened : current.generationClosed = false) :
      ResponseApplies responseId .generationClosed { current with generationClosed := true }
  | claim (claimId : String) (kind : ClaimKind) (range : SampleRange) (contentSha256 : String)
      (fresh : current.claims.lookup claimId = none) (plain : claimId ∉ INHERITED_NAMES)
      (inside : range.stop ≤ current.generatedSampleCount)
      (unreleased : ∀ decision ∈ current.releaseDecisions, decision.outcome = .released →
        rangesOverlap decision.range range = false) :
      ResponseApplies responseId (.terminalClaimRegistered claimId kind range contentSha256)
        { current with
          claims :=
            setField current.claims claimId ⟨claimId, kind, range, contentSha256, evidence⟩ }
  | grant (grantId : String) (authority : VerifiedClaimGrantAuthority) (claim : TerminalClaim)
      (bound : authority.responseId = responseId)
      (registered : current.claims.lookup authority.claimId = some claim)
      (matching : claim.contentSha256 = authority.claimContentSha256)
      (fresh : current.grants.lookup grantId = none) (plain : grantId ∉ INHERITED_NAMES) :
      ResponseApplies responseId (.claimGrantIssued grantId authority) { current with
          grants := setField current.grants grantId (grantOf evidence grantId authority) }
  | release (decisionId : String) (range : SampleRange) (claimGrantIds : List String)
      (fresh : ∀ decision ∈ current.releaseDecisions, decision.decisionId ≠ decisionId)
      (inside : range.stop ≤ current.generatedSampleCount) :
      ResponseApplies responseId (.releaseRequested decisionId range claimGrantIds) { current with
          releaseDecisions := current.releaseDecisions ++
            [decideRelease current evidence decisionId range claimGrantIds] }
  | acknowledgement (acknowledgementId : String) (ranges : List SampleRange)
      (releaseDecisionIds : List String)
      (fresh : ∀ known ∈ current.playbackAcknowledgements,
        known.acknowledgementId ≠ acknowledgementId)
      (playable : ∀ decisionId ∈ releaseDecisionIds, ∃ decision,
        findDecision current decisionId = some decision ∧ Playable current decision)
      (inside : ∀ range ∈ ranges,
        coversRange (namedRanges current releaseDecisionIds) range = true) :
      ResponseApplies responseId (.playbackAcknowledged acknowledgementId ranges releaseDecisionIds)
        { current with
          playbackAcknowledgements := current.playbackAcknowledgements ++
            [⟨acknowledgementId, normalizeSampleRanges ranges, releaseDecisionIds,
              current.queueEpoch, evidence⟩]
          acknowledgedPlayedRanges := normalizeSampleRanges
            (current.acknowledgedPlayedRanges ++ normalizeSampleRanges ranges) }
  | cleared (clearId : String) (reason : ClearReason)
      (fresh : ∀ clear ∈ current.clears, clear.clearId ≠ clearId) :
      ResponseApplies responseId (.playbackCleared clearId reason) { current with
          clears := current.clears ++ [⟨clearId, reason,
            subtractRanges (releasedThisEpoch current) (acknowledgedThisEpoch current),
            current.queueEpoch, evidence⟩]
          queueEpoch := current.queueEpoch + 1
          playbackSealed := current.playbackSealed || decide (reason ≠ .other) }
  | confirmation (confirmationId clearId : String) (ranges : List SampleRange)
      (clear : PlaybackClear)
      (fresh : ∀ known ∈ current.deliveryClearConfirmations, known.confirmationId ≠ confirmationId)
      (found : findClear current clearId = some clear)
      (inside : ∀ range ∈ ranges, coversRange clear.clearedRanges range = true) :
      ResponseApplies responseId (.deliveryClearConfirmed confirmationId clearId ranges)
        { current with
          deliveryClearConfirmations := current.deliveryClearConfirmations ++
            [⟨confirmationId, clearId, normalizeSampleRanges ranges, evidence⟩] }
  | bargeIn (bargeInId clearId : String) (clear : PlaybackClear)
      (fresh : ∀ known ∈ current.bargeIns, known.bargeInId ≠ bargeInId)
      (found : findClear current clearId = some clear) (reason : clear.reason = .bargeIn) :
      ResponseApplies responseId (.bargeInRecorded bargeInId clearId) { current with
          playbackSealed := true
          bargeIns := current.bargeIns ++
            [⟨bargeInId, clearId, current.acknowledgedPlayedRanges, evidence⟩] }
  | truncation (truncationId : String) (retainedThroughSample : Nat)
      (fresh : ∀ known ∈ current.truncations, known.truncationId ≠ truncationId)
      (inside : retainedThroughSample ≤ current.generatedSampleCount) :
      ResponseApplies responseId (.providerHistoryTruncated truncationId retainedThroughSample)
        { current with
          truncations :=
            current.truncations ++ [⟨truncationId, retainedThroughSample, evidence⟩] }

end Response

section Inversion
variable {current next : AudibilityResponseLedger} {evidence : AudibilityEvidenceReference}
  {responseId : String}

theorem requireClaim_ok {authority : VerifiedClaimGrantAuthority}
    (passed : requireClaim current authority = .ok ()) :
    ∃ claim, current.claims.lookup authority.claimId = some claim ∧
      claim.contentSha256 = authority.claimContentSha256 := by
  unfold requireClaim at passed
  cases read : readProperty current.claims authority.claimId with
  | missing | inherited => simp [read] at passed
  | own claim =>
    simp only [read, require_ok_iff, decide_eq_true_eq] at passed
    exact ⟨claim, readProperty_own_iff.mp read, passed⟩

variable {clearId : String}

theorem findClear_spec {clear : PlaybackClear} (found : findClear current clearId = some clear) :
    clear ∈ current.clears ∧ clear.clearId = clearId := by
  refine ⟨List.mem_of_find?_eq_some found, ?_⟩
  simpa using List.find?_some found

theorem acknowledgePlayback_applies {acknowledgementId : String} {ranges : List SampleRange}
    {releaseDecisionIds : List String}
    (applied : acknowledgePlayback current evidence acknowledgementId ranges releaseDecisionIds =
      .ok next) :
    ResponseApplies current evidence responseId
      (.playbackAcknowledged acknowledgementId ranges releaseDecisionIds) next := by
  simp only [acknowledgePlayback, guarded_ok_iff, pure_ok_iff, Bool.not_eq_true', List.any_eq_false,
    decide_eq_true_eq, List.mem_map, forall_exists_index, and_imp, forall_apply_eq_imp_iff₂,
    not_not, Bool.not_eq_false] at applied
  obtain ⟨fresh, released, epochs, inside, rfl⟩ := applied
  refine .acknowledgement acknowledgementId ranges releaseDecisionIds fresh ?_ inside
  intro decisionId listed
  have wasReleased := released decisionId listed
  have sameEpoch := epochs decisionId listed
  cases found : findDecision current decisionId with
  | none =>
    rw [found] at wasReleased
    cases wasReleased
  | some decision =>
    rw [found] at wasReleased sameEpoch
    refine ⟨decision, rfl, List.mem_of_find?_eq_some found, ?_, ?_⟩
    · exact of_decide_eq_true wasReleased
    · exact Option.some.inj sameEpoch

theorem confirmDeliveryClear_applies {confirmationId : String} {ranges : List SampleRange}
    (applied : confirmDeliveryClear current evidence confirmationId clearId ranges = .ok next) :
    ResponseApplies current evidence responseId
      (.deliveryClearConfirmed confirmationId clearId ranges) next := by
  simp only [confirmDeliveryClear, guarded_ok_iff, Bool.not_eq_true', List.any_eq_false,
    decide_eq_true_eq] at applied
  obtain ⟨fresh, confirmed⟩ := applied
  cases found : findClear current clearId with
  | none =>
    rw [found] at confirmed
    cases confirmed
  | some clear =>
    rw [found] at confirmed
    simp only [guarded_ok_iff, pure_ok_iff, Bool.not_eq_true', List.any_eq_false, Bool.not_eq_false]
      at confirmed
    obtain ⟨inside, rfl⟩ := confirmed
    exact .confirmation confirmationId clearId ranges clear fresh found inside

theorem applyToResponse_applies {payload : AudibilityPayload}
    (applied : applyToResponse current evidence responseId payload = .ok next) :
    ResponseApplies current evidence responseId payload next := by
  cases payload with try simp only [applyToResponse, appendChunk, closeGeneration, registerClaim,
      requestRelease, clearPlayback, recordBargeIn, truncateHistory, guarded_ok_iff, pure_ok_iff,
      Bool.not_eq_true', List.any_eq_false, decide_eq_true_eq] at applied
  | responseRegistered => cases applied
  | pcmChunkGenerated chunkId ordinal sampleCount pcmSha256 =>
    simp only [isSafeInteger, Bool.and_eq_true, decide_eq_true_eq] at applied
    obtain ⟨opened, room, contiguous, fresh, ⟨safe, -⟩, rfl⟩ := applied
    exact .chunk chunkId ordinal sampleCount pcmSha256 opened room contiguous fresh safe
  | generationClosed =>
    obtain ⟨opened, rfl⟩ := applied
    exact .closed opened
  | terminalClaimRegistered claimId kind range contentSha256 =>
    simp only [not_found_iff] at applied
    obtain ⟨⟨fresh, plain⟩, inside, unreleased, rfl⟩ := applied
    refine .claim claimId kind range contentSha256 fresh plain inside ?_
    intro decision member released
    simpa [released] using unreleased decision member
  | claimGrantIssued grantId authority =>
    simp only [issueGrant, bind_ok_iff, require_ok_iff, pure_ok_iff, exists_const,
      Bool.not_eq_true', decide_eq_true_eq, not_found_iff] at applied
    obtain ⟨bound, _, passed, ⟨fresh, plain⟩, rfl⟩ := applied
    obtain ⟨claim, registered, matching⟩ := requireClaim_ok passed
    exact .grant grantId authority claim bound registered matching fresh plain
  | releaseRequested decisionId range claimGrantIds =>
    obtain ⟨fresh, inside, -, -, rfl⟩ := applied
    exact .release decisionId range claimGrantIds fresh inside
  | playbackAcknowledged => exact acknowledgePlayback_applies applied
  | playbackCleared clearId reason =>
    obtain ⟨fresh, rfl⟩ := applied
    exact .cleared clearId reason fresh
  | deliveryClearConfirmed => exact confirmDeliveryClear_applies applied
  | bargeInRecorded bargeInId clearId =>
    obtain ⟨fresh, barged, rfl⟩ := applied
    cases found : findClear current clearId with rw [found] at barged
    | none => cases barged
    | some clear => exact .bargeIn bargeInId clearId clear fresh found (of_decide_eq_true barged)
  | providerHistoryTruncated truncationId retainedThroughSample =>
    obtain ⟨fresh, inside, rfl⟩ := applied
    exact .truncation truncationId retainedThroughSample fresh inside

theorem ResponseApplies.sameResponse {payload : AudibilityPayload}
    (applies : ResponseApplies current evidence responseId payload next) :
    next.responseId = current.responseId := by
  cases applies with
  | chunk | closed | claim | grant | release | acknowledgement | cleared | confirmation | bargeIn
    | truncation => rfl

end Inversion

/-! ## Events of the ledger -/

/-- The ledger that an event in turn leads to. -/
inductive LedgerApplies (state : AudibilityLedger) (event : AudibilityLedgerEvent) :
    AudibilityLedger → Prop where
  | registered (sampleRateHz channels : Nat)
      (payload : event.payload = .responseRegistered sampleRateHz channels)
      (fresh : state.responses.lookup event.responseId = none)
      (plain : event.responseId ∉ INHERITED_NAMES) :
      LedgerApplies state event (withResponse state event event.responseId
        (.ledger (newResponse event.responseId sampleRateHz channels)) true)
  | updated (current next : AudibilityResponseLedger)
      (found : state.responses.lookup event.responseId = some (.ledger current))
      (applies : ResponseApplies current event.evidence event.responseId event.payload next) :
      LedgerApplies state event (withResponse state event next.responseId (.ledger next) false)
  | strayed (payload : event.payload = .generationClosed)
      (inherited : event.responseId ∈ INHERITED_NAMES)
      (fresh : state.responses.lookup event.responseId = none) :
      LedgerApplies state event (withResponse state event "undefined" .closedOnly false)

/-- The event is the next one of the ledger's session. -/
structure InTurn (state : AudibilityLedger) (event : AudibilityLedgerEvent) : Prop where
  valid : validateEvent event = true
  session : event.sessionId = state.sessionId
  sequence : event.sequence = state.revision + 1

section Ledger
variable {state next : AudibilityLedger} {event : AudibilityLedgerEvent} {applied duplicate : Bool}

theorem applyBare_accepted {closed : Bool}
    (accepted : applyBare state event closed = .accepted next applied duplicate) :
    event.payload = .generationClosed ∧ closed = false ∧
      applyResponse state event "undefined" .closedOnly false =
        .accepted next applied duplicate := by
  unfold applyBare at accepted
  cases payload : event.payload with
  | generationClosed =>
    cases closed with
    | true => simp [payload] at accepted
    | false => exact ⟨rfl, rfl, by simpa [payload] using accepted⟩
  | pcmChunkGenerated =>
    cases closed with
    | true | false => simp [payload] at accepted
  | claimGrantIssued =>
    rw [payload] at accepted
    dsimp only at accepted
    split_ifs at accepted
  | responseRegistered | terminalClaimRegistered | releaseRequested | playbackAcknowledged
    | playbackCleared | deliveryClearConfirmed | bargeInRecorded | providerHistoryTruncated =>
    simp [payload] at accepted

theorem applyResponse_accepted {key : String} {entry : ResponseEntry} {isNew : Bool}
    (accepted : applyResponse state event key entry isNew = .accepted next applied duplicate) :
    next = withResponse state event key entry isNew ∧ applied = true ∧ duplicate = false := by
  unfold applyResponse at accepted
  injection accepted with state applied duplicate
  exact ⟨state.symm, applied.symm, duplicate.symm⟩

theorem applyNext_accepted (accepted : applyNext state event = .accepted next applied duplicate) :
    LedgerApplies state event next ∧ applied = true ∧ duplicate = false := by
  unfold applyNext at accepted
  cases read : readProperty state.responses event.responseId with
  | missing =>
    obtain ⟨fresh, plain⟩ := readProperty_missing_iff.mp read
    rw [read] at accepted
    cases payload : event.payload with
    | responseRegistered sampleRateHz channels =>
      rw [payload] at accepted
      obtain ⟨rfl, flags⟩ := applyResponse_accepted accepted
      exact ⟨.registered sampleRateHz channels payload fresh plain, flags⟩
    | pcmChunkGenerated | generationClosed | terminalClaimRegistered | claimGrantIssued
      | releaseRequested | playbackAcknowledged | playbackCleared | deliveryClearConfirmed
      | bargeInRecorded | providerHistoryTruncated => simp [payload] at accepted
  | inherited =>
    obtain ⟨fresh, inherited⟩ := readProperty_inherited_iff.mp read
    rw [read] at accepted
    obtain ⟨payload, -, stored⟩ := applyBare_accepted accepted
    obtain ⟨rfl, flags⟩ := applyResponse_accepted stored
    exact ⟨.strayed payload inherited fresh, flags⟩
  | own entry =>
    have found := readProperty_own_iff.mp read
    rw [read] at accepted
    cases entry with
    | closedOnly =>
      obtain ⟨-, closed, -⟩ := applyBare_accepted accepted
      cases closed
    | ledger current =>
      cases result : applyToResponse current event.evidence event.responseId event.payload with
      | error => simp [result] at accepted
      | ok updated =>
        simp only [result] at accepted
        obtain ⟨rfl, flags⟩ := applyResponse_accepted accepted
        exact ⟨.updated current updated found (applyToResponse_applies result), flags⟩

/-- An accepted event is a retry that changes nothing, or is applied in turn. -/
theorem accepted_cases
    (accepted : applyAudibilityLedgerEvent state event = .accepted next applied duplicate) :
    (next = state ∧ applied = false ∧ duplicate = true) ∨
      (InTurn state event ∧ LedgerApplies state event next ∧ applied = true ∧
        duplicate = false) := by
  unfold applyAudibilityLedgerEvent at accepted
  split_ifs at accepted with valid session earlier same sequence
  · left
    injection accepted with state applied duplicate
    exact ⟨state.symm, applied.symm, duplicate.symm⟩
  · right
    exact ⟨⟨valid, session, sequence⟩, applyNext_accepted accepted⟩

end Ledger

/-! ## Runs -/

/-- The ledger after an event; a refusal leaves it as it is. -/
def afterEvent (state : AudibilityLedger) (event : AudibilityLedgerEvent) : AudibilityLedger :=
  match applyAudibilityLedgerEvent state event with
  | .accepted next _ _ => next
  | _ => state

theorem afterEvent_cases (state : AudibilityLedger) (event : AudibilityLedgerEvent) :
    afterEvent state event = state ∨
      InTurn state event ∧ LedgerApplies state event (afterEvent state event) := by
  unfold afterEvent
  cases result : applyAudibilityLedgerEvent state event with
  | failure kept code error | thrown => exact Or.inl rfl
  | accepted =>
    rcases accepted_cases result with ⟨same, -, -⟩ | ⟨turn, applies, -, -⟩
    · exact Or.inl same
    · exact Or.inr ⟨turn, applies⟩

variable {state : AudibilityLedger} {event : AudibilityLedgerEvent}

/-- A stored response is the one just written or was stored before. -/
theorem lookup_withResponse {asked : String} {entry found : ResponseEntry} {isNew : Bool}
    (stored : (withResponse state event key entry isNew).responses.lookup asked = some found) :
    (asked = key ∧ found = entry) ∨ (asked ≠ key ∧ state.responses.lookup asked = some found) := by
  change (setField state.responses key entry).lookup asked = some found at stored
  by_cases same : asked = key
  · subst same
    rw [lookup_setField_self] at stored
    exact Or.inl ⟨rfl, (Option.some.inj stored).symm⟩
  · rw [lookup_setField_ne _ _ _ _ same] at stored
    exact Or.inr ⟨same, stored⟩

/-- Every stored ledger is stored under its own name and has the property. -/
def EveryResponse (Property : AudibilityResponseLedger → Prop) (state : AudibilityLedger) : Prop :=
  ∀ key response, state.responses.lookup key = some (.ledger response) →
    response.responseId = key ∧ Property response

variable {Property : AudibilityResponseLedger → Prop}

/-- A property that the events of a response preserve is preserved by the events of the
ledger. The condition may exclude events, given the response they are about. -/
theorem everyResponse_step (base : ∀ responseId sampleRateHz channels,
      Property (newResponse responseId sampleRateHz channels))
    (preserved : ∀ current next, InTurn state event →
      state.responses.lookup event.responseId = some (.ledger current) →
      ResponseApplies current event.evidence event.responseId event.payload next →
      Property current → Property next) (before : EveryResponse Property state) :
    EveryResponse Property (afterEvent state event) := by
  rcases afterEvent_cases state event with same | ⟨turn, applies⟩
  · rw [same]
    exact before
  intro key response stored
  generalize afterEvent state event = after at applies stored
  cases applies with
  | registered =>
    rcases lookup_withResponse stored with ⟨rfl, written⟩ | ⟨-, kept⟩
    · cases written
      exact ⟨rfl, base _ _ _⟩
    · exact before key response kept
  | updated current next found applies =>
    rcases lookup_withResponse stored with ⟨rfl, written⟩ | ⟨-, kept⟩
    · cases written
      exact ⟨rfl, preserved current response turn found applies (before _ current found).2⟩
    · exact before key response kept
  | strayed =>
    rcases lookup_withResponse stored with ⟨-, written⟩ | ⟨-, kept⟩
    · cases written
    · exact before key response kept

/-- A new ledger stores nothing. -/
theorem createAudibilityLedger_ok {sessionId : String} {initial : AudibilityLedger}
    (created : createAudibilityLedger sessionId = .ok initial) :
    initial = ⟨sessionId, 0, [], [], []⟩ := by
  unfold createAudibilityLedger at created
  split_ifs at created
  cases created
  rfl

/-- The ledger is reached from a new one by some events. -/
def Reachable (ledger : AudibilityLedger) : Prop :=
  ∃ sessionId initial events, createAudibilityLedger sessionId = .ok initial ∧
    run afterEvent initial events = ledger

theorem reachable_invariant (Invariant : AudibilityLedger → Prop)
    (base : ∀ sessionId, Invariant ⟨sessionId, 0, [], [], []⟩)
    (preserved : ∀ state event, Invariant state → Invariant (afterEvent state event))
    (reachable : Reachable ledger) : Invariant ledger := by
  obtain ⟨sessionId, initial, events, created, rfl⟩ := reachable
  rw [createAudibilityLedger_ok created]
  exact run_invariant Invariant (base sessionId) preserved events

/-- A property that holds of new responses and that the events of a response preserve holds
of every response of a reachable ledger. -/
theorem reachable_everyResponse (base : ∀ responseId sampleRateHz channels,
      Property (newResponse responseId sampleRateHz channels))
    (preserved : ∀ current next evidence responseId payload,
      validatePayload evidence payload = true →
      ResponseApplies current evidence responseId payload next → Property current → Property next)
    (reachable : Reachable ledger) : EveryResponse Property ledger := by
  refine reachable_invariant (EveryResponse Property) ?_ ?_ reachable
  · intro sessionId key response stored
    cases stored
  · intro state event before
    refine everyResponse_step base ?_ before
    intro current next turn _ applies holds
    exact preserved current next event.evidence event.responseId event.payload
      (validateEvent_payload turn.valid) applies holds

/-- Every ledger is stored under its own name. -/
theorem keyed_step (keyed : EveryResponse (fun _ => True) state) :
    EveryResponse (fun _ => True) (afterEvent state event) :=
  everyResponse_step (fun _ _ _ => trivial) (fun _ _ _ _ _ _ => trivial) keyed

theorem reachable_keyed (reachable : Reachable ledger) : EveryResponse (fun _ => True) ledger :=
  reachable_everyResponse (fun _ _ _ => trivial) (fun _ _ _ _ _ _ _ _ => trivial) reachable

/-- A run from a ledger so stored keeps what each step keeps on such ledgers. -/
theorem keyed_run {Invariant : AudibilityLedger → Prop}
    (keyed : EveryResponse (fun _ => True) ledger) (base : Invariant ledger)
    (preserved : ∀ state event, EveryResponse (fun _ => True) state → Invariant state →
      Invariant (afterEvent state event)) (events : List AudibilityLedgerEvent) :
    Invariant (run afterEvent ledger events) := by
  refine (run_invariant (fun state => EveryResponse (fun _ => True) state ∧ Invariant state)
    ⟨keyed, base⟩ ?_ events).2
  intro state event holds
  exact ⟨keyed_step holds.1, preserved state event holds.1 holds.2⟩

end CallCenter.AudibilityTransitions
