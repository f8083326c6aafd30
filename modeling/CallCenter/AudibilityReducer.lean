import CallCenter.AudibilityEvents
import CallCenter.Guards

/-!
# The audibility ledger

`applyAudibilityLedgerEvent` is the reducer, `projectAudibleConversationEvidence` reads from
the ledger what is known about the delivery of every released sample.

Responses, claims and grants are looked up in plain objects, so the names that every object
inherits are found there although nothing was stored under them. Such a name is a
property that is neither a ledger nor absent: most events of a response with that name
read a missing array and throw, and the end of its generation stores a record that has
nothing but the mark of a closed generation, under the key `undefined`.
-/

namespace CallCenter.AudibilityReducer

open JsonValues HalfOpenSpans ObjectFields Guards AudibilityEvents

/-! ## Ranges -/

/-- The order of the sort: by the start, then by the end. -/
def rangeLe (left right : SampleRange) : Prop :=
  left.start < right.start ∨ left.start = right.start ∧ left.stop ≤ right.stop

instance : DecidableRel rangeLe := fun left right =>
  inferInstanceAs (Decidable (left.start < right.start ∨
    left.start = right.start ∧ left.stop ≤ right.stop))

def normalizeSampleRanges (ranges : List SampleRange) : List SampleRange :=
  mergeSorted ((ranges.filter isRange).insertionSort rangeLe)

def intersectRanges (left right : List SampleRange) : List SampleRange :=
  normalizeSampleRanges (meets left right)

def subtractRanges (source removed : List SampleRange) : List SampleRange :=
  (normalizeSampleRanges removed).foldl cutSpans (normalizeSampleRanges source)

def coversRange (covering : List SampleRange) (target : SampleRange) : Bool :=
  decide ((subtractRanges [target] covering).length = 0)

def rangesOverlap (left right : SampleRange) : Bool := overlap left right

/-! ## Objects -/

/-- Names of `Object.prototype` that are identifiers of the ledger. -/
def INHERITED_NAMES : List String :=
  ["constructor", "hasOwnProperty", "isPrototypeOf", "propertyIsEnumerable", "toLocaleString",
    "toString", "valueOf"]

/-- What reading a property of an object finds. -/
inductive Property (α : Type) where
  | own (value : α)
  | inherited
  | missing

def readProperty {α : Type} (fields : List (String × α)) (key : String) : Property α :=
  match fields.lookup key with
  | some value => .own value
  | none => if key ∈ INHERITED_NAMES then .inherited else .missing

/-- Whether the read value counts as true. -/
def Property.found {α : Type} : Property α → Bool
  | .missing => false
  | _ => true

/-- The number of a key that is an array index: digits without a leading zero. An object lists
these keys first. -/
def arrayIndex (key : String) : Option Nat :=
  let digits := key.toList
  let index := Timestamps.digitsValue digits
  if digits.all Char.isDigit && (decide (digits.length = 1) || digits.head?.any (· ≠ '0'))
      && decide (index < 4294967295) then some index
  else none

/-- `Object.values`. -/
def objectValues {α : Type} (fields : List (String × α)) : List α :=
  ((fields.filter fun field => (arrayIndex field.1).isSome).insertionSort (fun left right =>
      (arrayIndex left.1).getD 0 ≤ (arrayIndex right.1).getD 0)
    ++ fields.filter fun field => (arrayIndex field.1).isNone).map Prod.snd

/-! ## State -/

structure GeneratedPcmChunk where
  chunkId : String
  ordinal : Nat
  range : SampleRange
  sampleCount : Nat
  pcmSha256 : String
  evidence : AudibilityEvidenceReference
deriving DecidableEq

structure TerminalClaim where
  claimId : String
  kind : ClaimKind
  range : SampleRange
  contentSha256 : String
  evidence : AudibilityEvidenceReference
deriving DecidableEq

structure ClaimGrant where
  grantId : String
  claimId : String
  authorityRevision : Nat
  authorityReceiptSha256 : String
  reopenedReceiptSha256 : String
  turnContractSha256 : String
  semanticBindingSha256 : String
  verifierId : String
  hostVerificationSha256 : String
  evidence : AudibilityEvidenceReference
deriving DecidableEq

inductive ReleaseOutcome where
  | released
  | blocked
deriving DecidableEq

inductive ReleaseReason where
  | authorized
  | missingClaimGrant
  | responseSealed
deriving DecidableEq

structure ReleaseDecision where
  decisionId : String
  range : SampleRange
  queueEpoch : Nat
  outcome : ReleaseOutcome
  reason : ReleaseReason
  claimGrantIds : List String
  evidence : AudibilityEvidenceReference
deriving DecidableEq

structure PlaybackAcknowledgement where
  acknowledgementId : String
  ranges : List SampleRange
  releaseDecisionIds : List String
  queueEpoch : Nat
  evidence : AudibilityEvidenceReference
deriving DecidableEq

structure PlaybackClear where
  clearId : String
  reason : ClearReason
  clearedRanges : List SampleRange
  closedQueueEpoch : Nat
  evidence : AudibilityEvidenceReference
deriving DecidableEq

structure DeliveryClearConfirmation where
  confirmationId : String
  clearId : String
  confirmedNotPlayedRanges : List SampleRange
  evidence : AudibilityEvidenceReference
deriving DecidableEq

structure BargeInRecord where
  bargeInId : String
  clearId : String
  audibleThroughRanges : List SampleRange
  evidence : AudibilityEvidenceReference
deriving DecidableEq

structure ProviderHistoryTruncation where
  truncationId : String
  retainedThroughSample : Nat
  evidence : AudibilityEvidenceReference
deriving DecidableEq

structure AudibilityResponseLedger where
  responseId : String
  sampleRateHz : Nat
  channels : Nat
  generatedSampleCount : Nat
  generationClosed : Bool
  chunks : List GeneratedPcmChunk
  claims : List (String × TerminalClaim)
  grants : List (String × ClaimGrant)
  releaseDecisions : List ReleaseDecision
  playbackAcknowledgements : List PlaybackAcknowledgement
  acknowledgedPlayedRanges : List SampleRange
  clears : List PlaybackClear
  deliveryClearConfirmations : List DeliveryClearConfirmation
  bargeIns : List BargeInRecord
  truncations : List ProviderHistoryTruncation
  queueEpoch : Nat
  playbackSealed : Bool
deriving DecidableEq

/-- What is stored for a response. -/
inductive ResponseEntry where
  | ledger (response : AudibilityResponseLedger)
  /-- The record `generationClosed: true` without any other field. -/
  | closedOnly
deriving DecidableEq

structure AudibilityLedger where
  sessionId : String
  revision : Nat
  responses : List (String × ResponseEntry)
  responseOrder : List String
  appliedEventPayloads : List (Nat × String)
deriving DecidableEq

inductive AudibilityLedgerErrorCode where
  | invalidEvent
  | wrongSession
  | eventSequenceGap
  | eventSequenceConflict
  | responseConflict
  | unknownResponse
  | generationClosed
  | chunkConflict
  | claimConflict
  | claimOutsideGeneratedAudio
  | unknownClaim
  | grantConflict
  | decisionConflict
  | rangeOutsideGeneratedAudio
  | acknowledgementConflict
  | playbackNotReleased
  | staleReleaseEpoch
  | clearConflict
  | deliveryClearConflict
  | bargeInConflict
  | truncationConflict
deriving DecidableEq

/-- Why an event is refused. -/
structure Failure where
  code : AudibilityLedgerErrorCode
  error : String

inductive AudibilityLedgerApplyResult where
  | accepted (state : AudibilityLedger) (applied duplicate : Bool)
  | failure (state : AudibilityLedger) (code : AudibilityLedgerErrorCode) (error : String)
  /-- A property of `undefined` was read. -/
  | thrown

def createAudibilityLedger (sessionId : String) : Except String AudibilityLedger :=
  if isId sessionId then .ok ⟨sessionId, 0, [], [], []⟩
  else .error "audibility ledger requires a valid session id"

/-! ## Events of a registered response -/

/-- The ledger of a new response. -/
def newResponse (responseId : String) (sampleRateHz channels : Nat) : AudibilityResponseLedger where
  responseId
  sampleRateHz
  channels
  generatedSampleCount := 0
  generationClosed := false
  chunks := []
  claims := []
  grants := []
  releaseDecisions := []
  playbackAcknowledgements := []
  acknowledgedPlayedRanges := []
  clears := []
  deliveryClearConfirmations := []
  bargeIns := []
  truncations := []
  queueEpoch := 0
  playbackSealed := false

section Response
variable (current : AudibilityResponseLedger) (evidence : AudibilityEvidenceReference)

def appendChunk (chunkId : String) (ordinal sampleCount : Nat) (pcmSha256 : String) :
    Except Failure AudibilityResponseLedger := do
  require (!current.generationClosed)
    ⟨.generationClosed, "cannot append PCM after generation closes"⟩
  require (decide (current.chunks.length < MAX_CHUNKS_PER_RESPONSE))
    ⟨.invalidEvent, "response exceeds the chunk limit"⟩
  require (decide (ordinal = current.chunks.length))
    ⟨.chunkConflict, "PCM chunk ordinal must be contiguous"⟩
  require (!current.chunks.any fun chunk => chunk.chunkId = chunkId)
    ⟨.chunkConflict, "PCM chunk id is already registered"⟩
  let range : SampleRange :=
    ⟨current.generatedSampleCount, current.generatedSampleCount + sampleCount⟩
  require (isSafeInteger range.stop 0)
    ⟨.invalidEvent, "generated sample count exceeds safe integer range"⟩
  return { current with
    generatedSampleCount := range.stop
    chunks := current.chunks ++ [⟨chunkId, ordinal, range, sampleCount, pcmSha256, evidence⟩] }

def closeGeneration : Except Failure AudibilityResponseLedger := do
  require (!current.generationClosed) ⟨.generationClosed, "generation is already closed"⟩
  return { current with generationClosed := true }

def registerClaim (claimId : String) (kind : ClaimKind) (range : SampleRange)
    (contentSha256 : String) : Except Failure AudibilityResponseLedger := do
  require (!(readProperty current.claims claimId).found)
    ⟨.claimConflict, s!"claim {claimId} is already registered"⟩
  require (decide (range.stop ≤ current.generatedSampleCount))
    ⟨.claimOutsideGeneratedAudio, "terminal claim must be contained in generated PCM"⟩
  require (!current.releaseDecisions.any fun decision =>
      decide (decision.outcome = .released) && rangesOverlap decision.range range)
    ⟨.claimConflict, "terminal claim must be registered before overlapping audio is released"⟩
  return { current with
    claims := setField current.claims claimId ⟨claimId, kind, range, contentSha256, evidence⟩ }

/-- The grant that an authority gives. -/
def grantOf (grantId : String) (authority : VerifiedClaimGrantAuthority) : ClaimGrant where
  grantId
  claimId := authority.claimId
  authorityRevision := authority.authorityRevision
  authorityReceiptSha256 := authority.authorityReceiptSha256
  reopenedReceiptSha256 := authority.reopenedReceiptSha256
  turnContractSha256 := authority.turnContractSha256
  semanticBindingSha256 := authority.semanticBindingSha256
  verifierId := authority.verifierId
  hostVerificationSha256 := authority.hostVerificationSha256
  evidence

def otherResponse : Failure :=
  ⟨.grantConflict, "claim grant authority is bound to a different response"⟩

/-- The authority is for a registered claim with the same content. -/
def requireClaim (authority : VerifiedClaimGrantAuthority) : Except Failure Unit :=
  let conflict : Failure :=
    ⟨.grantConflict, "claim grant authority is bound to different claim semantics"⟩
  match readProperty current.claims authority.claimId with
  | .missing => .error ⟨.unknownClaim, s!"claim {authority.claimId} is not registered"⟩
  | .inherited => .error conflict
  | .own claim => require (decide (claim.contentSha256 = authority.claimContentSha256)) conflict

def issueGrant (responseId grantId : String) (authority : VerifiedClaimGrantAuthority) :
    Except Failure AudibilityResponseLedger := do
  require (decide (authority.responseId = responseId)) otherResponse
  requireClaim current authority
  require (!(readProperty current.grants grantId).found)
    ⟨.grantConflict, s!"grant {grantId} is already registered"⟩
  return { current with
    grants := setField current.grants grantId (grantOf evidence grantId authority) }

/-- The claims that a range overlaps. -/
def intersectingClaims (range : SampleRange) : List TerminalClaim :=
  (objectValues current.claims).filter fun claim => rangesOverlap claim.range range

/-- The claim of a grant that was found; an inherited property has none. -/
def readGrant (grantId : String) : Option (Option ClaimGrant) :=
  match readProperty current.grants grantId with
  | .own grant => some (some grant)
  | .inherited => some none
  | .missing => none

/-- The grant is one for the claim. -/
def grantsClaim (claim : TerminalClaim) (grant : Option ClaimGrant) : Bool :=
  decide (grant.map ClaimGrant.claimId = some claim.claimId)

/-- Every claim in the range has one of the grants. -/
def everyClaimGranted (range : SampleRange) (claimGrantIds : List String) : Bool :=
  (intersectingClaims current range).all fun claim =>
    (claimGrantIds.filterMap (readGrant current)).any (grantsClaim claim)

/-- The decision about a request whose grants were found. -/
def decideRelease (decisionId : String) (range : SampleRange) (claimGrantIds : List String) :
    ReleaseDecision where
  decisionId
  range
  queueEpoch := current.queueEpoch
  outcome :=
    if !everyClaimGranted current range claimGrantIds || current.playbackSealed then .blocked
    else .released
  reason :=
    if current.playbackSealed then .responseSealed
    else if everyClaimGranted current range claimGrantIds then .authorized
    else .missingClaimGrant
  claimGrantIds
  evidence

def requestRelease (decisionId : String) (range : SampleRange) (claimGrantIds : List String) :
    Except Failure AudibilityResponseLedger := do
  require (!current.releaseDecisions.any fun decision => decision.decisionId = decisionId)
    ⟨.decisionConflict, s!"release decision {decisionId} already exists"⟩
  require (decide (range.stop ≤ current.generatedSampleCount))
    ⟨.rangeOutsideGeneratedAudio, "release range exceeds generated PCM"⟩
  let claims := intersectingClaims current range
  let grants := claimGrantIds.filterMap (readGrant current)
  require (decide (grants.length = claimGrantIds.length))
    ⟨.invalidEvent, "release request references an unknown claim grant"⟩
  require (!grants.any fun grant => !claims.any fun claim => grantsClaim claim grant)
    ⟨.invalidEvent, "release request includes a grant unrelated to the released range"⟩
  return { current with
    releaseDecisions :=
      current.releaseDecisions ++ [decideRelease current evidence decisionId range claimGrantIds] }

def findDecision (decisionId : String) : Option ReleaseDecision :=
  current.releaseDecisions.find? fun decision => decision.decisionId = decisionId

/-- The decision was found and released its range. -/
def wasReleased : Option ReleaseDecision → Bool
  | none => false
  | some decision => decide (decision.outcome = .released)

def acknowledgePlayback (acknowledgementId : String) (ranges : List SampleRange)
    (releaseDecisionIds : List String) : Except Failure AudibilityResponseLedger := do
  require (!current.playbackAcknowledgements.any fun known =>
      known.acknowledgementId = acknowledgementId)
    ⟨.acknowledgementConflict, s!"playback acknowledgement {acknowledgementId} already exists"⟩
  let decisions := releaseDecisionIds.map (findDecision current)
  require (!decisions.any fun decision => !wasReleased decision)
    ⟨.playbackNotReleased, "playback acknowledgement must reference released decisions"⟩
  require (!decisions.any fun decision =>
      decide (decision.map ReleaseDecision.queueEpoch ≠ some current.queueEpoch))
    ⟨.staleReleaseEpoch, "playback acknowledgement references a cleared queue epoch"⟩
  let releasedRanges := decisions.filterMap fun decision => decision.map ReleaseDecision.range
  require (!ranges.any fun range => !coversRange releasedRanges range)
    ⟨.playbackNotReleased, "acknowledged playback exceeds referenced released ranges"⟩
  let normalized := normalizeSampleRanges ranges
  return { current with
    playbackAcknowledgements := current.playbackAcknowledgements ++
      [⟨acknowledgementId, normalized, releaseDecisionIds, current.queueEpoch, evidence⟩]
    acknowledgedPlayedRanges :=
      normalizeSampleRanges (current.acknowledgedPlayedRanges ++ normalized) }

/-- The ranges that were released in the current epoch. -/
def releasedThisEpoch : List SampleRange :=
  (current.releaseDecisions.filter fun decision =>
    decide (decision.outcome = .released) && decide (decision.queueEpoch = current.queueEpoch)).map
      ReleaseDecision.range

/-- The ranges that were acknowledged in the current epoch. -/
def acknowledgedThisEpoch : List SampleRange :=
  (current.playbackAcknowledgements.filter fun acknowledgement =>
    decide (acknowledgement.queueEpoch = current.queueEpoch)).flatMap PlaybackAcknowledgement.ranges

def clearPlayback (clearId : String) (reason : ClearReason) :
    Except Failure AudibilityResponseLedger := do
  require (!current.clears.any fun clear => clear.clearId = clearId)
    ⟨.clearConflict, s!"playback clear {clearId} already exists"⟩
  let clearedRanges := subtractRanges (releasedThisEpoch current) (acknowledgedThisEpoch current)
  return { current with
    clears := current.clears ++ [⟨clearId, reason, clearedRanges, current.queueEpoch, evidence⟩]
    queueEpoch := current.queueEpoch + 1
    playbackSealed := current.playbackSealed || decide (reason ≠ .other) }

def findClear (clearId : String) : Option PlaybackClear :=
  current.clears.find? fun clear => clear.clearId = clearId

def confirmDeliveryClear (confirmationId clearId : String)
    (confirmedNotPlayedRanges : List SampleRange) : Except Failure AudibilityResponseLedger := do
  require (!current.deliveryClearConfirmations.any fun known =>
      known.confirmationId = confirmationId)
    ⟨.deliveryClearConflict, s!"delivery clear confirmation {confirmationId} already exists"⟩
  match findClear current clearId with
  | none =>
    .error ⟨.deliveryClearConflict, "delivery clear confirmation references an unknown clear"⟩
  | some clear => do
      require (!confirmedNotPlayedRanges.any fun range => !coversRange clear.clearedRanges range)
        ⟨.deliveryClearConflict, "confirmed not-played range exceeds the queue clear range"⟩
      return { current with
        deliveryClearConfirmations := current.deliveryClearConfirmations ++
          [⟨confirmationId, clearId, normalizeSampleRanges confirmedNotPlayedRanges, evidence⟩] }

/-- The clear was found and is one for a barge-in. -/
def isBargeIn : Option PlaybackClear → Bool
  | none => false
  | some clear => decide (clear.reason = .bargeIn)

def recordBargeIn (bargeInId clearId : String) : Except Failure AudibilityResponseLedger := do
  require (!current.bargeIns.any fun known => known.bargeInId = bargeInId)
    ⟨.bargeInConflict, s!"barge-in {bargeInId} already exists"⟩
  require (isBargeIn (findClear current clearId))
    ⟨.bargeInConflict, "barge-in must reference a barge-in playback clear"⟩
  return { current with
    playbackSealed := true
    bargeIns := current.bargeIns ++
      [⟨bargeInId, clearId, current.acknowledgedPlayedRanges, evidence⟩] }

def truncateHistory (truncationId : String) (retainedThroughSample : Nat) :
    Except Failure AudibilityResponseLedger := do
  require (!current.truncations.any fun known => known.truncationId = truncationId)
    ⟨.truncationConflict, s!"truncation {truncationId} already exists"⟩
  require (decide (retainedThroughSample ≤ current.generatedSampleCount))
    ⟨.rangeOutsideGeneratedAudio, "provider history cannot retain beyond generated PCM"⟩
  return { current with
    truncations := current.truncations ++ [⟨truncationId, retainedThroughSample, evidence⟩] }

/-- An event of a response that is registered. -/
def applyToResponse (responseId : String) :
    AudibilityPayload → Except Failure AudibilityResponseLedger
  | .responseRegistered _ _ =>
    .error ⟨.responseConflict, s!"response {responseId} is already registered"⟩
  | .pcmChunkGenerated chunkId ordinal sampleCount pcmSha256 =>
    appendChunk current evidence chunkId ordinal sampleCount pcmSha256
  | .generationClosed => closeGeneration current
  | .terminalClaimRegistered claimId kind range contentSha256 =>
    registerClaim current evidence claimId kind range contentSha256
  | .claimGrantIssued grantId authority =>
    issueGrant current evidence responseId grantId authority
  | .releaseRequested decisionId range claimGrantIds =>
    requestRelease current evidence decisionId range claimGrantIds
  | .playbackAcknowledged acknowledgementId ranges releaseDecisionIds =>
    acknowledgePlayback current evidence acknowledgementId ranges releaseDecisionIds
  | .playbackCleared clearId reason => clearPlayback current evidence clearId reason
  | .deliveryClearConfirmed confirmationId clearId confirmedNotPlayedRanges =>
    confirmDeliveryClear current evidence confirmationId clearId confirmedNotPlayedRanges
  | .bargeInRecorded bargeInId clearId => recordBargeIn current evidence bargeInId clearId
  | .providerHistoryTruncated truncationId retainedThroughSample =>
    truncateHistory current evidence truncationId retainedThroughSample

end Response

/-! ## The reducer -/

/-- The ledger with a stored response and the event counted. -/
def withResponse (state : AudibilityLedger) (event : AudibilityLedgerEvent) (key : String)
    (entry : ResponseEntry) (isNew : Bool) : AudibilityLedger where
  sessionId := state.sessionId
  revision := event.sequence
  responses := setField state.responses key entry
  responseOrder := if isNew then state.responseOrder ++ [key] else state.responseOrder
  appliedEventPayloads :=
    setField state.appliedEventPayloads event.sequence (canonicalize event.toValue)

def applyResponse (state : AudibilityLedger) (event : AudibilityLedgerEvent) (key : String)
    (entry : ResponseEntry) (isNew : Bool) : AudibilityLedgerApplyResult :=
  .accepted (withResponse state event key entry isNew) true false

/-- An event of a response that was found but has no collections: an inherited property, or a
record with nothing but the mark of a closed generation. -/
def applyBare (state : AudibilityLedger) (event : AudibilityLedgerEvent) (closed : Bool) :
    AudibilityLedgerApplyResult :=
  match event.payload with
  | .responseRegistered .. =>
    .failure state .responseConflict s!"response {event.responseId} is already registered"
  | .pcmChunkGenerated .. =>
    if closed then
      .failure state .generationClosed "cannot append PCM after generation closes"
    else .thrown
  | .generationClosed =>
    if closed then .failure state .generationClosed "generation is already closed"
    -- The spread of a function has no fields, so the record has no `responseId` either.
    else applyResponse state event "undefined" .closedOnly false
  | .claimGrantIssued _ authority =>
    if authority.responseId = event.responseId then .thrown
    else .failure state otherResponse.code otherResponse.error
  | _ => .thrown

/-- An event in turn. -/
def applyNext (state : AudibilityLedger) (event : AudibilityLedgerEvent) :
    AudibilityLedgerApplyResult :=
  match readProperty state.responses event.responseId with
  | .missing =>
    match event.payload with
    | .responseRegistered sampleRateHz channels =>
      applyResponse state event event.responseId
        (.ledger (newResponse event.responseId sampleRateHz channels)) true
    | _ => .failure state .unknownResponse s!"response {event.responseId} is not registered"
  | .inherited => applyBare state event false
  | .own .closedOnly => applyBare state event true
  | .own (.ledger current) =>
    match applyToResponse current event.evidence event.responseId event.payload with
    | .ok next => applyResponse state event next.responseId (.ledger next) false
    | .error refusal => .failure state refusal.code refusal.error

def applyAudibilityLedgerEvent (state : AudibilityLedger) (event : AudibilityLedgerEvent) :
    AudibilityLedgerApplyResult :=
  if validateEvent event then
    if event.sessionId = state.sessionId then
      if event.sequence ≤ state.revision then
        if state.appliedEventPayloads.lookup event.sequence = some (canonicalize event.toValue) then
          .accepted state false true
        else
          .failure state .eventSequenceConflict s!"sequence {event.sequence} has a different payload"
      else if event.sequence = state.revision + 1 then applyNext state event
      else
        let expected := state.revision + 1
        .failure state .eventSequenceGap s!"expected sequence {expected}, received {event.sequence}"
    else .failure state .wrongSession "event session does not match ledger session"
  else
    .failure state .invalidEvent "audibility event is malformed or has the wrong evidence source"

/-! ## What was heard -/

structure AudiblePcmEvidenceRange where
  responseId : String
  chunkId : String
  chunkPcmSha256 : String
  range : SampleRange
  acknowledgementIds : List String

inductive ClaimAudibilityStatus where
  | fullyAudible
  | verifiedNotAudible
  | unverifiable
deriving DecidableEq

structure TerminalClaimAudibility where
  claimId : String
  status : ClaimAudibilityStatus
  acknowledgedRanges : List SampleRange
  verifiedNotPlayedRanges : List SampleRange
  unknownRanges : List SampleRange
  grantId : Option String
  authorityReceiptSha256 : Option String

inductive EvidenceStatus where
  | verifiedAudible
  | verifiedNotAudible
  | unverifiable

structure ResponseEvidence where
  responseId : String
  evidenceStatus : EvidenceStatus
  audibleRanges : List SampleRange
  verifiedNotPlayedRanges : List SampleRange
  unknownRanges : List SampleRange
  pcmEvidence : List AudiblePcmEvidenceRange
  terminalClaims : List TerminalClaimAudibility
  unverifiableReasons : List String

structure AudibleConversationEvidence where
  schemaVersion : Nat
  sessionId : String
  ledgerRevision : Nat
  responses : List ResponseEvidence

section Projection
variable (response : AudibilityResponseLedger)

def acknowledgementIdsForRange (range : SampleRange) : List String :=
  ((response.playbackAcknowledgements.filter fun acknowledgement =>
    acknowledgement.ranges.any fun acknowledged => rangesOverlap acknowledged range).map
      PlaybackAcknowledgement.acknowledgementId).insertionSort fun left right =>
        unitsLe (utf16 left) (utf16 right) = true

def audibleRanges : List SampleRange := normalizeSampleRanges response.acknowledgedPlayedRanges

/-- The ranges of the decisions that released them. -/
def releases : List SampleRange :=
  (response.releaseDecisions.filter fun decision => decide (decision.outcome = .released)).map
    ReleaseDecision.range

def verifiedNotPlayedRanges : List SampleRange :=
  subtractRanges (normalizeSampleRanges (response.deliveryClearConfirmations.flatMap
      DeliveryClearConfirmation.confirmedNotPlayedRanges))
    (audibleRanges response)

def unknownRanges : List SampleRange :=
  subtractRanges (normalizeSampleRanges (releases response))
    (audibleRanges response ++ verifiedNotPlayedRanges response)

def claimStatus (acknowledged notPlayed : List SampleRange) (range : SampleRange) :
    ClaimAudibilityStatus :=
  if coversRange acknowledged range then .fullyAudible
  else if coversRange notPlayed range then .verifiedNotAudible
  else .unverifiable

def claimAudibility (claim : TerminalClaim) : TerminalClaimAudibility :=
  let acknowledged := intersectRanges (audibleRanges response) [claim.range]
  let notPlayed := intersectRanges (verifiedNotPlayedRanges response) [claim.range]
  let grant := (objectValues response.grants).find? fun candidate =>
    candidate.claimId = claim.claimId
  { claimId := claim.claimId
    status := claimStatus acknowledged notPlayed claim.range
    acknowledgedRanges := acknowledged
    verifiedNotPlayedRanges := notPlayed
    unknownRanges := subtractRanges [claim.range] (acknowledged ++ notPlayed)
    grantId := grant.map ClaimGrant.grantId
    authorityReceiptSha256 := grant.map ClaimGrant.authorityReceiptSha256 }

/-- The order of the claims: by the start, then by the name. -/
def claimLe (localeCompare : String → String → Int) (left right : TerminalClaim) : Prop :=
  left.range.start < right.range.start ∨
    left.range.start = right.range.start ∧ localeCompare left.claimId right.claimId ≤ 0

instance (localeCompare : String → String → Int) : DecidableRel (claimLe localeCompare) :=
  fun left right => inferInstanceAs (Decidable (left.range.start < right.range.start ∨
    left.range.start = right.range.start ∧ localeCompare left.claimId right.claimId ≤ 0))

def terminalClaims (localeCompare : String → String → Int) : List TerminalClaimAudibility :=
  ((objectValues response.claims).insertionSort (claimLe localeCompare)).map
    (claimAudibility response)

def pcmEvidence (responseId : String) : List AudiblePcmEvidenceRange :=
  response.chunks.flatMap fun chunk =>
    (intersectRanges [chunk.range] (audibleRanges response)).map fun range =>
      { responseId
        chunkId := chunk.chunkId
        chunkPcmSha256 := chunk.pcmSha256
        range
        acknowledgementIds := acknowledgementIdsForRange response range }

def unverifiableReasons : List String :=
  (if (audibleRanges response).length = 0 ∧ (verifiedNotPlayedRanges response).length = 0 then
    ["no_positive_playback_or_delivery_clear_evidence"] else [])
  ++ (if 0 < (unknownRanges response).length then
    ["released_audio_has_unknown_delivery_ranges"] else [])
  ++ (if 0 < (audibleRanges response).length ∧ 0 < (unknownRanges response).length then
    ["partial_playback_acknowledgement"] else [])

def evidenceStatus : EvidenceStatus :=
  if (unknownRanges response).length = 0 ∧ 0 < (audibleRanges response).length then
    .verifiedAudible
  else if (unknownRanges response).length = 0 ∧ (audibleRanges response).length = 0
      ∧ 0 < (verifiedNotPlayedRanges response).length then .verifiedNotAudible
  else .unverifiable

def responseEvidence (localeCompare : String → String → Int) (responseId : String) :
    ResponseEvidence where
  responseId
  evidenceStatus := evidenceStatus response
  audibleRanges := audibleRanges response
  verifiedNotPlayedRanges := verifiedNotPlayedRanges response
  unknownRanges := unknownRanges response
  pcmEvidence := pcmEvidence response responseId
  terminalClaims := terminalClaims response localeCompare
  unverifiableReasons := unverifiableReasons response

end Projection

/-- The evidence about a listed response. Without the collections of a ledger it throws. -/
def projectResponse (localeCompare : String → String → Int) (ledger : AudibilityLedger)
    (responseId : String) : Option ResponseEvidence :=
  match readProperty ledger.responses responseId with
  | .own (.ledger response) => some (responseEvidence response localeCompare responseId)
  | _ => none

def projectAudibleConversationEvidence (localeCompare : String → String → Int)
    (ledger : AudibilityLedger) : Option AudibleConversationEvidence := do
  let responses ← ledger.responseOrder.mapM (projectResponse localeCompare ledger)
  return ⟨AUDIBILITY_LEDGER_SCHEMA_VERSION, ledger.sessionId, ledger.revision, responses⟩

end CallCenter.AudibilityReducer
