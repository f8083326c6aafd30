import CallCenter.HalfOpenSpans
import CallCenter.MissionSchema

/-!
# Events of the audibility ledger

Generated audio is no evidence that a caller heard anything. The events keep generation,
release and playback apart; the module has their fields, what is checked before an event
is looked at, and the text that identifies an event on a retry.

Numbers are natural: the source refuses every number that is not a safe integer. An event
may carry fields that no check reads; they enter its text. That an authority was returned by
`reopenVerifiedClaimGrantAuthority` is a flag of the authority, because the source keeps the
returned objects in a set and compares identities.
-/

namespace CallCenter.AudibilityEvents

open JsonValues HalfOpenSpans
open FlowState (isHexDigest)
open MissionSchema (matchesShape isUpper isLower optionalField)

def AUDIBILITY_LEDGER_SCHEMA_VERSION : Nat := 2

def MAX_SAFE_INTEGER : Nat := 9007199254740991
def MAX_SAMPLE_RATE_HZ : Nat := 192000
def MAX_CHANNELS : Nat := 2
def MAX_CHUNKS_PER_RESPONSE : Nat := 16384
def MAX_RANGES_PER_EVENT : Nat := 1024

/-- Samples from `start` (the source's `startSample`) on, before `stop` (`endSample`). -/
abbrev SampleRange := Span

inductive AudibilityEvidenceSource where
  | providerOutput
  | semanticAlignment
  | effectReceipt
  | releaseController
  | playbackDevice
  | transportControl
  | providerHistory
deriving DecidableEq

def AudibilityEvidenceSource.name : AudibilityEvidenceSource → String
  | .providerOutput => "provider_output"
  | .semanticAlignment => "semantic_alignment"
  | .effectReceipt => "effect_receipt"
  | .releaseController => "release_controller"
  | .playbackDevice => "playback_device"
  | .transportControl => "transport_control"
  | .providerHistory => "provider_history"

structure AudibilityEvidenceReference where
  source : AudibilityEvidenceSource
  sha256 : String
  artifactId : Option String
deriving DecidableEq

structure ClaimGrantAuthorityInput where
  responseId : String
  claimId : String
  claimContentSha256 : String
  authorityRevision : Nat
  authorityReceiptSha256 : String
  reopenedReceiptSha256 : String
  turnContractSha256 : String
  semanticBindingSha256 : String
deriving DecidableEq

structure VerifiedClaimGrantAuthority extends ClaimGrantAuthorityInput where
  verifierId : String
  hostVerificationSha256 : String
  /-- The object was returned by `reopenVerifiedClaimGrantAuthority`. -/
  verified : Bool
deriving DecidableEq

inductive ClaimKind where
  | externalEffect
  | authorization
  | handoff
  | policyOutcome
deriving DecidableEq

def ClaimKind.name : ClaimKind → String
  | .externalEffect => "external_effect"
  | .authorization => "authorization"
  | .handoff => "handoff"
  | .policyOutcome => "policy_outcome"

inductive ClearReason where
  | bargeIn
  | disconnect
  | cancelled
  | superseded
  | other
deriving DecidableEq

def ClearReason.name : ClearReason → String
  | .bargeIn => "barge_in"
  | .disconnect => "disconnect"
  | .cancelled => "cancelled"
  | .superseded => "superseded"
  | .other => "other"

/-- What an event says about its response. The only encoding is PCM of 16 bits. -/
inductive AudibilityPayload where
  | responseRegistered (sampleRateHz channels : Nat)
  | pcmChunkGenerated (chunkId : String) (ordinal sampleCount : Nat) (pcmSha256 : String)
  | generationClosed
  | terminalClaimRegistered (claimId : String) (kind : ClaimKind) (range : SampleRange)
      (contentSha256 : String)
  | claimGrantIssued (grantId : String) (authority : VerifiedClaimGrantAuthority)
  | releaseRequested (decisionId : String) (range : SampleRange) (claimGrantIds : List String)
  | playbackAcknowledged (acknowledgementId : String) (ranges : List SampleRange)
      (releaseDecisionIds : List String)
  | playbackCleared (clearId : String) (reason : ClearReason)
  | deliveryClearConfirmed (confirmationId clearId : String)
      (confirmedNotPlayedRanges : List SampleRange)
  | bargeInRecorded (bargeInId clearId : String)
  | providerHistoryTruncated (truncationId : String) (retainedThroughSample : Nat)
deriving DecidableEq

structure AudibilityLedgerEvent where
  sequence : Nat
  eventId : String
  sessionId : String
  responseId : String
  evidence : AudibilityEvidenceReference
  payload : AudibilityPayload
  /-- Further fields of the event object. -/
  unread : List (String × Value) := []

/-! ## Checks -/

/-- `ID_PATTERN`. -/
def isId : String → Bool :=
  matchesShape (fun c => isUpper c || isLower c || c.isDigit)
    (fun c => isUpper c || isLower c || c.isDigit || ['.', '_', ':', '-'].contains c) 0 255

def isSha256 (text : String) : Bool := isHexDigest text

def isSafeInteger (value minimum : Nat) : Bool :=
  decide (value ≤ MAX_SAFE_INTEGER) && decide (minimum ≤ value)

def isRange (range : SampleRange) : Bool :=
  isSafeInteger range.start 0 && isSafeInteger range.stop 1 && decide (range.start < range.stop)

def parseEvidence (evidence : AudibilityEvidenceReference) : Bool :=
  isSha256 evidence.sha256 && evidence.artifactId.all isId

def eventSource : AudibilityPayload → AudibilityEvidenceSource
  | .responseRegistered .. | .pcmChunkGenerated .. | .generationClosed => .providerOutput
  | .terminalClaimRegistered .. => .semanticAlignment
  | .claimGrantIssued .. => .effectReceipt
  | .releaseRequested .. => .releaseController
  | .playbackAcknowledged .. | .deliveryClearConfirmed .. => .playbackDevice
  | .playbackCleared .. | .bargeInRecorded .. => .transportControl
  | .providerHistoryTruncated .. => .providerHistory

/-- A list of ranges that an event may carry. -/
def isRangeList (ranges : List SampleRange) : Bool :=
  decide (0 < ranges.length) && decide (ranges.length ≤ MAX_RANGES_PER_EVENT) && ranges.all isRange

/-- A list of distinct identifiers that an event may carry. -/
def isIdList (ids : List String) : Bool :=
  decide (ids.length ≤ MAX_RANGES_PER_EVENT) && ids.all isId && decide ids.Nodup

def validatePayload (evidence : AudibilityEvidenceReference) : AudibilityPayload → Bool
  | .responseRegistered sampleRateHz channels =>
    isSafeInteger sampleRateHz 1 && decide (sampleRateHz ≤ MAX_SAMPLE_RATE_HZ)
      && isSafeInteger channels 1 && decide (channels ≤ MAX_CHANNELS)
  | .pcmChunkGenerated chunkId ordinal sampleCount pcmSha256 =>
    isId chunkId && isSafeInteger ordinal 0 && isSafeInteger sampleCount 1 && isSha256 pcmSha256
  | .generationClosed => true
  | .terminalClaimRegistered claimId _ range contentSha256 =>
    isId claimId && isRange range && isSha256 contentSha256
  | .claimGrantIssued grantId authority =>
    isId grantId && authority.verified
      && decide (authority.authorityReceiptSha256 = evidence.sha256)
  | .releaseRequested decisionId range claimGrantIds =>
    isId decisionId && isRange range && isIdList claimGrantIds
  | .playbackAcknowledged acknowledgementId ranges releaseDecisionIds =>
    isId acknowledgementId && isRangeList ranges
      && decide (0 < releaseDecisionIds.length) && isIdList releaseDecisionIds
  | .playbackCleared clearId _ => isId clearId
  | .deliveryClearConfirmed confirmationId clearId confirmedNotPlayedRanges =>
    isId confirmationId && isId clearId && isRangeList confirmedNotPlayedRanges
  | .bargeInRecorded bargeInId clearId => isId bargeInId && isId clearId
  | .providerHistoryTruncated truncationId retainedThroughSample =>
    isId truncationId && isSafeInteger retainedThroughSample 0

def validateEvent (event : AudibilityLedgerEvent) : Bool :=
  isSafeInteger event.sequence 1 && isId event.eventId && isId event.sessionId
    && isId event.responseId && parseEvidence event.evidence
    && decide (event.evidence.source = eventSource event.payload)
    && validatePayload event.evidence event.payload

/-! ## Text -/

mutual

/-- The sorted text of a value. Absent fields are left out; absent items print as nothing and
numbers that are not finite as `null`. -/
def canonicalize : Value → String
  | .undefined => ""
  | .null => "null"
  | .bool value => if value then "true" else "false"
  | .number (.finite number) => number.text
  | .number _ => "null"
  | .string value => jsonString value
  | .array items => "[" ++ commaJoin (canonicalItems items) ++ "]"
  | .object fields =>
    "\x7b" ++ commaJoin ((sortFields (canonicalFields fields)).map fun field =>
      jsonString field.1 ++ ":" ++ field.2) ++ "\x7d"

def canonicalItems : List Value → List String
  | [] => []
  | item :: rest => canonicalize item :: canonicalItems rest

def canonicalFields : List (String × Value) → List (String × String)
  | [] => []
  | (_, .undefined) :: rest => canonicalFields rest
  | (key, value) :: rest => (key, canonicalize value) :: canonicalFields rest

end

def textArray (texts : List String) : Value := .array (texts.map Value.string)

def rangeValue (range : SampleRange) : Value :=
  .object [("startSample", .ofNat range.start), ("endSample", .ofNat range.stop)]

def rangeArray (ranges : List SampleRange) : Value := .array (ranges.map rangeValue)

def AudibilityEvidenceReference.toValue (evidence : AudibilityEvidenceReference) : Value :=
  .object ([("source", .string evidence.source.name), ("sha256", .string evidence.sha256)]
    ++ optionalField "artifactId" (evidence.artifactId.map Value.string))

def VerifiedClaimGrantAuthority.toValue (authority : VerifiedClaimGrantAuthority) : Value :=
  .object [("responseId", .string authority.responseId), ("claimId", .string authority.claimId),
    ("claimContentSha256", .string authority.claimContentSha256),
    ("authorityRevision", .ofNat authority.authorityRevision),
    ("authorityReceiptSha256", .string authority.authorityReceiptSha256),
    ("reopenedReceiptSha256", .string authority.reopenedReceiptSha256),
    ("turnContractSha256", .string authority.turnContractSha256),
    ("semanticBindingSha256", .string authority.semanticBindingSha256),
    ("verifierId", .string authority.verifierId),
    ("hostVerificationSha256", .string authority.hostVerificationSha256)]

/-- The fields of a payload, its type among them. -/
def AudibilityPayload.fields : AudibilityPayload → List (String × Value)
  | .responseRegistered sampleRateHz channels =>
    [("type", .string "response_registered"), ("encoding", .string "pcm16"),
      ("sampleRateHz", .ofNat sampleRateHz), ("channels", .ofNat channels)]
  | .pcmChunkGenerated chunkId ordinal sampleCount pcmSha256 =>
    [("type", .string "pcm_chunk_generated"), ("chunkId", .string chunkId),
      ("ordinal", .ofNat ordinal), ("sampleCount", .ofNat sampleCount),
      ("pcmSha256", .string pcmSha256)]
  | .generationClosed => [("type", .string "generation_closed")]
  | .terminalClaimRegistered claimId kind range contentSha256 =>
    [("type", .string "terminal_claim_registered"), ("claimId", .string claimId),
      ("kind", .string kind.name), ("range", rangeValue range),
      ("contentSha256", .string contentSha256)]
  | .claimGrantIssued grantId authority =>
    [("type", .string "claim_grant_issued"), ("grantId", .string grantId),
      ("authority", authority.toValue)]
  | .releaseRequested decisionId range claimGrantIds =>
    [("type", .string "release_requested"), ("decisionId", .string decisionId),
      ("range", rangeValue range), ("claimGrantIds", textArray claimGrantIds)]
  | .playbackAcknowledged acknowledgementId ranges releaseDecisionIds =>
    [("type", .string "playback_acknowledged"),
      ("acknowledgementId", .string acknowledgementId), ("ranges", rangeArray ranges),
      ("releaseDecisionIds", textArray releaseDecisionIds)]
  | .playbackCleared clearId reason =>
    [("type", .string "playback_cleared"), ("clearId", .string clearId),
      ("reason", .string reason.name)]
  | .deliveryClearConfirmed confirmationId clearId confirmedNotPlayedRanges =>
    [("type", .string "delivery_clear_confirmed"), ("confirmationId", .string confirmationId),
      ("clearId", .string clearId),
      ("confirmedNotPlayedRanges", rangeArray confirmedNotPlayedRanges)]
  | .bargeInRecorded bargeInId clearId =>
    [("type", .string "barge_in_recorded"), ("bargeInId", .string bargeInId),
      ("clearId", .string clearId)]
  | .providerHistoryTruncated truncationId retainedThroughSample =>
    [("type", .string "provider_history_truncated"), ("truncationId", .string truncationId),
      ("retainedThroughSample", .ofNat retainedThroughSample)]

def AudibilityLedgerEvent.toValue (event : AudibilityLedgerEvent) : Value :=
  .object ([("sequence", .ofNat event.sequence), ("eventId", .string event.eventId),
    ("sessionId", .string event.sessionId), ("responseId", .string event.responseId),
    ("evidence", event.evidence.toValue)] ++ event.payload.fields ++ event.unread)

/-! ## What the checks establish -/

theorem isRange_iff (range : SampleRange) :
    isRange range = true ↔ range.start < range.stop ∧ range.stop ≤ MAX_SAFE_INTEGER := by
  simp only [isRange, isSafeInteger, Bool.and_eq_true, decide_eq_true_eq]
  omega

theorem isRange_proper {range : SampleRange} (valid : isRange range) : range.start < range.stop :=
  ((isRange_iff range).mp valid).1

/-- The ranges of a checked list pass the check of a range. -/
theorem isRangeList_each {ranges : List SampleRange} (valid : isRangeList ranges) :
    ∀ range ∈ ranges, isRange range = true := by
  simp only [isRangeList, Bool.and_eq_true] at valid
  exact List.all_eq_true.mp valid.2

theorem validateEvent_payload {event : AudibilityLedgerEvent} (valid : validateEvent event) :
    validatePayload event.evidence event.payload := by
  simp only [validateEvent, Bool.and_eq_true] at valid
  exact valid.2

end CallCenter.AudibilityEvents
