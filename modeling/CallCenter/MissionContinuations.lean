import CallCenter.MissionIntegrity
import CallCenter.PolicyKernel

/-!
# Mission continuations

A continuation token lets a subject resume a mission on another channel. Its body is the
encoded canonical text of its claims, which name the digest of the whole state; a dot and the
encoded keyed digest of the body follow.

`ContinuationHost` stands for the host's keyed digest, its readers of encoded bytes and of
JSON, and the language's conversion of other values to numbers. Times are exact integers. A
pattern is tested on the text that a value converts to; an object that brings a conversion
of its own is not modelled.
-/

namespace CallCenter.MissionContinuations

open JsonValues DottedPaths FlowDefinition FlowState Guards MissionSchema MissionLedger
open MissionRuntime
open FlowCapability (integerNumber integerOf naturalOf stringField)
open PolicyKernel (decimalOf)

def CONTINUATION_DOMAIN : String := "harshas-amazing-call-center/mission-continuation/v1"

def STATE_DOMAIN : String := "harshas-amazing-call-center/mission-state/v1\n"

/-! ## The digest of a state -/

def MissionEvent.toValue (event : MissionEvent) : Value :=
  .object [("sequence", .ofNat event.sequence), ("revision", .ofNat event.revision),
    ("type", .string event.eventType), ("at", .string event.recordedAt),
    ("payload", event.payload), ("state_head_hash", .string event.stateHeadHash),
    ("previous_event_hash", nullableText event.previousEventHash),
    ("event_hash", .string event.eventHash)]

def stateFields (state : MissionState) : List (String × Value) :=
  match state.head with
  | .object fields => fields ++ [("events", .array (state.events.map MissionEvent.toValue))]
  | _ => []

def missionStateDigest (sha256 : String → String) (state : MissionState) : String :=
  sha256 (STATE_DOMAIN ++ (Value.object (stateFields state)).text)

/-! ## Issuing -/

structure ContinuationHost where
  decodeText : String → String
  decodeBytes : String → List Nat
  hmac : String → String → List Nat
  parseJson : String → Option Value
  toNumber : Value → JsNumber

structure MissionContinuationClaims where
  subjectId : String
  missionId : String
  missionVersion : String
  stateDigest : String
  fromChannel : String
  toChannels : List String
  issuedAt : Int
  expiresAt : Int
  nonce : String

def integerValue (n : Int) : Value := .number (.finite (integerNumber n))

def MissionContinuationClaims.fields (claims : MissionContinuationClaims) : List (String × Value) :=
  [("typ", .string "mission-continuation"), ("v", .ofNat 1),
    ("subject_id", .string claims.subjectId), ("mission_id", .string claims.missionId),
    ("mission_version", .string claims.missionVersion),
    ("state_digest", .string claims.stateDigest), ("from_channel", .string claims.fromChannel),
    ("to_channels", textArray claims.toChannels), ("issued_at", integerValue claims.issuedAt),
    ("expires_at", integerValue claims.expiresAt), ("nonce", .string claims.nonce)]

structure IssueInput where
  state : MissionState
  subjectId : String
  fromChannel : String
  toChannels : List String
  secret : String
  ttlSeconds : Option JsNumber
  nowMs : Int
  nonce : String

structure IssuedContinuation where
  token : String
  claims : MissionContinuationClaims

def isChannel : String → Bool :=
  matchesShape isLower (fun c => isLower c || c.isDigit || ['_', '.', ':', '-'].contains c) 0 63

/-- The lifetime in seconds: fifteen minutes unless another one up to a day is given. -/
def lifetime : Option JsNumber → Except String Int
  | none => .ok (15 * 60)
  | some (.finite number) =>
    match (integerOf number).filter fun seconds => decide (1 ≤ seconds ∧ seconds ≤ 24 * 60 * 60) with
    | some seconds => .ok seconds
    | none => .error "mission continuation TTL must be 1..86400 seconds"
  | some _ => .error "mission continuation TTL must be 1..86400 seconds"

/-- The bytes that authenticate a body. -/
def signatureOf (host : ContinuationHost) (secret body : String) : List Nat :=
  host.hmac secret (CONTINUATION_DOMAIN ++ "\n" ++ body)

/-- The encoded claims. -/
def MissionContinuationClaims.body (claims : MissionContinuationClaims) : String :=
  Base64Url.encodeText (Value.object claims.fields).text

def issueMissionContinuation (sha256 : String → String) (host : ContinuationHost)
    (input : IssueInput) : Except String IssuedContinuation := do
  assertStateIntegrity sha256 input.state
  require (decide (32 ≤ (utf16 input.secret).length))
    "mission continuation secret must be at least 32 characters"
  assertExternalId input.subjectId "mission continuation subject_id"
  require (isChannel input.fromChannel && countWithin 1 16 input.toChannels
    && input.toChannels.all isChannel) "mission continuation channels are invalid"
  let ttl ← lifetime input.ttlSeconds
  let now := input.nowMs / 1000
  assertExternalId input.nonce "mission continuation nonce"
  let claims : MissionContinuationClaims :=
    { subjectId := input.subjectId
      missionId := input.state.missionId
      missionVersion := input.state.missionVersion
      stateDigest := missionStateDigest sha256 input.state
      fromChannel := input.fromChannel
      toChannels := (distinct input.toChannels).insertionSort fun left right =>
        unitsLe (utf16 left) (utf16 right) = true
      issuedAt := now
      expiresAt := now + ttl
      nonce := input.nonce }
  return { token := claims.body ++ "." ++ Base64Url.encode (signatureOf host input.secret claims.body)
           claims }

/-! ## Verifying -/

inductive ContinuationCode where
  | malformed
  | invalidSignature
  | invalidClaims
  | expired
  | scopeMismatch
  | invalid

structure VerifyInput where
  token : String
  state : MissionState
  subjectId : String
  targetChannel : String
  secret : String
  nowMs : Int

mutual

/-- The text that a value converts to. -/
def converted : Value → String
  | .undefined => "undefined"
  | .null => "null"
  | .bool value => if value then "true" else "false"
  | .number (.finite number) => number.text
  | .number .nan => "NaN"
  | .number .infinity => "Infinity"
  | .number .negativeInfinity => "-Infinity"
  | .string text => text
  | .array items => commaJoin (convertedItems items)
  | .object _ => "[object Object]"

/-- Missing items of an array convert to nothing. -/
def convertedItems : List Value → List String
  | [] => []
  | .undefined :: rest => "" :: convertedItems rest
  | .null :: rest => "" :: convertedItems rest
  | item :: rest => converted item :: convertedItems rest

end

/-- A property of the parsed claims. -/
def property (fields : List (String × Value)) (key : String) : Value :=
  (fields.lookup key).getD .undefined

def isText (expected : String) : Value → Bool
  | .string text => text == expected
  | _ => false

def isOne : Value → Bool
  | .number (.finite number) => number.text == "1"
  | _ => false

def channelsValid : Value → Bool
  | .array items => countWithin 1 16 items && items.all fun item =>
    match item with
    | .string channel => isChannel channel
    | _ => false
  | _ => false

def claimsValid (fields : List (String × Value)) : Bool :=
  isText "mission-continuation" (property fields "typ") && isOne (property fields "v")
    && isExternalId (converted (property fields "subject_id"))
    && channelsValid (property fields "to_channels")
    && isExternalId (converted (property fields "nonce"))
    && isHexDigest (converted (property fields "state_digest"))

/-- A number with exact arithmetic. -/
inductive Quantity where
  | finite (value : Rat)
  | infinity
  | negativeInfinity
  | nan

def quantityOf (host : ContinuationHost) (value : Value) : Quantity :=
  let number := match value with
    | .number number => number
    | other => host.toNumber other
  match number with
  | .finite number =>
    match integerOf number with
    | some n => .finite n
    | none => .finite (decimalOf number)
  | .infinity => .infinity
  | .negativeInfinity => .negativeInfinity
  | .nan => .nan

/-- Comparison with a bound; a number that is not one is neither above nor below. -/
def Quantity.atMost (quantity : Quantity) (bound : Int) : Bool :=
  match quantity with
  | .finite value => decide (value ≤ bound)
  | .negativeInfinity => true
  | _ => false

def Quantity.above (quantity : Quantity) (bound : Int) : Bool :=
  match quantity with
  | .finite value => decide ((bound : Rat) < value)
  | .infinity => true
  | _ => false

def Quantity.minus : Quantity → Quantity → Quantity
  | .finite left, .finite right => .finite (left - right)
  | .finite _, .infinity => .negativeInfinity
  | .finite _, .negativeInfinity => .infinity
  | .infinity, .finite _ => .infinity
  | .infinity, .negativeInfinity => .infinity
  | .negativeInfinity, .finite _ => .negativeInfinity
  | .negativeInfinity, .infinity => .negativeInfinity
  | _, _ => .nan

def claimsExpired (host : ContinuationHost) (fields : List (String × Value)) (now : Int) : Bool :=
  let expiresAt := quantityOf host (property fields "expires_at")
  let issuedAt := quantityOf host (property fields "issued_at")
  expiresAt.atMost now || issuedAt.above (now + 30) || (expiresAt.minus issuedAt).above 86400

def listsChannel (target : String) : Value → Bool
  | .array items => items.any (isText target)
  | _ => false

def claimsInScope (sha256 : String → String) (fields : List (String × Value))
    (input : VerifyInput) : Bool :=
  isText input.subjectId (property fields "subject_id")
    && isText input.state.missionId (property fields "mission_id")
    && isText input.state.missionVersion (property fields "mission_version")
    && isText (missionStateDigest sha256 input.state) (property fields "state_digest")
    && listsChannel input.targetChannel (property fields "to_channels")

/-- The checks of authentic claims. Claims that are no object have no properties; `null` has
not even absent ones. -/
def checkClaims (sha256 : String → String) (host : ContinuationHost) (claims : Value)
    (input : VerifyInput) : Except ContinuationCode (List (String × Value)) :=
  match claims with
  | .null => .error .invalid
  | .object fields =>
    if !claimsValid fields then .error .invalidClaims
    else if claimsExpired host fields (input.nowMs / 1000) then .error .expired
    else if !claimsInScope sha256 fields input then .error .scopeMismatch
    else .ok fields
  | _ => .error .invalidClaims

/-- A segment of a token; a missing one reads as an empty one. -/
def tokenSegment (token : String) (index : Nat) : String := ((splitDots token)[index]?).getD ""

def verifyMissionContinuation (sha256 : String → String) (host : ContinuationHost)
    (input : VerifyInput) : Except ContinuationCode (List (String × Value)) :=
  match assertStateIntegrity sha256 input.state with
  | .error _ => .error .invalid
  | .ok _ =>
    let body := tokenSegment input.token 0
    let encoded := tokenSegment input.token 1
    let extra := tokenSegment input.token 2
    if body = "" ∨ encoded = "" ∨ extra ≠ "" then .error .malformed
    else if Base64Url.encode (host.decodeBytes encoded) ≠ encoded then .error .invalidSignature
    else if host.decodeBytes encoded ≠ signatureOf host input.secret body then
      .error .invalidSignature
    else
      match host.parseJson (host.decodeText body) with
      | none => .error .invalid
      | some claims => checkClaims sha256 host claims input

end CallCenter.MissionContinuations
