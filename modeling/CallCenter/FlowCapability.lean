import CallCenter.Base64Url
import CallCenter.FlowRuntime

/-!
# Action leases

A lease is a signed claim that one tool may run at one position of one call. Its
token is the encoded claims and their signature, separated by a dot.

`LeaseHost` stands for the host's keyed digest and for its readers of encoded bytes
and of JSON. Whole seconds of the clock are natural numbers. Numbers inside a token
are read as integers when they print without fraction or exponent.
-/

namespace CallCenter.FlowCapability

open JsonValues FlowState DottedPaths

def DEFAULT_TTL_SECONDS : Nat := 5 * 60
def MAX_FLOW_CAPABILITY_TTL_SECONDS : Nat := 60 * 60

/-- The position and tool for which a lease is minted or against which it is checked. -/
structure CapabilitySubject where
  callId : String
  agentId : String
  orgId : String
  runtimeDigest : String
  capabilityEpoch : Nat
  step : String
  attempt : Nat
  tool : String

/-- The signed claims of a lease. -/
structure FlowCapabilityClaims where
  subject : CapabilitySubject
  nonce : String
  iat : Int
  exp : Int

inductive CapabilityErrorCode where
  | invalidCapability
  | expiredCapability
  | capabilityScopeMismatch
  | capabilityTtlExceeded

structure FlowCapabilityError where
  error : String
  code : CapabilityErrorCode

/-- Services of the host: reading base64url as UTF-8 text and as bytes, the keyed
digest of a text under a valid secret, and the JSON reader. -/
structure LeaseHost where
  decodeText : String → String
  decodeBytes : String → List Nat
  signature : String → String → Except String (List Nat)
  parseJson : String → Option Value

/-- An integer and its printed text. -/
def integerNumber (n : Int) : JsonNumber where
  text := if n < 0 then "-" ++ toString n.natAbs else toString n.natAbs
  numeric := by
    obtain ⟨nonempty, digits⟩ := (JsonNumber.ofNat n.natAbs).numeric
    have text : (JsonNumber.ofNat n.natAbs).text = toString n.natAbs := rfl
    rw [text] at nonempty digits
    split
    · refine ⟨by simp, ?_⟩
      intro c member
      rw [String.toList_append, List.mem_append] at member
      rcases member with sign | digit
      · have minus : c = '-' := by simpa using sign
        subst minus
        decide
      · exact digits c digit
    · exact ⟨nonempty, digits⟩

/-- A nonnegative integer read from its digits. -/
def naturalOf (number : JsonNumber) : Option Nat :=
  if number.text.toList.all Char.isDigit then some (Nat.ofDigitChars 10 number.text.toList 0)
  else none

/-- An integer read from its digits and an optional sign. -/
def integerOf (number : JsonNumber) : Option Int :=
  match number.text.toList with
  | '-' :: digits =>
    if digits ≠ [] ∧ digits.all Char.isDigit then some (-(Nat.ofDigitChars 10 digits 0 : Int))
    else none
  | _ => (naturalOf number).map Int.ofNat

/-- The claims as the object that is signed. -/
def FlowCapabilityClaims.toValue (claims : FlowCapabilityClaims) : Value :=
  .object [("typ", .string "flow-action-lease"), ("v", .ofNat 1),
      ("callId", .string claims.subject.callId), ("agentId", .string claims.subject.agentId),
      ("orgId", .string claims.subject.orgId),
      ("runtimeDigest", .string claims.subject.runtimeDigest),
      ("capabilityEpoch", .ofNat claims.subject.capabilityEpoch),
      ("step", .string claims.subject.step), ("attempt", .ofNat claims.subject.attempt),
      ("tool", .string claims.subject.tool), ("nonce", .string claims.nonce),
      ("iat", .number (.finite (integerNumber claims.iat))),
      ("exp", .number (.finite (integerNumber claims.exp)))]

/-- A minted lease. -/
structure SignedCapability where
  token : String
  claims : FlowCapabilityClaims

/-- Secret, clock, lifetime and nonce of a signature. -/
structure SignOptions where
  secret : String
  nowSeconds : Nat
  ttlSeconds : Option Int
  nonce : String

def signFlowCapability (host : LeaseHost) (subject : CapabilitySubject) (options : SignOptions) :
    Except String SignedCapability :=
  let ttlSeconds := options.ttlSeconds.getD DEFAULT_TTL_SECONDS
  if ttlSeconds < 1 ∨ (MAX_FLOW_CAPABILITY_TTL_SECONDS : Int) < ttlSeconds then
    .error s!"flow action lease TTL must be between 1 and {MAX_FLOW_CAPABILITY_TTL_SECONDS} seconds"
  else
    let claims : FlowCapabilityClaims :=
      { subject, nonce := options.nonce, iat := options.nowSeconds,
        exp := options.nowSeconds + ttlSeconds }
    let body := Base64Url.encodeText claims.toValue.print
    (host.signature options.secret body).map fun bytes =>
      { token := body ++ "." ++ Base64Url.encode bytes, claims }

/-- A text field of the claims. -/
def stringField (fields : List (String × Value)) (key : String) : Option String :=
  match fields.lookup key with
  | some (.string text) => some text
  | _ => none

/-- A nonnegative integer field of the claims. -/
def naturalField (fields : List (String × Value)) (key : String) : Option Nat :=
  match fields.lookup key with
  | some (.number (.finite number)) => naturalOf number
  | _ => none

/-- An integer field of the claims. -/
def integerField (fields : List (String × Value)) (key : String) : Option Int :=
  match fields.lookup key with
  | some (.number (.finite number)) => integerOf number
  | _ => none

def parseClaims (value : Value) : Option FlowCapabilityClaims :=
  match value with
  | .object fields => do
      let typ ← stringField fields "typ"
      let version ← naturalField fields "v"
      let callId ← stringField fields "callId"
      let agentId ← stringField fields "agentId"
      let orgId ← stringField fields "orgId"
      let runtimeDigest ← stringField fields "runtimeDigest"
      let capabilityEpoch ← naturalField fields "capabilityEpoch"
      let step ← stringField fields "step"
      let attempt ← naturalField fields "attempt"
      let tool ← stringField fields "tool"
      let nonce ← stringField fields "nonce"
      let iat ← integerField fields "iat"
      let exp ← integerField fields "exp"
      if typ = "flow-action-lease" ∧ version = 1 ∧ isHexDigest runtimeDigest = true then
        some
          { subject := { callId, agentId, orgId, runtimeDigest, capabilityEpoch, step, attempt,
                         tool }
            nonce, iat, exp }
      else none
  | _ => none

/-- The first subject field in which claims and expectation differ. -/
def mismatchedField (claimed expected : CapabilitySubject) : Option String :=
  if claimed.callId ≠ expected.callId then some "callId"
  else if claimed.agentId ≠ expected.agentId then some "agentId"
  else if claimed.orgId ≠ expected.orgId then some "orgId"
  else if claimed.runtimeDigest ≠ expected.runtimeDigest then some "runtimeDigest"
  else if claimed.capabilityEpoch ≠ expected.capabilityEpoch then some "capabilityEpoch"
  else if claimed.step ≠ expected.step then some "step"
  else if claimed.attempt ≠ expected.attempt then some "attempt"
  else if claimed.tool ≠ expected.tool then some "tool"
  else none

/-- Lifetime and subject of authentic claims. -/
def checkClaims (claims : FlowCapabilityClaims) (expected : CapabilitySubject)
    (nowSeconds : Nat) : Except FlowCapabilityError FlowCapabilityClaims :=
  if claims.exp ≤ nowSeconds then
    .error ⟨"action capability expired", .expiredCapability⟩
  else if (MAX_FLOW_CAPABILITY_TTL_SECONDS : Int) < claims.exp - claims.iat ∨
      (nowSeconds : Int) + 30 < claims.iat then
    .error ⟨"action capability lifetime is invalid", .capabilityTtlExceeded⟩
  else
    match mismatchedField claims.subject expected with
    | some key => .error ⟨s!"action capability does not match {key}", .capabilityScopeMismatch⟩
    | none => .ok claims

def verifyFlowCapability (host : LeaseHost) (token : String) (expected : CapabilitySubject)
    (secret : String) (nowSeconds : Nat) : Except FlowCapabilityError FlowCapabilityClaims :=
  let segments := splitDots token
  let body := (segments[0]?).getD ""
  let encodedSignature := (segments[1]?).getD ""
  let extra := (segments[2]?).getD ""
  if body = "" ∨ encodedSignature = "" ∨ extra ≠ "" then
    .error ⟨"malformed action capability", .invalidCapability⟩
  else
    match host.signature secret body with
    | .error _ => .error ⟨"invalid action capability", .invalidCapability⟩
    | .ok wanted =>
      if host.decodeBytes encodedSignature ≠ wanted then
        .error ⟨"invalid action capability signature", .invalidCapability⟩
      else
        match host.parseJson (host.decodeText body) with
        | none => .error ⟨"invalid action capability", .invalidCapability⟩
        | some value =>
          match parseClaims value with
          | none => .error ⟨"invalid action capability claims", .invalidCapability⟩
          | some claims => checkClaims claims expected nowSeconds

/-- The call that a gateway session is bound to. -/
structure CapabilitySession where
  callId : String
  agentId : String
  orgId : String
  runtimeDigest : String

/-- The subject of a tool at the current position of a call. -/
def subjectAt (session : CapabilitySession) (state : FlowExecutionState) (tool : String) :
    CapabilitySubject where
  callId := session.callId
  agentId := session.agentId
  orgId := session.orgId
  runtimeDigest := session.runtimeDigest
  capabilityEpoch := state.capabilityEpoch
  step := (flowCapabilityScope state).step
  attempt := (flowCapabilityScope state).attempt
  tool := tool

/-- The host reads back the claims it was given: their encoding decodes to the text
that was encoded, and that text parses to the claims. -/
structure LeaseHost.ReadsBack (host : LeaseHost) (claims : FlowCapabilityClaims) : Prop where
  decoded : host.decodeText (Base64Url.encodeText claims.toValue.print) = claims.toValue.print
  parsed : host.parseJson claims.toValue.print = some claims.toValue

theorem toDigits_numeric (n : Nat) : (Nat.toDigits 10 n).all Char.isDigit := by
  rw [List.all_eq_true]
  intro c member
  exact Nat.isDigit_of_mem_toDigits (by decide) (by decide) member

/-- Digits read back as the number they print. -/
theorem naturalOf_ofNat (n : Nat) : naturalOf (.ofNat n) = some n := by
  have digits : (JsonNumber.ofNat n).text.toList = Nat.toDigits 10 n := by
    simp [JsonNumber.ofNat, Nat.toString_eq_repr, Nat.repr]
  rw [naturalOf, digits, if_pos (toDigits_numeric n), Nat.ofDigitChars_toDigits (by decide) (by decide)]

/-- Reading back the signed object recovers the subject of the claims. -/
theorem parseClaims_subject {claims parsed : FlowCapabilityClaims}
    (read : parseClaims claims.toValue = some parsed) : parsed.subject = claims.subject := by
  simp only [parseClaims, FlowCapabilityClaims.toValue, stringField, naturalField, integerField,
    Value.ofNat, List.lookup_cons, String.reduceBEq, naturalOf_ofNat, Option.bind_eq_bind,
    Option.bind_some, Option.bind_eq_some_iff] at read
  obtain ⟨iat, _, exp, _, built⟩ := read
  split at built
  · cases built
    rfl
  · cases built

theorem integerOf_integerNumber (n : Nat) : integerOf (integerNumber n) = some (n : Int) := by
  have plain : integerNumber n = JsonNumber.ofNat n := by simp [integerNumber, JsonNumber.ofNat]
  have digits : (JsonNumber.ofNat n).text.toList = Nat.toDigits 10 n := by
    simp [JsonNumber.ofNat, Nat.toString_eq_repr, Nat.repr]
  rw [plain, integerOf]
  split
  · rename_i rest minus
    have digit : ('-').isDigit :=
      Nat.isDigit_of_mem_toDigits (b := 10) (n := n) (by decide) (by decide) (by
        rw [← digits, minus]
        exact List.mem_cons_self)
    exact absurd digit (by decide)
  · rw [naturalOf_ofNat]
    rfl

/-- Reading back the signed object of a lease with a proper digest recovers the claims. -/
theorem parseClaims_toValue {claims : FlowCapabilityClaims} {iat exp : Nat}
    (digest : isHexDigest claims.subject.runtimeDigest) (issued : claims.iat = iat)
    (expires : claims.exp = exp) : parseClaims claims.toValue = some claims := by
  obtain ⟨subject, nonce, _, _⟩ := claims
  dsimp only at digest issued expires
  subst issued expires
  simp [parseClaims, FlowCapabilityClaims.toValue, stringField, naturalField, integerField,
    Value.ofNat, List.lookup_cons, naturalOf_ofNat, integerOf_integerNumber, digest]

/-- Matching subjects are equal. -/
theorem eq_of_mismatchedField_none {claimed expected : CapabilitySubject}
    (matched : mismatchedField claimed expected = none) : claimed = expected := by
  unfold mismatchedField at matched
  cases claimed
  cases expected
  simp only [ne_eq, ite_not] at matched
  grind

/-- A minted lease is accepted only for the subject it was minted for. -/
theorem verify_minted_subject {host : LeaseHost} {subject expected : CapabilitySubject}
    {options : SignOptions} {lease : SignedCapability} {secret : String} {nowSeconds : Nat}
    {accepted : FlowCapabilityClaims}
    (minted : signFlowCapability host subject options = .ok lease)
    (reads : host.ReadsBack lease.claims)
    (verified : verifyFlowCapability host lease.token expected secret nowSeconds = .ok accepted) :
    subject = expected := by
  unfold signFlowCapability at minted
  dsimp only at minted
  split at minted
  · cases minted
  obtain ⟨bytes, _, rfl⟩ := map_ok_iff.mp minted
  unfold verifyFlowCapability at verified
  dsimp only at verified
  rw [splitDots_append_dot, splitDots_of_dotless _ (Base64Url.encodeText_dotless _)] at verified
  simp only [List.singleton_append, List.getElem?_cons_zero, Option.getD_some, reads.decoded,
    reads.parsed] at verified
  split at verified
  · cases verified
  split at verified
  · cases verified
  split at verified
  · cases verified
  split at verified
  · cases verified
  rename_i parsed read
  unfold checkClaims at verified
  split at verified
  · cases verified
  split at verified
  · cases verified
  split at verified
  · cases verified
  rename_i matched
  rw [← eq_of_mismatchedField_none matched, parseClaims_subject read]

/-- A minted lease is accepted for its own subject until it expires, by a host that
also reads back its signature. -/
theorem verify_minted_accepted {host : LeaseHost} {subject : CapabilitySubject}
    {options : SignOptions} {lease : SignedCapability} {bytes : List Nat} {nowSeconds : Nat}
    (minted : signFlowCapability host subject options = .ok lease)
    (signed : host.signature options.secret (Base64Url.encodeText lease.claims.toValue.print) =
      .ok bytes) (reads : host.ReadsBack lease.claims) (bytesNonempty : bytes ≠ [])
    (signatureDecoded : host.decodeBytes (Base64Url.encode bytes) = bytes)
    (digest : isHexDigest subject.runtimeDigest) (started : options.nowSeconds ≤ nowSeconds)
    (unexpired : nowSeconds < lease.claims.exp) :
    verifyFlowCapability host lease.token subject options.secret nowSeconds = .ok lease.claims := by
  unfold signFlowCapability at minted
  dsimp only at minted
  split at minted
  · cases minted
  rename_i lifetime
  obtain ⟨lower, upper⟩ := not_or.mp lifetime
  obtain ⟨bytes', signed', rfl⟩ := map_ok_iff.mp minted
  dsimp only at signed reads unexpired
  obtain rfl : bytes' = bytes := by simpa [signed'] using signed
  obtain ⟨exp, expires⟩ : ∃ exp : Nat, (options.nowSeconds : Int) +
      options.ttlSeconds.getD DEFAULT_TTL_SECONDS = exp :=
    ⟨((options.nowSeconds : Int) + options.ttlSeconds.getD DEFAULT_TTL_SECONDS).toNat, by omega⟩
  have parsed : parseClaims (FlowCapabilityClaims.toValue
      ⟨subject, options.nonce, options.nowSeconds,
        options.nowSeconds + options.ttlSeconds.getD DEFAULT_TTL_SECONDS⟩) = some _ :=
    parseClaims_toValue digest rfl expires
  have same : mismatchedField subject subject = none := by simp [mismatchedField]
  have bodyNonempty (claims : FlowCapabilityClaims) :
      Base64Url.encodeText claims.toValue.print ≠ "" := by
    apply Base64Url.encodeText_ne_empty
    intro empty
    simpa [FlowCapabilityClaims.toValue, Value.print] using congrArg String.toList empty
  have signatureNonempty : Base64Url.encode bytes' ≠ "" := Base64Url.encode_ne_empty bytesNonempty
  unfold verifyFlowCapability
  dsimp only
  rw [splitDots_append_dot, splitDots_of_dotless _ (Base64Url.encodeText_dotless _),
    splitDots_of_dotless _ (Base64Url.encode_dotless _)]
  simp only [List.singleton_append, List.getElem?_cons_zero, List.getElem?_cons_succ,
    List.getElem?_nil, Option.getD_some, Option.getD_none, bodyNonempty, signatureNonempty,
    ne_eq, not_true_eq_false, or_self, if_false, signed', signatureDecoded, reads.decoded,
    reads.parsed, parsed, checkClaims]
  rw [if_neg (by omega), if_neg (by omega), same]

end CallCenter.FlowCapability
