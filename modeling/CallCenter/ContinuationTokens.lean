import CallCenter.MissionContinuations

/-!
# Which continuation tokens are accepted

An issued token is accepted for its own state and subject, on its channels and within its
lifetime, and for no state that a later operation reaches. What is accepted consists of a
body and its encoded signature, and possibly of an empty third segment with anything behind
it: only the third segment is looked at, and only whether it is empty.
-/

namespace CallCenter.ContinuationTokens

open JsonValues DottedPaths FlowDefinition FlowState Guards MissionSchema MissionLedger
open MissionRuntime MissionSettlement MissionTransitions MissionContinuations
open FlowCapability (integerNumber integerOf naturalOf naturalOf_ofNat)

variable {sha256 : String → String} {host : ContinuationHost}

/-! ## Segments -/

theorem joinDots_splitDots (text : String) : joinDots (splitDots text) = text := by
  have recovered : (splitDots text).map String.toList = text.toList.splitOn '.' := by
    simp [splitDots, Function.comp_def]
  rw [joinDots, recovered, List.intercalate_splitOn]
  exact String.ofList_toList

/-- The token ends with its second segment. -/
def twoSegments (token : String) : Prop := (splitDots token)[2]? = none

/-- Everything an accepted token went through. -/
structure Accepted (sha256 : String → String) (host : ContinuationHost) (input : VerifyInput)
    (fields : List (String × Value)) : Prop where
  intact : ∃ done, assertStateIntegrity sha256 input.state = .ok done
  named : tokenSegment input.token 0 ≠ ""
  signed : tokenSegment input.token 1 ≠ ""
  ended : tokenSegment input.token 2 = ""
  canonical : tokenSegment input.token 1 =
    Base64Url.encode (signatureOf host input.secret (tokenSegment input.token 0))
  decoded : host.decodeBytes (tokenSegment input.token 1) =
    signatureOf host input.secret (tokenSegment input.token 0)
  parsed : host.parseJson (host.decodeText (tokenSegment input.token 0)) = some (.object fields)
  valid : claimsValid fields = true
  current : claimsExpired host fields (input.nowMs / 1000) = false
  inScope : claimsInScope sha256 fields input = true

variable {input : VerifyInput} {fields : List (String × Value)}

theorem checkClaims_ok_iff {claims : Value} : checkClaims sha256 host claims input = .ok fields ↔
      claims = .object fields ∧ claimsValid fields = true ∧
        claimsExpired host fields (input.nowMs / 1000) = false ∧
        claimsInScope sha256 fields input = true := by
  cases claims with
  | object =>
    simp only [checkClaims, Value.object.injEq]
    split
    · next invalid =>
      simp only [reduceCtorEq, false_iff, not_and]
      rintro rfl valid
      simp [valid] at invalid
    split
    · next expired =>
      simp only [reduceCtorEq, false_iff, not_and]
      rintro rfl _ current
      simp [current] at expired
    split
    · next mismatched =>
      simp only [reduceCtorEq, false_iff, not_and]
      rintro rfl _ _ inScope
      simp [inScope] at mismatched
    · next valid current inScope =>
      simp only [Except.ok.injEq]
      constructor
      · rintro rfl
        exact ⟨rfl, by simpa using valid, by simpa using current, by simpa using inScope⟩
      · exact fun all => all.1
  | _ => simp [checkClaims]

theorem verify_ok_iff :
    verifyMissionContinuation sha256 host input = .ok fields ↔ Accepted sha256 host input fields := by
  constructor
  · intro verified
    unfold verifyMissionContinuation at verified
    split at verified
    · cases verified
    next done intact =>
    dsimp only at verified
    split at verified
    · cases verified
    next shape =>
    split at verified
    · cases verified
    next reencoded =>
    split at verified
    · cases verified
    next authentic =>
    split at verified
    · cases verified
    next claims parsed =>
    obtain ⟨rfl, valid, current, inScope⟩ := checkClaims_ok_iff.mp verified
    simp only [not_or, ne_eq, Decidable.not_not] at shape reencoded authentic
    exact {
      intact := ⟨done, intact⟩
      named := shape.1
      signed := shape.2.1
      ended := shape.2.2
      canonical := by rw [← authentic]; exact reencoded.symm
      decoded := authentic
      parsed := parsed
      valid := valid
      current := current
      inScope := inScope }
  · intro accepted
    obtain ⟨done, intact⟩ := accepted.intact
    have checked := checkClaims_ok_iff.mpr ⟨rfl, accepted.valid, accepted.current, accepted.inScope⟩
    simp [verifyMissionContinuation, intact, accepted.named, accepted.signed, accepted.ended,
      accepted.decoded, ← accepted.canonical, accepted.parsed, checked]

/-! ## Every accepted token -/

/-- A body and an encoded signature are the two segments of their token. -/
theorem splitDots_token (text : String) (bytes : List Nat) :
    splitDots (Base64Url.encodeText text ++ "." ++ Base64Url.encode bytes) =
      [Base64Url.encodeText text, Base64Url.encode bytes] := by
  rw [splitDots_append_dot, splitDots_of_dotless _ (Base64Url.encodeText_dotless text),
    splitDots_of_dotless _ (Base64Url.encode_dotless bytes)]
  rfl

theorem joinDots_cons (first second : String) (rest : List String) :
    joinDots (first :: second :: rest) = first ++ "." ++ joinDots (second :: rest) := by
  have joined := joinDots_append [first] (second :: rest) (by simp) (by simp)
  rwa [joinDots_singleton] at joined

/-- An accepted token is its body and the encoded signature of its body exactly when it has
no third segment. -/
theorem Accepted.canonical_iff (accepted : Accepted sha256 host input fields) :
    input.token = tokenSegment input.token 0 ++ "." ++
        Base64Url.encode (signatureOf host input.secret (tokenSegment input.token 0)) ↔
      twoSegments input.token := by
  have joined := joinDots_splitDots input.token
  have named := accepted.named
  have signed := accepted.signed
  rw [← accepted.canonical]
  simp only [tokenSegment, twoSegments] at named signed ⊢
  match pieces : splitDots input.token with
  | [] => simp [pieces] at named
  | [only] => simp [pieces] at signed
  | [body, encoded] =>
    rw [pieces, joinDots_cons, joinDots_singleton] at joined
    simp [joined]
  | body :: encoded :: third :: rest =>
    -- A third segment adds a dot behind the second one.
    have longer : input.token ≠ body ++ "." ++ encoded := by
      intro same
      rw [pieces, joinDots_cons, joinDots_cons, same] at joined
      have lengths := congrArg (fun text => text.toList.length) joined
      simp only [String.toList_append, List.length_append] at lengths
      have dot : ".".toList.length = 1 := by decide
      omega
    simpa using longer

/-! ## Issued tokens -/

/-- The host reads back what it issued: the encoding of the claims decodes to their text,
which parses to an object with the same properties, and the encoded signature decodes to its
bytes, of which there are some. -/
structure ReadsBack (host : ContinuationHost) (secret : String)
    (claims : MissionContinuationClaims) : Prop where
  decoded : host.decodeText claims.body = (Value.object claims.fields).text
  parsed : ∃ fields, host.parseJson (Value.object claims.fields).text = some (.object fields) ∧
    ∀ key, fields.lookup key = claims.fields.lookup key
  bytes : host.decodeBytes (Base64Url.encode (signatureOf host secret claims.body)) =
    signatureOf host secret claims.body
  signed : signatureOf host secret claims.body ≠ []

/-- What the guards of an issued continuation established. -/
structure Issued (sha256 : String → String) (host : ContinuationHost) (input : IssueInput)
    (issued : IssuedContinuation) : Prop where
  intact : assertStateIntegrity sha256 input.state = .ok ()
  subject : isExternalId input.subjectId = true
  counted : countWithin 1 16 input.toChannels = true
  channels : input.toChannels.all isChannel = true
  nonce : isExternalId input.nonce = true
  lifetime : ∃ ttl, 1 ≤ ttl ∧ ttl ≤ 86400 ∧ issued.claims.expiresAt = issued.claims.issuedAt + ttl
  claimed : issued.claims = { issued.claims with
    subjectId := input.subjectId
    missionId := input.state.missionId
    missionVersion := input.state.missionVersion
    stateDigest := missionStateDigest sha256 input.state
    toChannels := (distinct input.toChannels).insertionSort fun left right =>
      unitsLe (utf16 left) (utf16 right) = true
    issuedAt := input.nowMs / 1000
    nonce := input.nonce }
  token : issued.token = issued.claims.body ++ "." ++
    Base64Url.encode (signatureOf host input.secret issued.claims.body)

theorem lifetime_ok {given : Option JsNumber} {ttl : Int} (read : lifetime given = .ok ttl) :
    1 ≤ ttl ∧ ttl ≤ 86400 := by
  unfold lifetime at read
  split at read
  · cases read
    decide
  · split at read
    · next seconds within =>
      cases read
      simpa using (Option.filter_eq_some_iff.mp within).2
    · cases read
  · cases read

theorem issued_of_ok {input : IssueInput} {issued : IssuedContinuation}
    (returned : issueMissionContinuation sha256 host input = .ok issued) :
    Issued sha256 host input issued := by
  simp only [issueMissionContinuation, assertExternalId, bind_ok_iff, require_ok_iff, pure_ok_iff,
    Bool.and_eq_true] at returned
  obtain ⟨_, intact, _, _, _, subject, _, ⟨⟨_, counted⟩, channels⟩, ttl, lived, _, nonce, rfl⟩ :=
    returned
  obtain ⟨atLeast, atMost⟩ := lifetime_ok lived
  exact ⟨intact, subject, counted, channels, nonce, ⟨ttl, atLeast, atMost, rfl⟩, rfl, rfl⟩

/-- An integer reads back from its text. -/
theorem integerOf_integerNumber (n : Int) : integerOf (integerNumber n) = some n := by
  by_cases negative : n < 0
  · have text : (integerNumber n).text.toList = '-' :: Nat.toDigits 10 n.natAbs := by
      simp [integerNumber, negative, Nat.toString_eq_repr, Nat.repr]
    rw [integerOf, text]
    simp only [ne_eq, Nat.toDigits_ne_nil, not_false_eq_true, FlowCapability.toDigits_numeric,
      and_self, if_true, Nat.ofDigitChars_toDigits (by decide : 1 < 10) (by decide : 10 ≤ 10)]
    simp only [Option.some.injEq]
    omega
  · obtain ⟨natural, rfl⟩ := Int.eq_ofNat_of_zero_le (not_lt.mp negative)
    exact FlowCapability.integerOf_integerNumber natural

theorem quantityOf_integerValue (host : ContinuationHost) (n : Int) :
    quantityOf host (integerValue n) = .finite n := by
  simp [quantityOf, integerValue, integerOf_integerNumber]

theorem atMost_int (n bound : Int) : (Quantity.finite n).atMost bound = decide (n ≤ bound) := by
  simp [Quantity.atMost]

theorem above_int (n bound : Int) : (Quantity.finite n).above bound = decide (bound < n) := by
  simp [Quantity.above]

theorem minus_int (left right : Int) :
    (Quantity.finite left).minus (.finite right) = .finite ((left - right : Int) : Rat) := by
  simp [Quantity.minus]

section Properties

variable {claims : MissionContinuationClaims} {fields : List (String × Value)}
  (same : ∀ key, fields.lookup key = claims.fields.lookup key)

include same

theorem property_eq (key : String) {value : Value} (found : claims.fields.lookup key = some value) :
    property fields key = value := by
  rw [property, same, found]
  rfl

theorem claimsExpired_iff (host : ContinuationHost) (now : Int) :
    claimsExpired host fields now = false ↔ now < claims.expiresAt ∧ claims.issuedAt ≤ now + 30 ∧
      claims.expiresAt - claims.issuedAt ≤ 86400 := by
  have expires : property fields "expires_at" = integerValue claims.expiresAt :=
    property_eq same _ rfl
  have issued : property fields "issued_at" = integerValue claims.issuedAt := property_eq same _ rfl
  simp only [claimsExpired, expires, issued, quantityOf_integerValue, minus_int, atMost_int,
    above_int, Bool.or_eq_false_iff, decide_eq_false_iff_not, not_le, not_lt, and_assoc]

theorem claimsInScope_iff (input : VerifyInput) :
    claimsInScope sha256 fields input = true ↔ claims.subjectId = input.subjectId ∧
      claims.missionId = input.state.missionId ∧
      claims.missionVersion = input.state.missionVersion ∧
      claims.stateDigest = missionStateDigest sha256 input.state ∧
      input.targetChannel ∈ claims.toChannels := by
  simp only [claimsInScope, property_eq same "subject_id" rfl, property_eq same "mission_id" rfl,
    property_eq same "mission_version" rfl, property_eq same "state_digest" rfl,
    property_eq same "to_channels" rfl, isText, listsChannel, textArray, List.any_map,
    Function.comp_def, Bool.and_eq_true, beq_iff_eq, List.any_eq_true, exists_eq_right, and_assoc]

theorem claimsValid_of (subject : isExternalId claims.subjectId)
    (counted : countWithin 1 16 claims.toChannels) (shaped : claims.toChannels.all isChannel)
    (nonce : isExternalId claims.nonce) (hex : isHexDigest claims.stateDigest) :
    claimsValid fields := by
  have one : isOne (.ofNat 1) := by decide
  have listed : channelsValid (textArray claims.toChannels) := by
    simp only [channelsValid, textArray, countWithin, List.length_map, List.all_map,
      Function.comp_def, Bool.and_eq_true] at counted shaped ⊢
    exact ⟨counted, shaped⟩
  simp only [claimsValid, property_eq same "typ" rfl, property_eq same "v" rfl,
    property_eq same "subject_id" rfl, property_eq same "to_channels" rfl,
    property_eq same "nonce" rfl, property_eq same "state_digest" rfl, isText, one, converted,
    subject, listed, nonce, hex, beq_self_eq_true, Bool.and_self]

end Properties

theorem countWithin_distinct {channels : List String} (counted : countWithin 1 16 channels) :
    countWithin 1 16 ((distinct channels).insertionSort fun left right =>
      unitsLe (utf16 left) (utf16 right) = true) = true := by
  simp only [countWithin, decide_eq_true_eq, List.length_insertionSort] at counted ⊢
  have fewer : (distinct channels).length ≤ channels.length :=
    (List.subperm_of_subset (nodup_distinct channels) fun channel member =>
      (mem_distinct _ _).mp member).length_le
  have some : distinct channels ≠ [] := by
    obtain ⟨first, member⟩ := List.exists_mem_of_length_pos (Nat.lt_of_lt_of_le Nat.zero_lt_one counted.1)
    exact List.ne_nil_of_mem ((mem_distinct channels first).mpr member)
  have positive := List.length_pos_iff.mpr some
  omega

section Tokens

variable {input : IssueInput} {issued : IssuedContinuation}

theorem Issued.splitDots_token (made : Issued sha256 host input issued) : splitDots issued.token =
      [issued.claims.body, Base64Url.encode (signatureOf host input.secret issued.claims.body)] := by
  rw [made.token]
  exact ContinuationTokens.splitDots_token _ _

/-- What an accepted issued token was parsed to. -/
theorem Issued.properties (made : Issued sha256 host input issued)
    (reads : ReadsBack host input.secret issued.claims) {verifier : VerifyInput}
    {fields : List (String × Value)} (accepted : Accepted sha256 host verifier fields)
    (same : verifier.token = issued.token) (key : String) :
    fields.lookup key = issued.claims.fields.lookup key := by
  obtain ⟨found, parsed, properties⟩ := reads.parsed
  have read := accepted.parsed
  have body : tokenSegment verifier.token 0 = issued.claims.body := by
    simp [tokenSegment, same, made.splitDots_token]
  rw [body, reads.decoded, parsed] at read
  cases read
  exact properties key

/-- An issued token is accepted for its state and subject exactly on its channels and within
its lifetime. -/
theorem Issued.accepted_iff (hex : ∀ text, isHexDigest (sha256 text) = true)
    (made : Issued sha256 host input issued) (reads : ReadsBack host input.secret issued.claims)
    (targetChannel : String) (nowMs : Int) :
    (∃ fields, verifyMissionContinuation sha256 host
        { token := issued.token, state := input.state, subjectId := input.subjectId, targetChannel
          secret := input.secret, nowMs } = .ok fields) ↔
      targetChannel ∈ input.toChannels ∧ issued.claims.issuedAt - 30 ≤ nowMs / 1000 ∧
        nowMs / 1000 < issued.claims.expiresAt := by
  have claimed := made.claimed
  have listed : targetChannel ∈ issued.claims.toChannels ↔ targetChannel ∈ input.toChannels := by
    rw [claimed, List.mem_insertionSort, mem_distinct]
  obtain ⟨ttl, atLeast, atMost, expires⟩ := made.lifetime
  constructor
  · rintro ⟨fields, verified⟩
    have accepted := verify_ok_iff.mp verified
    have same := made.properties reads accepted rfl
    have scope := (claimsInScope_iff same _).mp accepted.inScope
    have times := (claimsExpired_iff same host _).mp accepted.current
    exact ⟨listed.mp scope.2.2.2.2, by have := times.2.1; dsimp only at this; omega, times.1⟩
  · rintro ⟨channel, notEarly, notLate⟩
    obtain ⟨fields, parsed, same⟩ := reads.parsed
    refine ⟨fields, verify_ok_iff.mpr ?_⟩
    have body : tokenSegment issued.token 0 = issued.claims.body := by
      simp [tokenSegment, made.splitDots_token]
    have encoded : tokenSegment issued.token 1 =
        Base64Url.encode (signatureOf host input.secret issued.claims.body) := by
      simp [tokenSegment, made.splitDots_token]
    exact {
      intact := ⟨(), made.intact⟩
      named := by
        rw [body]
        apply Base64Url.encodeText_ne_empty
        simp [Value.text, Value.normal, Value.print]
      signed := by rw [encoded]; exact Base64Url.encode_ne_empty reads.signed
      ended := by simp [tokenSegment, made.splitDots_token]
      canonical := by rw [body, encoded]
      decoded := by rw [body, encoded]; exact reads.bytes
      parsed := by rw [body, reads.decoded]; exact parsed
      valid := by
        apply claimsValid_of same
        · rw [claimed]; exact made.subject
        · rw [claimed]; exact countWithin_distinct made.counted
        · rw [claimed, List.all_eq_true]
          intro other member
          rw [List.mem_insertionSort, mem_distinct] at member
          exact List.all_eq_true.mp made.channels other member
        · rw [claimed]; exact made.nonce
        · rw [claimed]; exact hex _
      current := (claimsExpired_iff same host _).mpr ⟨notLate, by dsimp only; omega, by omega⟩
      inScope := (claimsInScope_iff same _).mpr
        ⟨by rw [claimed], by rw [claimed], by rw [claimed], by rw [claimed], listed.mpr channel⟩ }

end Tokens

/-! ## Later states -/

theorem lookup_revision (state : MissionState) :
    (stateFields state).lookup "revision" = some (.ofNat state.revision) := rfl

/-- The digest keeps the texts of two states apart. -/
def Apart (sha256 : String → String) (left right : MissionState) : Prop :=
  missionStateDigest sha256 left = missionStateDigest sha256 right →
    (Value.object (stateFields left)).text = (Value.object (stateFields right)).text

/-- States of JSON values with one digest have one revision. -/
theorem revision_of_digest {left right : MissionState} (apart : Apart sha256 left right)
    (leftJson : (Value.object (stateFields left)).isJson)
    (rightJson : (Value.object (stateFields right)).isJson)
    (same : missionStateDigest sha256 left = missionStateDigest sha256 right) :
    left.revision = right.revision := by
  have normal := JsonText.text_injective leftJson rightJson (apart same)
  have keys : ((stateFields left).map Prod.fst).Nodup := by
    simp only [stateFields, MissionState.head, List.map_append, List.map_cons, List.map_nil]
    decide
  have field := JsonText.lookup_of_normal keys normal "revision"
  rw [lookup_revision, lookup_revision] at field
  exact JsonText.ofNat_injective (by simpa [Value.ofNat, Value.normal] using field)

/-- A run of operations leaves the state alone or raises its revision. -/
theorem runMission_advances (definition : MissionDefinition) (state : MissionState)
    (operations : List MissionOperation) :
    runMission sha256 definition state operations = state ∨
      state.revision < (runMission sha256 definition state operations).revision := by
  refine Runs.run_invariant (fun reached => reached = state ∨ state.revision < reached.revision)
    (.inl rfl) ?_ operations
  intro reached operation advanced
  have moves : missionStep sha256 definition reached operation = reached ∨ _ :=
    missionStep_moves operation
  rcases moves with same | ⟨patched, rotate, events, _, moved⟩
  · rwa [same]
  · right
    rw [moved]
    rcases advanced with rfl | later
    · exact Nat.lt_succ_self _
    · exact Nat.lt_succ_of_lt later

/-! ## Extended tokens -/

/-- What may stand behind an accepted token: nothing, or a further dot and anything. -/
def unread (suffix : String) : Prop := (splitDots suffix)[0]? = some ""

/-- A dot and an unread rest behind an accepted token change nothing. -/
theorem Accepted.extended {suffix : String} (accepted : Accepted sha256 host input fields)
    (two : twoSegments input.token) (rest : unread suffix) :
    Accepted sha256 host { input with token := input.token ++ "." ++ suffix } fields := by
  have named := accepted.named
  have signed := accepted.signed
  obtain ⟨more, pieces⟩ : ∃ more, splitDots suffix = "" :: more := by
    unfold unread at rest
    cases split : splitDots suffix with
    | nil => simp [split] at rest
    | cons head more => exact ⟨more, by simpa [split] using rest⟩
  obtain ⟨body, encoded, own⟩ : ∃ body encoded, splitDots input.token = [body, encoded] := by
    unfold twoSegments at two
    unfold tokenSegment at named signed
    match split : splitDots input.token with
    | [] => simp [split] at named
    | [only] => simp [split] at signed
    | [body, encoded] => exact ⟨body, encoded, rfl⟩
    | body :: encoded :: third :: others => simp [split] at two
  have longer : splitDots (input.token ++ "." ++ suffix) = body :: encoded :: "" :: more := by
    rw [splitDots_append_dot, own, pieces]
    rfl
  have first : tokenSegment (input.token ++ "." ++ suffix) 0 = tokenSegment input.token 0 := by
    simp [tokenSegment, own, longer]
  have second : tokenSegment (input.token ++ "." ++ suffix) 1 = tokenSegment input.token 1 := by
    simp [tokenSegment, own, longer]
  exact {
    intact := accepted.intact
    named := by rw [first]; exact named
    signed := by rw [second]; exact signed
    ended := by simp [tokenSegment, longer]
    canonical := by rw [first, second]; exact accepted.canonical
    decoded := by rw [first, second]; exact accepted.decoded
    parsed := by rw [first]; exact accepted.parsed
    valid := accepted.valid
    current := accepted.current
    inScope := accepted.inScope }

/-- Continuation tokens: what is accepted of an issued token, in which states, and in which
texts. -/
theorem continuation_acceptance {input : IssueInput} {issued : IssuedContinuation}
    (hex : ∀ text, isHexDigest (sha256 text) = true)
    (returned : issueMissionContinuation sha256 host input = .ok issued)
    (reads : ReadsBack host input.secret issued.claims)
    (unforged : ∀ body, signatureOf host input.secret body =
      signatureOf host input.secret issued.claims.body → body = issued.claims.body) :
    -- The issued token is accepted on its channels and within its lifetime.
    (∀ targetChannel nowMs, (∃ fields, verifyMissionContinuation sha256 host
        { token := issued.token, state := input.state, subjectId := input.subjectId, targetChannel
          secret := input.secret, nowMs } = .ok fields) ↔
      targetChannel ∈ input.toChannels ∧ issued.claims.issuedAt - 30 ≤ nowMs / 1000 ∧
        nowMs / 1000 < issued.claims.expiresAt) ∧
    -- It is refused in every other state that operations reach.
    (∀ definition operations, let reached := runMission sha256 definition input.state operations
      reached = input.state ∨ (Apart sha256 input.state reached →
        (Value.object (stateFields input.state)).isJson = true →
        (Value.object (stateFields reached)).isJson = true →
        ∀ verifier fields, verifier.token = issued.token → verifier.state = reached →
          verifyMissionContinuation sha256 host verifier ≠ .ok fields)) ∧
    -- Every accepted token is canonical exactly when it has no third segment.
    (∀ verifier fields, verifyMissionContinuation sha256 host verifier = .ok fields →
      (verifier.token = tokenSegment verifier.token 0 ++ "." ++
          Base64Url.encode (signatureOf host verifier.secret (tokenSegment verifier.token 0)) ↔
        twoSegments verifier.token) ∧
      -- So is one that shares the body or the signature of the issued token.
      (verifier.secret = input.secret → tokenSegment verifier.token 0 = issued.claims.body ∨
          tokenSegment verifier.token 1 = tokenSegment issued.token 1 →
        (verifier.token = issued.token ↔ twoSegments verifier.token))) := by
  have made := issued_of_ok returned
  refine ⟨made.accepted_iff hex reads, ?_, ?_⟩
  · intro definition operations reached
    have advances : reached = input.state ∨ input.state.revision < reached.revision :=
      runMission_advances definition input.state operations
    rcases advances with same | later
    · exact .inl same
    right
    intro apart stateJson reachedJson verifier fields token state verified
    have accepted := verify_ok_iff.mp verified
    have scope := (claimsInScope_iff (made.properties reads accepted token) _).mp accepted.inScope
    have digest : missionStateDigest sha256 input.state = missionStateDigest sha256 reached := by
      rw [← state, ← scope.2.2.2.1, made.claimed]
    have revisions := revision_of_digest apart stateJson reachedJson digest
    omega
  · intro verifier fields verified
    have accepted := verify_ok_iff.mp verified
    refine ⟨accepted.canonical_iff, fun secret shared => ?_⟩
    have body : tokenSegment verifier.token 0 = issued.claims.body := by
      rcases shared with same | same
      · exact same
      · apply unforged
        have decoded := accepted.decoded
        have own : tokenSegment issued.token 1 =
            Base64Url.encode (signatureOf host input.secret issued.claims.body) := by
          simp [tokenSegment, made.splitDots_token]
        rw [same, own, reads.bytes, secret] at decoded
        exact decoded.symm
    rw [← accepted.canonical_iff, body, secret, ← made.token]

/-! ## A repair that is continued by text -/

/-- A host that knows one continuation, with a digest that is the message itself. -/
def messageHost (claims : MissionContinuationClaims) : ContinuationHost where
  decodeText encoded := if encoded = claims.body then (Value.object claims.fields).text else ""
  decodeBytes encoded :=
    let message := (CONTINUATION_DOMAIN ++ "\n" ++ claims.body).toList.map Char.toNat
    if encoded = Base64Url.encode message then message else []
  hmac _ message := message.toList.map Char.toNat
  parseJson text :=
    if text = (Value.object claims.fields).text then some (.object claims.fields) else none
  toNumber _ := .nan

def continuedRepair : IssueInput where
  state := MissionIntegrity.openedMission Sha256.digest MissionIntegrity.repairMission
    MissionIntegrity.noon
  subjectId := "caller-7"
  fromChannel := "voice"
  toChannels := ["sms", "web"]
  secret := "0123456789abcdef0123456789abcdef"
  ttlSeconds := none
  nowMs := 1767268800000
  nonce := "n1"

def repairClaims : MissionContinuationClaims where
  subjectId := "caller-7"
  missionId := "field-service"
  missionVersion := "1"
  stateDigest := missionStateDigest Sha256.digest continuedRepair.state
  fromChannel := "voice"
  toChannels := ["sms", "web"]
  issuedAt := 1767268800
  expiresAt := 1767269700
  nonce := "n1"

theorem messageHost_readsBack (claims : MissionContinuationClaims) (secret : String) :
    ReadsBack (messageHost claims) secret claims where
  decoded := by simp [messageHost]
  parsed := ⟨claims.fields, by simp [messageHost], fun key => rfl⟩
  bytes := by simp [messageHost, signatureOf]
  signed := by simp [messageHost, signatureOf, CONTINUATION_DOMAIN]

theorem messageHost_unforged (claims : MissionContinuationClaims) (secret body : String)
    (same : signatureOf (messageHost claims) secret body =
      signatureOf (messageHost claims) secret claims.body) : body = claims.body := by
  have codes : Function.Injective Char.toNat := fun first second equal =>
    Char.ext (UInt32.toNat.inj equal)
  simp only [signatureOf, messageHost] at same
  have chars := codes.list_map same
  simp only [String.toList_append, List.append_cancel_left_eq, String.toList_inj] at chars
  exact chars

def issuedRepair : IssuedContinuation where
  token := repairClaims.body ++ "." ++ Base64Url.encode
    (signatureOf (messageHost repairClaims) continuedRepair.secret repairClaims.body)
  claims := repairClaims

theorem repair_issued : issueMissionContinuation Sha256.digest (messageHost repairClaims)
    continuedRepair = .ok issuedRepair := by
  have intact : assertStateIntegrity Sha256.digest continuedRepair.state = .ok () := by
    rw [continuedRepair, MissionIntegrity.repairMission_recorded.integrity]
    rfl
  have sorted : ((distinct continuedRepair.toChannels).insertionSort fun left right =>
      unitsLe (utf16 left) (utf16 right) = true) = ["sms", "web"] := by decide
  have issuedAt : continuedRepair.nowMs / 1000 = 1767268800 := by decide
  have named : continuedRepair.state.missionId = "field-service" := by rfl
  have versioned : continuedRepair.state.missionVersion = "1" := by rfl
  simp only [issueMissionContinuation, assertExternalId, bind_ok_iff, require_ok_iff, pure_ok_iff,
    sorted, issuedAt, named, versioned]
  exact ⟨(), intact, (), by decide, (), by decide, (), by decide, 900, rfl, (), by decide, rfl⟩

/-- The caller continues by text ten minutes later, but not a day later. -/
theorem repair_continues :
    (∃ fields, verifyMissionContinuation Sha256.digest (messageHost repairClaims)
      { token := issuedRepair.token, state := continuedRepair.state, subjectId := "caller-7"
        targetChannel := "sms", secret := continuedRepair.secret, nowMs := 1767269400000 } =
          .ok fields) ∧
    ∀ fields, verifyMissionContinuation Sha256.digest (messageHost repairClaims)
      { token := issuedRepair.token, state := continuedRepair.state, subjectId := "caller-7"
        targetChannel := "sms", secret := continuedRepair.secret, nowMs := 1767355200000 } ≠
          .ok fields := by
  obtain ⟨exact, -, -⟩ := continuation_acceptance MissionIntegrity.digest_hexadecimal repair_issued
    (messageHost_readsBack _ _) (messageHost_unforged _ _)
  refine ⟨(exact "sms" 1767269400000).mpr ⟨by decide, by decide, by decide⟩, ?_⟩
  intro fields verified
  have late := (exact "sms" 1767355200000).mp ⟨fields, verified⟩
  exact absurd late.2.2 (by decide)

/-- The issued token with a dot behind it is accepted as well. -/
theorem dotted_repair_continues :
    issueMissionContinuation Sha256.digest (messageHost repairClaims) continuedRepair =
        .ok issuedRepair ∧
      ReadsBack (messageHost repairClaims) continuedRepair.secret repairClaims ∧
      (∃ fields, verifyMissionContinuation Sha256.digest (messageHost repairClaims)
        { token := issuedRepair.token ++ "." ++ "", state := continuedRepair.state
          subjectId := "caller-7", targetChannel := "sms", secret := continuedRepair.secret
          nowMs := 1767269400000 } = .ok fields) ∧
      issuedRepair.token ++ "." ++ "" ≠ issuedRepair.token := by
  refine ⟨repair_issued, messageHost_readsBack _ _, ?_, ?_⟩
  · have made := issued_of_ok repair_issued
    obtain ⟨fields, verified⟩ := (made.accepted_iff MissionIntegrity.digest_hexadecimal
      (messageHost_readsBack _ _) "sms" 1767269400000).mpr ⟨by decide, by decide, by decide⟩
    have accepted := verify_ok_iff.mp verified
    have two : twoSegments issuedRepair.token := by simp [twoSegments, made.splitDots_token]
    exact ⟨fields, verify_ok_iff.mpr (accepted.extended two (by rfl))⟩
  · intro same
    have lengths := congrArg (fun text => text.toList.length) same
    simp [String.toList_append] at lengths

end CallCenter.ContinuationTokens
