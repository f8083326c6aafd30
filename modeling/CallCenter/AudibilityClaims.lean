import CallCenter.AudibilityReleases

/-!
# Terminal claims

Claims, grants, releases and acknowledgements arrive in any order. A released decision has
a grant for every claim in its range at all times: a release is blocked without the grants,
grants are never withdrawn, and a claim that would overlap a released range is refused.
-/

namespace CallCenter.AudibilityClaims

open HalfOpenSpans ObjectFields Runs
open AudibilityEvents AudibilityReducer AudibilityRanges AudibilityTransitions AudibilityReleases

/-- The released decisions name grants for the claims in their ranges. -/
def ClaimsSound (response : AudibilityResponseLedger) : Prop :=
  ∀ decision ∈ response.releaseDecisions, decision.outcome = .released →
    ClaimsGranted response decision.range decision.claimGrantIds

variable {response : AudibilityResponseLedger} {key : String} {state : AudibilityLedger}
  {range : SampleRange} {event : AudibilityLedgerEvent}

variable {current : AudibilityResponseLedger}

/-- A claim outside the range does not add to what the range needs. -/
theorem claimsGranted_registered (claim : TerminalClaim) {claimGrantIds : List String}
    (apart : rangesOverlap range claim.range = false)
    (granted : ClaimsGranted current range claimGrantIds) :
    ClaimsGranted { current with claims := setField current.claims claim.claimId claim } range
      claimGrantIds := by
  intro other intersects
  obtain ⟨⟨key, member⟩, overlapping⟩ := mem_intersectingClaims.mp intersects
  rcases mem_setField _ _ _ _ member with new | old
  · cases new
    rw [rangesOverlap, overlap, Bool.and_comm] at overlapping
    rw [rangesOverlap, overlap, overlapping] at apart
    cases apart
  · exact granted other (mem_intersectingClaims.mpr ⟨⟨key, old⟩, overlapping⟩)

/-- A further grant takes none away. -/
theorem claimsGranted_issued {grant : ClaimGrant} {grantId : String} {claimGrantIds : List String}
    (fresh : current.grants.lookup grantId = none)
    (granted : ClaimsGranted current range claimGrantIds) :
    ClaimsGranted { current with grants := setField current.grants grantId grant } range
      claimGrantIds := by
  intro claim intersects
  obtain ⟨listed, member, found, stored, same⟩ := granted claim intersects
  have other : listed ≠ grantId := by
    rintro rfl
    rw [fresh] at stored
    cases stored
  refine ⟨listed, member, found, ?_, same⟩
  rw [← stored]
  exact lookup_setField_ne _ _ _ _ other

variable {evidence : AudibilityEvidenceReference}

theorem claimsSound_step {next : AudibilityResponseLedger} {responseId : String}
    {payload : AudibilityPayload}
    (applies : ResponseApplies current evidence responseId payload next)
    (sound : ClaimsSound current) : ClaimsSound next := by
  cases applies with
  | claim claimId kind range contentSha256 fresh plain inside unreleased =>
    intro decision member released
    exact claimsGranted_registered ⟨claimId, kind, range, contentSha256, evidence⟩
      (unreleased decision member released) (sound decision member released)
  | grant grantId authority claim bound registered matching fresh =>
    intro decision member released
    exact claimsGranted_issued fresh (sound decision member released)
  | release =>
    intro decision member released
    rcases mem_snoc member with old | rfl
    · exact sound decision old released
    · exact (released_iff.mp released).1
  | chunk | closed | acknowledgement | cleared | confirmation | bargeIn | truncation => exact sound

theorem reachable_claimsSound {ledger : AudibilityLedger} (reachable : Reachable ledger) :
    EveryResponse ClaimsSound ledger := by
  refine reachable_everyResponse ?_ ?_ reachable
  · intro responseId sampleRateHz channels decision member
    cases member
  · intro current next evidence responseId payload _ applies sound
    exact claimsSound_step applies sound

/-! ## Later claims -/

/-- The later response has the decisions of the earlier one. -/
def DecisionsKept (before after : AudibilityResponseLedger) : Prop :=
  ∀ decision ∈ before.releaseDecisions, decision ∈ after.releaseDecisions

theorem decisionsKept_step {next : AudibilityResponseLedger} {responseId : String}
    {payload : AudibilityPayload}
    (applies : ResponseApplies current evidence responseId payload next) :
    DecisionsKept current next := by
  intro decision member
  cases applies with
  | release => exact List.mem_append_left _ member
  | chunk | closed | claim | grant | acknowledgement | cleared | confirmation | bargeIn
    | truncation => exact member

/-- The key is taken, and the ledger stored under it has the decisions. -/
def Holding (key : String) (response : AudibilityResponseLedger) (state : AudibilityLedger) : Prop :=
  (∃ entry, state.responses.lookup key = some entry) ∧
    ∀ later, state.responses.lookup key = some (.ledger later) → DecisionsKept response later

theorem holding_written {asked : String} {entry : ResponseEntry} {isNew : Bool}
    (holding : Holding key response state)
    (written : ∀ later, asked = key → entry = .ledger later → DecisionsKept response later) :
    Holding key response (withResponse state event asked entry isNew) := by
  constructor
  · by_cases same : key = asked
    · exact ⟨entry, by rw [same]; exact lookup_setField_self _ _ _⟩
    · obtain ⟨stored, found⟩ := holding.1
      exact ⟨stored, (lookup_setField_ne _ _ _ _ same).trans found⟩
  · intro later stored
    rcases lookup_withResponse stored with ⟨same, isEntry⟩ | ⟨-, kept⟩
    · exact written later same.symm isEntry.symm
    · exact holding.2 later kept

/-- Decisions stay in the ledger of their response. -/
theorem holding_step
    (keyed : EveryResponse (fun _ => True) state) (holding : Holding key response state) :
    Holding key response (afterEvent state event) := by
  rcases afterEvent_cases state event with same | ⟨-, applies⟩
  · rw [same]
    exact holding
  generalize afterEvent state event = after at applies
  cases applies with
  | registered sampleRateHz channels payload fresh =>
    refine holding_written holding ?_
    rintro later rfl -
    obtain ⟨entry, found⟩ := holding.1
    rw [fresh] at found
    cases found
  | updated current next found applies =>
    refine holding_written holding ?_
    rintro later named isNext
    cases isNext
    have own : event.responseId = key := by
      rw [← named, applies.sameResponse]
      exact (keyed _ _ found).1.symm
    subst own
    exact fun decision member => decisionsKept_step applies decision
      (holding.2 current found decision member)
  | strayed =>
    refine holding_written holding ?_
    rintro later - impossible
    cases impossible

theorem holding_run {ledger : AudibilityLedger} (keyed : EveryResponse (fun _ => True) ledger)
    (stored : ledger.responses.lookup key = some (.ledger response))
    (events : List AudibilityLedgerEvent) :
    Holding key response (run afterEvent ledger events) := by
  refine keyed_run keyed ⟨⟨_, stored⟩, ?_⟩ (fun _ _ => holding_step) events
  intro later found
  rw [stored] at found
  cases found
  exact fun decision member => member

/-- An applied registration of a claim found its response, and no released range in it
overlaps the claim. -/
theorem registered_apart {next : AudibilityLedger}
    {claimId contentSha256 : String} {kind : ClaimKind}
    (payload : event.payload = .terminalClaimRegistered claimId kind range contentSha256)
    (accepted : applyAudibilityLedgerEvent state event = .accepted next true false) :
    isRange range = true ∧ ∃ current,
      state.responses.lookup event.responseId = some (.ledger current) ∧
        ∀ decision ∈ current.releaseDecisions, decision.outcome = .released →
          rangesOverlap decision.range range = false := by
  rcases accepted_cases accepted with ⟨-, impossible, -⟩ | ⟨turn, applies, -, -⟩
  · cases impossible
  have valid := validateEvent_payload turn.valid
  rw [payload] at valid
  simp only [validatePayload, Bool.and_eq_true] at valid
  refine ⟨valid.1.2, ?_⟩
  cases applies with
  | registered sampleRateHz channels other =>
    rw [payload] at other
    cases other
  | updated current updated found applies =>
    rw [payload] at applies
    cases applies with
    | claim _ _ _ _ fresh plain inside unreleased => exact ⟨current, found, unreleased⟩
  | strayed other =>
    rw [payload] at other
    cases other

/-- What holds of the claims, grants, releases and acknowledgements of a response. -/
structure ReleasesGoverned (response : AudibilityResponseLedger) : Prop where
  granted : ∀ decision ∈ response.releaseDecisions, decision.outcome = .released →
    ∀ key claim, (key, claim) ∈ response.claims →
      (∃ sample, claim.range.Holds sample ∧ decision.range.Holds sample) →
      ∃ grantId ∈ decision.claimGrantIds, ∃ grant,
        response.grants.lookup grantId = some grant ∧ grant.claimId = claim.claimId
  heard : ∀ sample, Covers response.acknowledgedPlayedRanges sample → Released response sample
  generated : ∀ sample, Released response sample → sample < response.generatedSampleCount

theorem releasesGoverned (ranges : RangesSound response)
    (claims : ClaimsSound response) : ReleasesGoverned response := by
  constructor
  · intro decision member released key claim registered shared
    have overlapping : rangesOverlap claim.range decision.range :=
      (rangesOverlap_iff (ranges.claims _ registered).valid
        (ranges.decisions decision member).valid).mpr shared
    exact claims decision member released claim
      (mem_intersectingClaims.mpr ⟨⟨key, registered⟩, overlapping⟩)
  · intro sample covered
    exact (covers_releases_iff response sample).mp (ranges.acknowledged.included sample covered)
  · rintro sample ⟨decision, member, -, held⟩
    exact Nat.lt_of_lt_of_le held.2 (ranges.decisions decision member).inside

/-- In a reachable ledger every released decision has grants for the claims in its range, what
was acknowledged was released and what was released was generated; and no claim that is
registered later overlaps what was released. -/
theorem released_claims_are_granted {ledger : AudibilityLedger} (reachable : Reachable ledger)
    {key : String} {response : AudibilityResponseLedger}
    (stored : ledger.responses.lookup key = some (.ledger response)) :
    ReleasesGoverned response ∧
      ∀ (events : List AudibilityLedgerEvent) (event : AudibilityLedgerEvent)
        (next : AudibilityLedger) (claimId contentSha256 : String) (kind : ClaimKind)
        (range : SampleRange),
        event.responseId = key →
        event.payload = .terminalClaimRegistered claimId kind range contentSha256 →
        applyAudibilityLedgerEvent (run afterEvent ledger events) event = .accepted next true false →
        ∀ sample, Released response sample → ¬ range.Holds sample := by
  have ranges := reachable_rangesSound reachable key response stored
  have claims := reachable_claimsSound reachable key response stored
  refine ⟨releasesGoverned ranges.2 claims.2, ?_⟩
  rintro events event next claimId contentSha256 kind range named payload accepted sample
    ⟨decision, member, released, decisionHeld⟩ held
  obtain ⟨valid, current, found, unreleased⟩ := registered_apart payload accepted
  rw [named] at found
  have kept := (holding_run (reachable_keyed reachable) stored events).2 current found
  have shared : rangesOverlap decision.range range = true :=
    (rangesOverlap_iff (ranges.2.decisions decision member).valid valid).mpr
      ⟨sample, decisionHeld, held⟩
  rw [unreleased decision (kept decision member) released] at shared
  cases shared

/-! ## A granted claim -/

/-- Events of one call, numbered from one. -/
def callEvents (payloads : List (String × AudibilityPayload)) : List AudibilityLedgerEvent :=
  payloads.zipIdx.map fun entry =>
    { sequence := entry.2 + 1
      eventId := "event"
      sessionId := "call-1"
      responseId := entry.1.1
      evidence := ⟨eventSource entry.1.2,
        "0000000000000000000000000000000000000000000000000000000000000000", none⟩
      payload := entry.1.2
      unread := [] }

/-- The ledger of the call. -/
def callLedger (payloads : List (String × AudibilityPayload)) : AudibilityLedger :=
  run afterEvent ⟨"call-1", 0, [], [], []⟩ (callEvents payloads)

/-- The ledger stored for a response. -/
def storedLedger (state : AudibilityLedger) (key : String) : Option AudibilityResponseLedger :=
  match state.responses.lookup key with
  | some (.ledger response) => some response
  | _ => none

theorem storedLedger_some (stored : storedLedger state key = some response) :
    state.responses.lookup key = some (.ledger response) := by
  unfold storedLedger at stored
  split at stored
  · cases stored
    assumption
  · cases stored

def refundAuthority : VerifiedClaimGrantAuthority where
  responseId := "reply-1"
  claimId := "refund-done"
  claimContentSha256 := "0000000000000000000000000000000000000000000000000000000000000000"
  authorityRevision := 1
  authorityReceiptSha256 := "0000000000000000000000000000000000000000000000000000000000000000"
  reopenedReceiptSha256 := "0000000000000000000000000000000000000000000000000000000000000000"
  turnContractSha256 := "0000000000000000000000000000000000000000000000000000000000000000"
  semanticBindingSha256 := "0000000000000000000000000000000000000000000000000000000000000000"
  verifierId := "host"
  hostVerificationSha256 := "0000000000000000000000000000000000000000000000000000000000000000"
  verified := true

/-- A reply whose second half claims a refund. -/
def refundReply : List (String × AudibilityPayload) :=
  [("reply-1", .responseRegistered 8000 1), ("reply-1", .pcmChunkGenerated "chunk-1" 0 100
      "0000000000000000000000000000000000000000000000000000000000000000"),
    ("reply-1", .terminalClaimRegistered "refund-done" .externalEffect ⟨50, 100⟩
      "0000000000000000000000000000000000000000000000000000000000000000"),
    ("reply-1", .claimGrantIssued "grant-1" refundAuthority),
    ("reply-1", .releaseRequested "release-1" ⟨0, 100⟩ ["grant-1"]),
    ("reply-1", .playbackAcknowledged "heard-1" [⟨0, 60⟩] ["release-1"])]

/-- The refund was released and partly heard under its grant. -/
theorem refund_released_under_grant :
    ∃ response, (callLedger refundReply).responses.lookup "reply-1" = some (.ledger response) ∧
      releases response = [⟨0, 100⟩] ∧ response.acknowledgedPlayedRanges = [⟨0, 60⟩] ∧
      ReleasesGoverned response := by
  have shown : (storedLedger (callLedger refundReply) "reply-1").map
      (fun response => (releases response, response.acknowledgedPlayedRanges)) =
        some ([⟨0, 100⟩], [⟨0, 60⟩]) := by decide +kernel
  obtain ⟨response, stored, view⟩ := Option.map_eq_some_iff.mp shown
  obtain ⟨released, heard⟩ := Prod.mk.inj view
  exact ⟨response, storedLedger_some stored, released, heard,
    (released_claims_are_granted ⟨"call-1", _, callEvents refundReply, by decide, rfl⟩
      (storedLedger_some stored)).1⟩

end CallCenter.AudibilityClaims
