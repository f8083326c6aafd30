import CallCenter.AudibilityClaims

/-!
# Audible evidence

The projection sorts the released samples of a response into those that were played, those
that were verifiably not played and those of unknown delivery, and does the same for the range
of every terminal claim.

The projection throws for a response that lost its ledger. That happens to one response
only, the one named `undefined`, when the generation of a response with an inherited name
is closed.
-/

namespace CallCenter.AudibilityPartitions

open HalfOpenSpans ObjectFields Guards Runs ListRewrites
open AudibilityEvents AudibilityReducer AudibilityRanges AudibilityTransitions AudibilityReleases
open AudibilityClaims

/-! ## Partitions -/

/-- Three separated lists that divide a set of samples among them. -/
structure Partitions (whole : Nat → Prop) (played notPlayed unknown : List SampleRange) : Prop where
  playedSeparated : Separated played
  notPlayedSeparated : Separated notPlayed
  unknownSeparated : Separated unknown
  exclusive : ∀ sample, ¬ (Covers played sample ∧ Covers notPlayed sample) ∧
    ¬ (Covers played sample ∧ Covers unknown sample) ∧
    ¬ (Covers notPlayed sample ∧ Covers unknown sample)
  union : ∀ sample,
    (Covers played sample ∨ Covers notPlayed sample ∨ Covers unknown sample) ↔ whole sample

/-- What is left of a set after two disjoint parts completes the partition. -/
theorem partitions_of_rest {whole : Nat → Prop} {played notPlayed unknown : List SampleRange}
    (playedSeparated : Separated played) (notPlayedSeparated : Separated notPlayed)
    (unknownSeparated : Separated unknown)
    (playedInside : ∀ sample, Covers played sample → whole sample)
    (notPlayedInside : ∀ sample, Covers notPlayed sample → whole sample)
    (disjoint : ∀ sample, Covers notPlayed sample → ¬ Covers played sample)
    (rest : ∀ sample, Covers unknown sample ↔
      whole sample ∧ ¬ (Covers played sample ∨ Covers notPlayed sample)) :
    Partitions whole played notPlayed unknown := by
  refine ⟨playedSeparated, notPlayedSeparated, unknownSeparated, ?_, ?_⟩
  · intro sample
    have apart := disjoint sample
    have remaining := rest sample
    tauto
  · intro sample
    have inside := playedInside sample
    have notInside := notPlayedInside sample
    have remaining := rest sample
    tauto

/-! ## The ranges of a response -/

section Response
variable {response : AudibilityResponseLedger}

theorem audible_covers (sound : RangesSound response) (sample : Nat) :
    Covers (audibleRanges response) sample ↔ Covers response.acknowledgedPlayedRanges sample :=
  normalize_covers sound.acknowledged.valid sample

theorem audible_valid : Valid (audibleRanges response) := normalize_valid _

/-- The playback device confirmed the sample as not played. -/
def Confirmed (response : AudibilityResponseLedger) (sample : Nat) : Prop :=
  ∃ confirmation ∈ response.deliveryClearConfirmations,
    Covers confirmation.confirmedNotPlayedRanges sample

theorem confirmed_covers (sound : RangesSound response) (sample : Nat) :
    Covers (normalizeSampleRanges (response.deliveryClearConfirmations.flatMap
        DeliveryClearConfirmation.confirmedNotPlayedRanges)) sample ↔ Confirmed response sample := by
  have valid : Valid (response.deliveryClearConfirmations.flatMap
      DeliveryClearConfirmation.confirmedNotPlayedRanges) :=
    Valid.flatMap fun confirmation member => (sound.confirmations confirmation member).valid
  rw [normalize_covers valid, covers_flatMap]
  rfl

theorem notPlayed_covers (sound : RangesSound response) (sample : Nat) :
    Covers (verifiedNotPlayedRanges response) sample ↔
      Confirmed response sample ∧ ¬ Covers response.acknowledgedPlayedRanges sample := by
  rw [verifiedNotPlayedRanges, subtract_covers (normalize_valid _) audible_valid,
    confirmed_covers sound, audible_covers sound]

theorem notPlayed_valid : Valid (verifiedNotPlayedRanges response) :=
  subtract_valid (normalize_valid _) audible_valid

section

variable (sound : RangesSound response)
include sound

theorem releases_valid : Valid (releases response) := by
  intro range member
  obtain ⟨decision, kept, rfl⟩ := List.mem_map.mp member
  exact (sound.decisions decision (List.mem_filter.mp kept).1).valid

/-- The three lists of a response divide its released samples. -/
theorem released_partition :
    Partitions (Released response) (audibleRanges response) (verifiedNotPlayedRanges response)
      (unknownRanges response) := by
  rw [← funext fun sample => propext (covers_releases_iff response sample)]
  refine partitions_of_rest (normalize_separated _) (subtract_separated _ _)
    (subtract_separated _ _) ?_ ?_ ?_ ?_
  · intro sample covered
    exact sound.acknowledged.included sample ((audible_covers sound sample).mp covered)
  · intro sample covered
    obtain ⟨confirmation, member, confirmed⟩ := ((notPlayed_covers sound sample).mp covered).1
    exact (sound.confirmations confirmation member).included sample confirmed
  · intro sample covered heard
    exact ((notPlayed_covers sound sample).mp covered).2 ((audible_covers sound sample).mp heard)
  · intro sample
    rw [unknownRanges, subtract_covers (normalize_valid _) (audible_valid.append notPlayed_valid),
      normalize_covers (releases_valid sound), covers_append]

/-- The three lists of a claim divide its range. -/
theorem claim_partition {claim : TerminalClaim} (valid : isRange claim.range) :
    Partitions claim.range.Holds (claimAudibility response claim).acknowledgedRanges
      (claimAudibility response claim).verifiedNotPlayedRanges
      (claimAudibility response claim).unknownRanges := by
  have played : ∀ sample, Covers (intersectRanges (audibleRanges response) [claim.range]) sample ↔
      Covers (audibleRanges response) sample ∧ Covers [claim.range] sample :=
    intersect_covers audible_valid
  have notPlayed : ∀ sample,
      Covers (intersectRanges (verifiedNotPlayedRanges response) [claim.range]) sample ↔
        Covers (verifiedNotPlayedRanges response) sample ∧ Covers [claim.range] sample :=
    intersect_covers notPlayed_valid
  refine partitions_of_rest (intersect_separated _ _) (intersect_separated _ _)
    (subtract_separated _ _) ?_ ?_ ?_ ?_
  · intro sample covered
    exact (covers_singleton _ _).mp ((played sample).mp covered).2
  · intro sample covered
    exact (covers_singleton _ _).mp ((notPlayed sample).mp covered).2
  · intro sample covered heard
    have missed := ((notPlayed_covers sound sample).mp ((notPlayed sample).mp covered).1).2
    exact missed ((audible_covers sound sample).mp ((played sample).mp heard).1)
  · intro sample
    have remains := subtract_covers (Valid.singleton valid)
      ((intersect_valid (audibleRanges response) [claim.range]).append
        (intersect_valid (verifiedNotPlayedRanges response) [claim.range])) sample
    rw [covers_singleton, covers_append] at remains
    exact remains

end

end Response

/-! ## The samples of the chunks -/

/-- The chunks follow each other without gaps from the first generated sample to the last. -/
structure ChunksSound (response : AudibilityResponseLedger) : Prop where
  valid : ∀ chunk ∈ response.chunks, isRange chunk.range = true
  ordered : response.chunks.Pairwise fun left right => left.range.stop ≤ right.range.start
  inside : ∀ chunk ∈ response.chunks, chunk.range.stop ≤ response.generatedSampleCount
  complete : ∀ sample < response.generatedSampleCount,
    ∃ chunk ∈ response.chunks, chunk.range.Holds sample

theorem newResponse_chunks (responseId : String) (sampleRateHz channels : Nat) :
    ChunksSound (newResponse responseId sampleRateHz channels) := by
  constructor
  · intro chunk member
    cases member
  · exact List.Pairwise.nil
  · intro chunk member
    cases member
  · intro sample bounded
    exact absurd bounded (Nat.not_lt_zero sample)

theorem chunksSound_step {current next : AudibilityResponseLedger}
    {evidence : AudibilityEvidenceReference} {responseId : String} {payload : AudibilityPayload}
    (valid : validatePayload evidence payload)
    (applies : ResponseApplies current evidence responseId payload next)
    (sound : ChunksSound current) : ChunksSound next := by
  cases applies with
  | chunk chunkId ordinal sampleCount pcmSha256 opened room contiguous fresh safe =>
    simp only [validatePayload, isSafeInteger, Bool.and_eq_true, decide_eq_true_eq] at valid
    have positive : 1 ≤ sampleCount := valid.1.2.2
    constructor
    · intro chunk member
      rcases mem_snoc member with old | rfl
      · exact sound.valid chunk old
      · refine (isRange_iff _).mpr ⟨?_, safe⟩
        change current.generatedSampleCount < current.generatedSampleCount + sampleCount
        omega
    · refine List.pairwise_append.mpr ⟨sound.ordered, List.pairwise_singleton _ _, ?_⟩
      intro chunk member last isLast
      rw [List.mem_singleton.mp isLast]
      exact sound.inside chunk member
    · intro chunk member
      rcases mem_snoc member with old | rfl
      · exact Nat.le_trans (sound.inside chunk old) (Nat.le_add_right _ _)
      · exact Nat.le_refl _
    · intro sample bounded
      by_cases earlier : sample < current.generatedSampleCount
      · obtain ⟨chunk, member, held⟩ := sound.complete sample earlier
        exact ⟨chunk, List.mem_append_left _ member, held⟩
      · refine ⟨_, List.mem_append_right _ List.mem_cons_self, ?_⟩
        exact ⟨Nat.le_of_not_lt earlier, bounded⟩
  | closed | claim | grant | release | acknowledgement | cleared | confirmation | bargeIn
    | truncation => exact { sound with }

variable {ledger : AudibilityLedger}

theorem reachable_chunksSound (reachable : Reachable ledger) : EveryResponse ChunksSound ledger :=
  reachable_everyResponse newResponse_chunks
    (fun _ _ _ _ _ valid applies sound => chunksSound_step valid applies sound) reachable

section Pcm
variable {response : AudibilityResponseLedger}

/-- The ranges of the evidence are the common parts of the chunks and what was heard. -/
theorem pcmEvidence_ranges (responseId : String) :
    (pcmEvidence response responseId).map AudiblePcmEvidenceRange.range =
      response.chunks.flatMap fun chunk =>
        intersectRanges [chunk.range] (audibleRanges response) := by
  unfold pcmEvidence
  rw [List.map_flatMap]
  simp only [List.map_map, Function.comp_def, List.map_id']

theorem pcm_piece_covers (sound : ChunksSound response) {chunk : GeneratedPcmChunk}
    (member : chunk ∈ response.chunks) (sample : Nat) :
    Covers (intersectRanges [chunk.range] (audibleRanges response)) sample ↔
      chunk.range.Holds sample ∧ Covers (audibleRanges response) sample := by
  rw [intersect_covers (Valid.singleton (sound.valid chunk member)), covers_singleton]

theorem pcmEvidence_covers (ranges : RangesSound response) (sound : ChunksSound response)
    (responseId : String) (sample : Nat) :
    Covers ((pcmEvidence response responseId).map AudiblePcmEvidenceRange.range) sample ↔
      Covers (audibleRanges response) sample := by
  rw [pcmEvidence_ranges, covers_flatMap]
  constructor
  · rintro ⟨chunk, member, covered⟩
    exact ((pcm_piece_covers sound member sample).mp covered).2
  · intro heard
    have acknowledged := (audible_covers ranges sample).mp heard
    have released := ranges.acknowledged.included sample acknowledged
    obtain ⟨decision, decisionMember, -, decisionHeld⟩ :=
      (covers_releases_iff response sample).mp released
    have generated : sample < response.generatedSampleCount :=
      Nat.lt_of_lt_of_le decisionHeld.2 (ranges.decisions decision decisionMember).inside
    obtain ⟨chunk, member, held⟩ := sound.complete sample generated
    exact ⟨chunk, member, (pcm_piece_covers sound member sample).mpr ⟨held, heard⟩⟩

/-- No sample is in two ranges of the evidence. -/
theorem pcmEvidence_disjoint (sound : ChunksSound response) (responseId : String) :
    ((pcmEvidence response responseId).map AudiblePcmEvidenceRange.range).Pairwise
      fun left right => ∀ sample, ¬ (left.Holds sample ∧ right.Holds sample) := by
  rw [pcmEvidence_ranges, List.pairwise_flatMap]
  constructor
  · intro chunk _
    exact (intersect_separated _ _).disjoint
  · refine sound.ordered.imp_of_mem ?_
    intro left right leftMember rightMember ordered leftRange leftPiece rightRange rightPiece
      sample both
    have leftHeld := ((pcm_piece_covers sound leftMember sample).mp ⟨leftRange, leftPiece, both.1⟩).1
    have rightHeld :=
      ((pcm_piece_covers sound rightMember sample).mp ⟨rightRange, rightPiece, both.2⟩).1
    have leftBound := leftHeld.2
    have rightBound := rightHeld.1
    omega

end Pcm

/-! ## Claims under their names -/

/-- Every claim is stored once, under its own name. -/
structure ClaimsKeyed (response : AudibilityResponseLedger) : Prop where
  distinct : (response.claims.map Prod.fst).Nodup
  named : ∀ field ∈ response.claims, field.2.claimId = field.1

theorem reachable_claimsKeyed (reachable : Reachable ledger) :
    EveryResponse ClaimsKeyed ledger := by
  refine reachable_everyResponse ?_ ?_ reachable
  · intro responseId sampleRateHz channels
    constructor
    · exact List.nodup_nil
    · intro field member
      cases member
  · intro current next evidence responseId payload _ applies sound
    cases applies with
    | claim =>
      constructor
      · exact nodup_keys_setField sound.distinct _ _
      · exact forall_setField sound.named rfl
    | chunk | closed | grant | release | acknowledgement | cleared | confirmation | bargeIn
      | truncation => exact { sound with }

variable {response : AudibilityResponseLedger}

theorem ClaimsKeyed.lookup (keyed : ClaimsKeyed response) {claim : TerminalClaim}
    (registered : claim ∈ objectValues response.claims) :
    response.claims.lookup claim.claimId = some claim := by
  obtain ⟨key, member⟩ := mem_objectValues.mp registered
  have named : claim.claimId = key := keyed.named _ member
  rw [named]
  exact (lookup_eq_some_iff keyed.distinct key claim).mpr member

/-! ## The evidence about a response -/

/-- What the evidence about a response says: how its released samples, the range of every claim
and the audible samples are divided. -/
structure EvidenceSound (response : AudibilityResponseLedger) (item : ResponseEvidence) : Prop where
  released : Partitions (Released response) item.audibleRanges
    item.verifiedNotPlayedRanges item.unknownRanges
  claims : ∀ claimId claim, response.claims.lookup claimId = some claim →
    ∃ verdict ∈ item.terminalClaims, verdict.claimId = claimId
  verdicts : ∀ verdict ∈ item.terminalClaims, ∃ claim,
    response.claims.lookup verdict.claimId = some claim ∧
      Partitions claim.range.Holds verdict.acknowledgedRanges verdict.verifiedNotPlayedRanges
        verdict.unknownRanges
  pcmDisjoint : (item.pcmEvidence.map AudiblePcmEvidenceRange.range).Pairwise
    fun left right => ∀ sample, ¬ (left.Holds sample ∧ right.Holds sample)
  pcmComplete : ∀ sample, Covers (item.pcmEvidence.map AudiblePcmEvidenceRange.range) sample ↔
    Covers item.audibleRanges sample

theorem responseEvidence_sound (ranges : RangesSound response) (chunks : ChunksSound response)
    (keyed : ClaimsKeyed response) (localeCompare : String → String → Int) (responseId : String) :
    EvidenceSound response (responseEvidence response localeCompare responseId) := by
  constructor
  · exact released_partition ranges
  · intro claimId claim found
    have member := mem_of_lookup _ _ _ found
    refine ⟨claimAudibility response claim, ?_, keyed.named _ member⟩
    refine List.mem_map.mpr ⟨claim, ?_, rfl⟩
    exact List.mem_insertionSort _ |>.mpr (mem_objectValues.mpr ⟨claimId, member⟩)
  · intro verdict member
    obtain ⟨claim, listed, rfl⟩ := List.mem_map.mp member
    have registered := (List.mem_insertionSort _).mp listed
    refine ⟨claim, keyed.lookup registered, ?_⟩
    obtain ⟨key, stored⟩ := mem_objectValues.mp registered
    exact claim_partition ranges (ranges.claims _ stored).valid
  · exact pcmEvidence_disjoint chunks responseId
  · exact pcmEvidence_covers ranges chunks responseId

/-! ## The evidence about a ledger -/

section Project
variable {localeCompare : String → String → Int} {ledger : AudibilityLedger}

theorem projectResponse_some_iff {responseId : String} {item : ResponseEvidence} :
    projectResponse localeCompare ledger responseId = some item ↔
      ∃ response, ledger.responses.lookup responseId = some (.ledger response) ∧
        responseEvidence response localeCompare responseId = item := by
  unfold projectResponse
  cases read : readProperty ledger.responses responseId with
  | own entry =>
    rw [readProperty_own_iff.mp read]
    cases entry with
    | ledger response | closedOnly => simp
  | inherited =>
    rw [(readProperty_inherited_iff.mp read).1]
    simp
  | missing =>
    rw [(readProperty_missing_iff.mp read).1]
    simp

variable {evidence : AudibleConversationEvidence}

/-- The projection returns exactly if every listed response has a ledger, and then has the
evidence about each. -/
theorem project_some_iff :
    projectAudibleConversationEvidence localeCompare ledger = some evidence ↔
      ∃ responses, List.Forall₂ (fun responseId item =>
          projectResponse localeCompare ledger responseId = some item)
        ledger.responseOrder responses ∧
      evidence = ⟨AUDIBILITY_LEDGER_SCHEMA_VERSION, ledger.sessionId, ledger.revision,
        responses⟩ := by
  unfold projectAudibleConversationEvidence
  simp only [Option.bind_eq_bind, Option.bind_eq_some_iff, mapM_some_iff, Option.pure_def,
    Option.some.injEq]
  refine exists_congr fun responses => and_congr_right fun _ => eq_comm

theorem project_item {item : ResponseEvidence}
    (projected : projectAudibleConversationEvidence localeCompare ledger = some evidence)
    (member : item ∈ evidence.responses) :
    ∃ response, ledger.responses.lookup item.responseId = some (.ledger response) ∧
      item = responseEvidence response localeCompare item.responseId := by
  obtain ⟨responses, each, rfl⟩ := project_some_iff.mp projected
  obtain ⟨responseId, -, computed⟩ := exists_after each.flip member
  obtain ⟨response, stored, rfl⟩ := projectResponse_some_iff.mp computed
  exact ⟨response, stored, rfl⟩

end Project

/-! ## Lost ledgers -/

/-- The keys that store a ledger are listed, and no key is an inherited name. -/
structure KeysListed (ledger : AudibilityLedger) : Prop where
  listed : ∀ key response, ledger.responses.lookup key = some (.ledger response) →
    key ∈ ledger.responseOrder
  plain : ∀ key entry, ledger.responses.lookup key = some entry → key ∉ INHERITED_NAMES

variable {state : AudibilityLedger} {event : AudibilityLedgerEvent}

/-- A response stored under a listed name keeps the names listed. -/
theorem KeysListed.withResponse {key : String} {entry : ResponseEntry} {isNew : Bool}
    (known : KeysListed state) (plain : key ∉ INHERITED_NAMES)
    (own : ∀ response, entry = .ledger response →
      key ∈ (withResponse state event key entry isNew).responseOrder)
    (grows : state.responseOrder ⊆ (withResponse state event key entry isNew).responseOrder) :
    KeysListed (withResponse state event key entry isNew) := by
  constructor
  · intro asked response stored
    rcases lookup_withResponse stored with ⟨rfl, same⟩ | ⟨-, kept⟩
    · exact own response same.symm
    · exact grows (known.listed asked response kept)
  · intro asked found stored
    rcases lookup_withResponse stored with ⟨rfl, -⟩ | ⟨-, kept⟩
    · exact plain
    · exact known.plain asked found kept

theorem keysListed_step (keyed : EveryResponse (fun _ => True) state) (listed : KeysListed state) :
    KeysListed (afterEvent state event) := by
  rcases afterEvent_cases state event with same | ⟨-, applies⟩
  · rw [same]
    exact listed
  generalize afterEvent state event = after at applies
  cases applies with
  | registered sampleRateHz channels payload fresh plain =>
    exact listed.withResponse plain (fun _ _ => List.mem_append_right _ List.mem_cons_self)
      fun _ => List.mem_append_left _
  | updated current next found applies =>
    have own : next.responseId = event.responseId :=
      applies.sameResponse.trans (keyed _ _ found).1
    rw [own]
    exact listed.withResponse (listed.plain _ _ found) (fun _ _ => listed.listed _ current found)
      fun _ => id
  | strayed => exact listed.withResponse (by decide) (by simp) fun _ => id

/-- The event overwrites the ledger of the response `undefined`: it closes the generation of a
response with an inherited name. -/
structure LosesLedger (state : AudibilityLedger) (event : AudibilityLedgerEvent) : Prop where
  turn : InTurn state event
  payload : event.payload = .generationClosed
  inherited : event.responseId ∈ INHERITED_NAMES
  listed : "undefined" ∈ state.responseOrder

/-- Every listed response has a ledger. -/
def Intact (ledger : AudibilityLedger) : Prop :=
  ∀ responseId ∈ ledger.responseOrder, ∃ response,
    ledger.responses.lookup responseId = some (.ledger response)

/-- The listed response `undefined` has lost its ledger. -/
structure Broken (ledger : AudibilityLedger) : Prop where
  listed : "undefined" ∈ ledger.responseOrder
  lost : ledger.responses.lookup "undefined" = some .closedOnly

theorem intact_written {key : String} {isNew : Bool} (intact : Intact state) :
    Intact (withResponse state event key (.ledger response) isNew) := by
  intro responseId member
  by_cases same : responseId = key
  · subst same
    exact ⟨response, lookup_setField_self _ _ _⟩
  · have listed : responseId ∈ state.responseOrder := by
      unfold withResponse at member
      cases isNew with
      | false => exact member
      | true =>
        rcases mem_snoc member with old | new
        · exact old
        · exact absurd new same
    obtain ⟨stored, found⟩ := intact responseId listed
    exact ⟨stored, (lookup_setField_ne _ _ _ _ same).trans found⟩

theorem intact_step (safe : ¬ LosesLedger state event) (intact : Intact state) :
    Intact (afterEvent state event) := by
  rcases afterEvent_cases state event with same | ⟨turn, applies⟩
  · rw [same]
    exact intact
  generalize afterEvent state event = after at applies
  cases applies with
  | registered | updated => exact intact_written intact
  | strayed payload inherited =>
    intro responseId member
    have other : responseId ≠ "undefined" := by
      rintro rfl
      exact safe ⟨turn, payload, inherited, member⟩
    obtain ⟨response, stored⟩ := intact responseId member
    exact ⟨response, (lookup_setField_ne _ _ _ _ other).trans stored⟩

/-- Closing the generation of an inherited name is accepted. -/
theorem afterEvent_loses (listed : KeysListed state) (loses : LosesLedger state event) :
    afterEvent state event = withResponse state event "undefined" .closedOnly false := by
  have absent : state.responses.lookup event.responseId = none := by
    cases found : state.responses.lookup event.responseId with
    | none => rfl
    | some => exact absurd loses.inherited (listed.plain _ _ found)
  have read : readProperty state.responses event.responseId = .inherited :=
    readProperty_inherited_iff.mpr ⟨absent, loses.inherited⟩
  have later : ¬ event.sequence ≤ state.revision := by
    rw [loses.turn.sequence]
    omega
  unfold afterEvent applyAudibilityLedgerEvent
  rw [if_pos loses.turn.valid, if_pos loses.turn.session, if_neg later,
    if_pos loses.turn.sequence, applyNext, read]
  simp [applyBare, loses.payload, applyResponse]

theorem broken_step (keyed : EveryResponse (fun _ => True) state) (broken : Broken state) :
    Broken (afterEvent state event) := by
  rcases afterEvent_cases state event with same | ⟨-, applies⟩
  · rw [same]
    exact broken
  generalize afterEvent state event = after at applies
  cases applies with
  | registered sampleRateHz channels payload fresh =>
    have other : "undefined" ≠ event.responseId := by
      intro same
      rw [← same, broken.lost] at fresh
      cases fresh
    exact ⟨List.mem_append_left _ broken.listed,
      (lookup_setField_ne _ _ _ _ other).trans broken.lost⟩
  | updated current next found applies =>
    have own : next.responseId = event.responseId :=
      applies.sameResponse.trans (keyed _ _ found).1
    have other : "undefined" ≠ next.responseId := by
      intro same
      rw [← own, ← same, broken.lost] at found
      cases found
    exact ⟨broken.listed, (lookup_setField_ne _ _ _ _ other).trans broken.lost⟩
  | strayed => exact ⟨broken.listed, lookup_setField_self _ _ _⟩

/-- The evidence exists and divides the audio of every response as it should. -/
def EvidencePartitions (localeCompare : String → String → Int) (ledger : AudibilityLedger) : Prop :=
  ∃ evidence, projectAudibleConversationEvidence localeCompare ledger = some evidence ∧
    (∀ item ∈ evidence.responses, ∃ response,
      ledger.responses.lookup item.responseId = some (.ledger response) ∧
        EvidenceSound response item) ∧
    ∀ key response, ledger.responses.lookup key = some (.ledger response) →
      ∃ item ∈ evidence.responses, item.responseId = key

theorem reachable_keysListed (reachable : Reachable ledger) : KeysListed ledger := by
  obtain ⟨sessionId, initial, events, created, rfl⟩ := reachable
  have keyed := reachable_keyed ⟨sessionId, initial, [], created, rfl⟩
  rw [createAudibilityLedger_ok created] at keyed ⊢
  refine keyed_run keyed ⟨?_, ?_⟩ (fun _ _ => keysListed_step) events
  · intro key response stored
    cases stored
  · intro key entry stored
    cases stored

variable {localeCompare : String → String → Int}

/-- The projection throws when a listed response has no ledger. -/
theorem broken_throws (broken : Broken ledger) :
    projectAudibleConversationEvidence localeCompare ledger = none := by
  cases projected : projectAudibleConversationEvidence localeCompare ledger with
  | none => rfl
  | some =>
    obtain ⟨responses, each, -⟩ := project_some_iff.mp projected
    obtain ⟨item, -, computed⟩ := exists_after each broken.listed
    obtain ⟨response, stored, -⟩ := projectResponse_some_iff.mp computed
    rw [broken.lost] at stored
    cases stored

theorem intact_partitions (reachable : Reachable ledger) (intact : Intact ledger) :
    EvidencePartitions localeCompare ledger := by
  have each : ∀ responseId ∈ ledger.responseOrder, ∃ item,
      projectResponse localeCompare ledger responseId = some item := by
    intro responseId member
    obtain ⟨response, stored⟩ := intact responseId member
    exact ⟨_, projectResponse_some_iff.mpr ⟨response, stored, rfl⟩⟩
  obtain ⟨responses, paired⟩ := paired_of_each each
  have projected := project_some_iff.mpr ⟨responses, paired, rfl⟩
  refine ⟨_, projected, ?_, ?_⟩
  · intro item member
    obtain ⟨response, stored, same⟩ := project_item projected member
    refine ⟨response, stored, ?_⟩
    rw [same]
    exact responseEvidence_sound (reachable_rangesSound reachable _ _ stored).2
      (reachable_chunksSound reachable _ _ stored).2 (reachable_claimsKeyed reachable _ _ stored).2
      localeCompare item.responseId
  · intro key response stored
    have listed := (reachable_keysListed reachable).listed key response stored
    obtain ⟨item, member, computed⟩ := exists_after paired listed
    obtain ⟨found, -, rfl⟩ := projectResponse_some_iff.mp computed
    exact ⟨_, member, rfl⟩

/-- The evidence about a reachable ledger divides the released audio of every response, the
range of every claim and the audible samples, exactly if no event of the run closed the
generation of an inherited name while a response `undefined` was registered. -/
theorem evidence_partitions_iff {sessionId : String} {initial : AudibilityLedger}
    (created : createAudibilityLedger sessionId = .ok initial)
    (events : List AudibilityLedgerEvent) (localeCompare : String → String → Int) :
    EvidencePartitions localeCompare (run afterEvent initial events) ↔
      Meets afterEvent (fun state event => ¬ LosesLedger state event) initial events := by
  constructor
  · rintro ⟨evidence, projected, -⟩
    rw [meets_iff]
    rintro before event after rfl loses
    have reachable : Reachable (run afterEvent initial before) := ⟨sessionId, initial, before,
      created, rfl⟩
    have lost : Broken (afterEvent (run afterEvent initial before) event) := by
      rw [afterEvent_loses (reachable_keysListed reachable) loses]
      exact ⟨loses.listed, lookup_setField_self _ _ _⟩
    have stays := keyed_run (keyed_step (reachable_keyed reachable)) lost (fun _ _ => broken_step)
      after
    rw [run_append, run_cons, broken_throws stays] at projected
    cases projected
  · intro met
    refine intact_partitions ⟨sessionId, initial, events, created, rfl⟩ ?_
    refine run_invariant_meets Intact ?_ ?_ events met
    · rw [createAudibilityLedger_ok created]
      intro responseId member
      cases member
    · intro state event safe intact
      exact intact_step safe intact

/-- A comparison of names, by their code units. -/
def compareUnits (left right : String) : Int :=
  if left = right then 0
  else if JsonValues.unitsLe (JsonValues.utf16 left) (JsonValues.utf16 right) then -1 else 1

/-- A response named `undefined` loses its ledger to the end of another's generation. -/
theorem inherited_name_loses_ledger : ¬ EvidencePartitions compareUnits (callLedger
      [("undefined", .responseRegistered 8000 1), ("constructor", .generationClosed)]) := by
  rintro ⟨evidence, projected, -⟩
  have broken : Broken (callLedger
      [("undefined", .responseRegistered 8000 1), ("constructor", .generationClosed)]) := by
    constructor
    · decide +kernel
    · decide +kernel
  rw [broken_throws broken] at projected
  cases projected

instance (state : AudibilityLedger) (event : AudibilityLedgerEvent) :
    Decidable (InTurn state event) :=
  decidable_of_iff (validateEvent event = true ∧ event.sessionId = state.sessionId ∧
      event.sequence = state.revision + 1)
    ⟨fun holds => ⟨holds.1, holds.2.1, holds.2.2⟩,
      fun turn => ⟨turn.valid, turn.session, turn.sequence⟩⟩

instance (state : AudibilityLedger) (event : AudibilityLedgerEvent) :
    Decidable (LosesLedger state event) :=
  decidable_of_iff (InTurn state event ∧ event.payload = .generationClosed ∧
      event.responseId ∈ INHERITED_NAMES ∧ "undefined" ∈ state.responseOrder)
    ⟨fun holds => ⟨holds.1, holds.2.1, holds.2.2.1, holds.2.2.2⟩,
      fun loses => ⟨loses.turn, loses.payload, loses.inherited, loses.listed⟩⟩

/-- A reply that is cut off: the rest of it is cleared and confirmed as not played. -/
def interruptedReply : List (String × AudibilityPayload) :=
  refundReply ++ [("reply-1", .playbackCleared "clear-1" .bargeIn),
      ("reply-1", .deliveryClearConfirmed "confirmed-1" "clear-1" [⟨70, 100⟩])]

/-- The evidence about the interrupted reply divides its audio. -/
theorem interrupted_reply_partitioned :
    EvidencePartitions compareUnits (callLedger interruptedReply) := by
  have created : createAudibilityLedger "call-1" = .ok ⟨"call-1", 0, [], [], []⟩ := by decide
  refine (evidence_partitions_iff created (callEvents interruptedReply) compareUnits).mpr ?_
  decide +kernel

end CallCenter.AudibilityPartitions
