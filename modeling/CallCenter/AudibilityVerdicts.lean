import CallCenter.AudibilityPartitions

/-!
# Verdicts about audio that was not heard

A clear ends a queue epoch, and the playback device may confirm which of the cleared samples
were not played. Audio can be released again in a later epoch. The projection merges the
confirmations of all epochs, so a confirmation for one epoch also settles the sample for
the others: the verdict is sound as long as no event brings the two epochs of a sample
apart.
-/

namespace CallCenter.AudibilityVerdicts

open HalfOpenSpans Runs
open AudibilityEvents AudibilityReducer AudibilityRanges AudibilityTransitions AudibilityReleases
open AudibilityClaims AudibilityPartitions

/-! ## Epochs of a sample -/

section Epochs
variable (response : AudibilityResponseLedger)

/-- The sample was released in the epoch. -/
def ReleasedIn (epoch sample : Nat) : Prop :=
  ∃ decision ∈ response.releaseDecisions, decision.outcome = .released ∧
    decision.queueEpoch = epoch ∧ decision.range.Holds sample

/-- The playback device confirmed the sample as not played, for the clear that closed the
epoch. -/
def ConfirmedIn (epoch sample : Nat) : Prop :=
  ∃ clear ∈ response.clears, clear.closedQueueEpoch = epoch ∧
    ∃ confirmation ∈ response.deliveryClearConfirmations, confirmation.clearId = clear.clearId ∧
      Covers confirmation.confirmedNotPlayedRanges sample

instance (epoch sample : Nat) : Decidable (ReleasedIn response epoch sample) :=
  inferInstanceAs (Decidable (∃ decision ∈ response.releaseDecisions,
    decision.outcome = .released ∧ decision.queueEpoch = epoch ∧ decision.range.Holds sample))

instance (epoch sample : Nat) : Decidable (ConfirmedIn response epoch sample) :=
  inferInstanceAs (Decidable (∃ clear ∈ response.clears, clear.closedQueueEpoch = epoch ∧
    ∃ confirmation ∈ response.deliveryClearConfirmations, confirmation.clearId = clear.clearId ∧
      Covers confirmation.confirmedNotPlayedRanges sample))

/-- The sample is known not to have been played in any epoch in which it was released. -/
def Undelivered (sample : Nat) : Prop :=
  ∀ epoch, ReleasedIn response epoch sample → ConfirmedIn response epoch sample

/-- Only undelivered samples are reported as not played. -/
def VerdictsSound : Prop :=
  ∀ sample, Covers (verifiedNotPlayedRanges response) sample → Undelivered response sample

/-- A sample of a released range that was once confirmed as not played was heard all the same,
and a confirmed sample, if it was not heard, was released in no other epoch, or was confirmed
for that one too. -/
def Fits : AudibilityPayload → Prop
  | .releaseRequested _ range claimGrantIds =>
    Releasing response range claimGrantIds → ∀ sample, range.Holds sample →
      ∀ confirmation ∈ response.deliveryClearConfirmations,
        Covers confirmation.confirmedNotPlayedRanges sample →
          Covers response.acknowledgedPlayedRanges sample
  | .deliveryClearConfirmed _ clearId ranges =>
    ∀ clear, findClear response clearId = some clear → ∀ sample, Covers ranges sample →
      ¬ Covers response.acknowledgedPlayedRanges sample →
      ∀ epoch, ReleasedIn response epoch sample →
        epoch = clear.closedQueueEpoch ∨ ConfirmedIn response epoch sample
  | _ => True

end Epochs

/-- The ledger takes the event: it is neither refused nor the repetition of an earlier one. -/
def TakesEvent (state : AudibilityLedger) (event : AudibilityLedgerEvent) : Prop :=
  ∃ next, applyAudibilityLedgerEvent state event = .accepted next true false

/-- An event that the ledger takes fits the response that it is about. -/
def FitsEvent (state : AudibilityLedger) (event : AudibilityLedgerEvent) : Prop :=
  TakesEvent state event → ∀ response,
    state.responses.lookup event.responseId = some (.ledger response) → Fits response event.payload

/-- An event that is not taken leaves the ledger as it was. -/
theorem afterEvent_of_not_taken {state : AudibilityLedger} {event : AudibilityLedgerEvent}
    (ignored : ¬TakesEvent state event) : afterEvent state event = state := by
  unfold afterEvent
  cases result : applyAudibilityLedgerEvent state event with
  | failure | thrown => rfl
  | accepted next =>
    rcases accepted_cases result with ⟨same, -, -⟩ | ⟨-, -, rfl, rfl⟩
    · exact same
    · exact absurd ⟨next, result⟩ ignored

/-! ## Steps -/

variable {before after : AudibilityResponseLedger}

/-- More clears and confirmations confirm no less. -/
theorem confirmedIn_mono {epoch sample : Nat}
    (clears : ∀ clear ∈ before.clears, clear ∈ after.clears)
    (confirmations : ∀ confirmation ∈ before.deliveryClearConfirmations,
      confirmation ∈ after.deliveryClearConfirmations) (confirmed : ConfirmedIn before epoch sample) :
    ConfirmedIn after epoch sample := by
  obtain ⟨clear, clearMember, closed, confirmation, member, about, covered⟩ := confirmed
  exact ⟨clear, clears clear clearMember, closed, confirmation, confirmations confirmation member,
    about, covered⟩

/-- A response with the same releases, with no fewer clears and confirmations, that reports
no more, stays sound. -/
theorem verdictsSound_mono (reported : ∀ sample, Covers (verifiedNotPlayedRanges after) sample →
      Covers (verifiedNotPlayedRanges before) sample)
    (decisions : ∀ decision ∈ after.releaseDecisions, decision.outcome = .released →
      decision ∈ before.releaseDecisions) (clears : ∀ clear ∈ before.clears, clear ∈ after.clears)
    (confirmations : ∀ confirmation ∈ before.deliveryClearConfirmations,
      confirmation ∈ after.deliveryClearConfirmations) (sound : VerdictsSound before) :
    VerdictsSound after := by
  rintro sample covered epoch ⟨decision, member, released, inEpoch, held⟩
  have earlier : ReleasedIn before epoch sample :=
    ⟨decision, decisions decision member released, released, inEpoch, held⟩
  exact confirmedIn_mono clears confirmations (sound sample (reported sample covered) epoch earlier)

variable {evidence : AudibilityEvidenceReference}

variable {current response : AudibilityResponseLedger}

theorem confirmation_verdicts {confirmationId clearId : String} {ranges : List SampleRange}
    {clear : PlaybackClear} (valid : Valid ranges) (before : RangesSound current)
    {next : AudibilityResponseLedger} (extended : next = { current with
      deliveryClearConfirmations := current.deliveryClearConfirmations ++
        [⟨confirmationId, clearId, normalizeSampleRanges ranges, evidence⟩] })
    (after : RangesSound next) (found : findClear current clearId = some clear)
    (fits : Fits current (.deliveryClearConfirmed confirmationId clearId ranges))
    (sound : VerdictsSound current) : VerdictsSound next := by
  intro sample covered epoch released
  obtain ⟨⟨confirmation, member, confirmed⟩, unheard⟩ := (notPlayed_covers after sample).mp covered
  have kept : ConfirmedIn current epoch sample → ConfirmedIn next epoch sample := by
    rw [extended]
    exact confirmedIn_mono (fun _ isClear => isClear) (fun _ old => List.mem_append_left _ old)
  subst extended
  rcases mem_snoc member with old | rfl
  · have reported : Covers (verifiedNotPlayedRanges current) sample :=
      (notPlayed_covers before sample).mpr ⟨⟨confirmation, old, confirmed⟩, unheard⟩
    exact kept (sound sample reported epoch released)
  · have named : Covers ranges sample := (normalize_covers valid sample).mp confirmed
    rcases fits clear found sample named unheard epoch released with same | earlier
    · obtain ⟨clearMember, clearNamed⟩ := findClear_spec found
      exact ⟨clear, clearMember, same.symm, _, List.mem_append_right _ List.mem_cons_self,
        clearNamed.symm, confirmed⟩
    · exact kept earlier

/-- An event that fits keeps the verdicts sound. -/
theorem verdictsSound_step {next : AudibilityResponseLedger} {responseId : String}
    {payload : AudibilityPayload} (valid : validatePayload evidence payload)
    (applies : ResponseApplies current evidence responseId payload next)
    (fits : Fits current payload) (ranges : RangesSound current) (sound : VerdictsSound current) :
    VerdictsSound next := by
  have after := rangesSound_step valid applies ranges
  cases applies with
  | release =>
    rintro sample covered epoch ⟨decision, member, released, inEpoch, held⟩
    rcases mem_snoc member with old | rfl
    · exact sound sample covered epoch ⟨decision, old, released, inEpoch, held⟩
    · obtain ⟨⟨confirmation, known, confirmed⟩, unheard⟩ := (notPlayed_covers after sample).mp covered
      exact absurd (fits (released_iff.mp released) sample held confirmation known confirmed) unheard
  | acknowledgement =>
    refine verdictsSound_mono ?_ ?_ ?_ ?_ sound
    · intro sample covered
      obtain ⟨confirmed, unheard⟩ := (notPlayed_covers after sample).mp covered
      refine (notPlayed_covers ranges sample).mpr ⟨confirmed, fun heard => unheard ?_⟩
      refine (normalize_covers (ranges.acknowledged.valid.append (normalize_valid _)) sample).mpr ?_
      exact (covers_append _ _ _).mpr (Or.inl heard)
    · exact fun decision member _ => member
    · exact fun clear member => member
    · exact fun confirmation member => member
  | cleared =>
    refine verdictsSound_mono ?_ ?_ ?_ ?_ sound
    · exact fun sample covered => covered
    · exact fun decision member _ => member
    · exact fun clear member => List.mem_append_left _ member
    · exact fun confirmation member => member
  | confirmation confirmationId clearId named clear fresh found =>
    simp only [validatePayload, Bool.and_eq_true] at valid
    exact confirmation_verdicts (isRangeList_each valid.2) ranges rfl after found fits sound
  | chunk | closed | claim | grant | bargeIn | truncation => exact sound

/-! ## Runs -/

/-- What the evidence reports as not played was not played, in every epoch. -/
structure VerdictSound (response : AudibilityResponseLedger) (item : ResponseEvidence) : Prop where
  samples : ∀ sample, Covers item.verifiedNotPlayedRanges sample → Undelivered response sample
  claims : ∀ verdict ∈ item.terminalClaims, verdict.status = .verifiedNotAudible →
    ∀ claim, response.claims.lookup verdict.claimId = some claim →
      ∀ sample, claim.range.Holds sample → Undelivered response sample

/-- The evidence reports audio as not played only if it was not. -/
def NotHeardSound (localeCompare : String → String → Int) (ledger : AudibilityLedger) : Prop :=
  ∀ evidence, projectAudibleConversationEvidence localeCompare ledger = some evidence →
    ∀ item ∈ evidence.responses, ∃ response,
      ledger.responses.lookup item.responseId = some (.ledger response) ∧ VerdictSound response item

/-- A claim that is verified as not audible lies in the ranges that are reported as not
played. -/
theorem notAudible_covers {claim : TerminalClaim} (valid : isRange claim.range)
    (status : (claimAudibility response claim).status = .verifiedNotAudible) {sample : Nat}
    (held : claim.range.Holds sample) : Covers (verifiedNotPlayedRanges response) sample := by
  have covered : coversRange (intersectRanges (verifiedNotPlayedRanges response) [claim.range])
      claim.range = true := by
    simp only [claimAudibility, claimStatus] at status
    split_ifs at status with heard missed
    exact missed
  have included := covers_of_coversRange (intersect_valid _ _) valid covered held
  exact ((intersect_covers notPlayed_valid sample).mp included).1

theorem responseEvidence_verdict (ranges : RangesSound response) (keyed : ClaimsKeyed response)
    (sound : VerdictsSound response) (localeCompare : String → String → Int) (responseId : String) :
    VerdictSound response (responseEvidence response localeCompare responseId) := by
  constructor
  · exact sound
  · intro verdict member status claim found sample held
    obtain ⟨own, listed, rfl⟩ := List.mem_map.mp member
    have registered := (List.mem_insertionSort _).mp listed
    have same : own = claim := Option.some.inj ((keyed.lookup registered).symm.trans found)
    subst same
    obtain ⟨key, stored⟩ := mem_objectValues.mp registered
    exact sound sample (notAudible_covers (ranges.claims _ stored).valid status held)

theorem everyResponse_verdicts {sessionId : String} {initial : AudibilityLedger}
    (created : createAudibilityLedger sessionId = .ok initial)
    (events : List AudibilityLedgerEvent) (fitting : Meets afterEvent FitsEvent initial events) :
    EveryResponse (fun response => RangesSound response ∧ VerdictsSound response)
      (run afterEvent initial events) := by
  refine run_invariant_meets _ ?_ ?_ events fitting
  · rw [createAudibilityLedger_ok created]
    intro key response stored
    cases stored
  · intro state event fits before
    by_cases taken : TakesEvent state event
    swap
    · rw [afterEvent_of_not_taken taken]
      exact before
    refine everyResponse_step ?_ ?_ before
    · intro responseId sampleRateHz channels
      refine ⟨newResponse_sound _ _ _, ?_⟩
      rintro sample - epoch ⟨decision, member, -⟩
      cases member
    · intro current next turn found applies holds
      have valid := validateEvent_payload turn.valid
      exact ⟨rangesSound_step valid applies holds.1,
        verdictsSound_step valid applies (fits taken current found) holds.1 holds.2⟩

/-- In a run in which every event that is taken fits, each state reports audio as not played
only if it was not played in any epoch in which it was released. -/
theorem not_heard_verdicts_sound {sessionId : String} {initial : AudibilityLedger}
    (created : createAudibilityLedger sessionId = .ok initial)
    (events : List AudibilityLedgerEvent) (fitting : Meets afterEvent FitsEvent initial events)
    (localeCompare : String → String → Int) (before after : List AudibilityLedgerEvent)
    (reached : events = before ++ after) :
    NotHeardSound localeCompare (run afterEvent initial before) := by
  subst reached
  intro evidence projected item member
  have reachable : Reachable (run afterEvent initial before) :=
    ⟨sessionId, initial, before, created, rfl⟩
  obtain ⟨response, stored, same⟩ := project_item projected member
  have sound := (everyResponse_verdicts created before (meets_left fitting) _ response stored).2
  refine ⟨response, stored, ?_⟩
  rw [same]
  exact responseEvidence_verdict sound.1 (reachable_claimsKeyed reachable _ _ stored).2 sound.2
    localeCompare item.responseId

/-! ## A repeated reply -/

/-- A reply that is cleared and confirmed as not played. -/
def clearedReply : List (String × AudibilityPayload) :=
  [("reply-1", .responseRegistered 8000 1), ("reply-1", .pcmChunkGenerated "chunk-1" 0 10
      "0000000000000000000000000000000000000000000000000000000000000000"),
    ("reply-1", .releaseRequested "release-1" ⟨0, 10⟩ []),
    ("reply-1", .playbackCleared "clear-1" .other),
    ("reply-1", .deliveryClearConfirmed "confirmed-1" "clear-1" [⟨0, 10⟩])]

/-- The same reply, released once more. -/
def repeatedReply : List (String × AudibilityPayload) :=
  clearedReply ++ [("reply-1", .releaseRequested "release-2" ⟨0, 10⟩ [])]

/-- The repeated reply is reported as not played while its delivery is unknown. -/
theorem repeated_reply_misreported : ¬ NotHeardSound compareUnits (callLedger repeatedReply) := by
  intro sound
  have shown : (projectAudibleConversationEvidence compareUnits (callLedger repeatedReply)).map
      (fun evidence => evidence.responses.map fun item =>
        (item.responseId, item.verifiedNotPlayedRanges)) =
      some [("reply-1", [⟨0, 10⟩])] := by decide +kernel
  have facts : (storedLedger (callLedger repeatedReply) "reply-1").map (fun response =>
      (decide (ReleasedIn response 1 0), decide (ConfirmedIn response 1 0))) =
      some (true, false) := by decide +kernel
  obtain ⟨evidence, projected, items⟩ := Option.map_eq_some_iff.mp shown
  obtain ⟨item, rest, same, named, -⟩ := List.map_eq_cons_iff.mp items
  obtain ⟨itemId, itemRanges⟩ := Prod.mk.inj named
  have member : item ∈ evidence.responses := by
    rw [same]
    exact List.mem_cons_self
  obtain ⟨response, stored, verdict⟩ := sound evidence projected item member
  rw [itemId] at stored
  have isStored : storedLedger (callLedger repeatedReply) "reply-1" = some response := by
    rw [storedLedger, stored]
  rw [isStored] at facts
  obtain ⟨again, unconfirmed⟩ := Prod.mk.inj (Option.some.inj facts)
  have reported : Covers item.verifiedNotPlayedRanges 0 := by
    rw [itemRanges]
    decide
  exact of_decide_eq_false unconfirmed (verdict.samples 0 reported 1 (of_decide_eq_true again))

/-- An event fits if the ledger stored for its response has a view that suffices. -/
theorem fitsEvent_of_view {state : AudibilityLedger} {event : AudibilityLedgerEvent}
    (view : AudibilityResponseLedger → Bool)
    (shown : (storedLedger state event.responseId).all view)
    (enough : ∀ response, view response = true → Fits response event.payload) :
    FitsEvent state event := by
  intro _ response stored
  have isStored : storedLedger state event.responseId = some response := by
    rw [storedLedger, stored]
  rw [isStored] at shown
  exact enough response shown

/-- The events of the cleared reply fit. -/
theorem clearedReply_fits :
    Meets afterEvent FitsEvent ⟨"call-1", 0, [], [], []⟩ (callEvents clearedReply) := by
  refine ⟨?_, ?_, ?_, ?_, ?_, trivial⟩
  · exact fun _ _ _ => trivial
  · exact fun _ _ _ => trivial
  · refine fitsEvent_of_view (fun response => decide (response.deliveryClearConfirmations = []))
      (by decide +kernel) ?_
    intro response unconfirmed _ sample _ confirmation member
    rw [of_decide_eq_true unconfirmed] at member
    cases member
  · exact fun _ _ _ => trivial
  · refine fitsEvent_of_view (fun response =>
      decide ((∀ decision ∈ response.releaseDecisions, decision.queueEpoch = 0) ∧
        ∀ clear ∈ response.clears, clear.closedQueueEpoch = 0)) (by decide +kernel) ?_
    intro response oneEpoch
    obtain ⟨released, closed⟩ := of_decide_eq_true oneEpoch
    -- Everything was released in the epoch that the clear closed.
    rintro clear found sample - - other ⟨decision, member, -, inEpoch, -⟩
    left
    rw [← inEpoch, released decision member, closed clear (findClear_spec found).1]

/-- The cleared reply is reported as not played, and rightly. -/
theorem cleared_reply_reported :
    (projectAudibleConversationEvidence compareUnits (callLedger clearedReply)).map
        (fun evidence => evidence.responses.map ResponseEvidence.verifiedNotPlayedRanges) =
      some [[⟨0, 10⟩]] ∧
    NotHeardSound compareUnits (callLedger clearedReply) := by
  have created : createAudibilityLedger "call-1" = .ok ⟨"call-1", 0, [], [], []⟩ := by decide
  refine ⟨by decide +kernel, ?_⟩
  exact not_heard_verdicts_sound created (callEvents clearedReply) clearedReply_fits compareUnits
    (callEvents clearedReply) [] (List.append_nil _).symm

end CallCenter.AudibilityVerdicts
