import CallCenter.AudibilityTransitions

/-!
# Released, acknowledged and cleared audio

The collections of a response grow independently of each other. What relates them: every
range has been checked, decisions and claims lie inside the generated audio, and whatever was
acknowledged, cleared or confirmed as not played lies inside released ranges. A released
decision names a grant for every claim in its range, also for the claims that are
registered later, because those may not overlap a released range.
-/

namespace CallCenter.AudibilityReleases

open HalfOpenSpans ObjectFields
open AudibilityEvents AudibilityReducer AudibilityRanges AudibilityTransitions

/-! ## Released samples -/

/-- A decision about a range with the sample released it. -/
def Released (response : AudibilityResponseLedger) (sample : Nat) : Prop :=
  ∃ decision ∈ response.releaseDecisions, decision.outcome = .released ∧ decision.range.Holds sample

theorem covers_releases_iff (response : AudibilityResponseLedger) (sample : Nat) :
    Covers (releases response) sample ↔ Released response sample := by
  simp only [Released, Covers, releases, List.mem_map, List.mem_filter, decide_eq_true_eq]
  constructor
  · rintro ⟨range, ⟨decision, ⟨member, released⟩, rfl⟩, held⟩
    exact ⟨decision, member, released, held⟩
  · rintro ⟨decision, member, released, held⟩
    exact ⟨decision.range, ⟨decision, ⟨member, released⟩, rfl⟩, held⟩

/-- Checked ranges of released samples. -/
structure Within (released ranges : List SampleRange) : Prop where
  valid : Valid ranges
  included : ∀ sample, Covers ranges sample → Covers released sample

theorem Within.trans {outer middle inner : List SampleRange}
    (included : ∀ sample, Covers middle sample → Covers outer sample)
    (within : Within middle inner) : Within outer inner :=
  ⟨within.valid, fun sample covered => included sample (within.included sample covered)⟩

/-- A checked range inside the generated audio. -/
structure InsideAudio (generatedSampleCount : Nat) (range : SampleRange) : Prop where
  valid : isRange range = true
  inside : range.stop ≤ generatedSampleCount

theorem InsideAudio.mono {smaller larger : Nat} {range : SampleRange} (grown : smaller ≤ larger)
    (inside : InsideAudio smaller range) : InsideAudio larger range :=
  ⟨inside.valid, Nat.le_trans inside.inside grown⟩

/-- What relates the ranges of a response. -/
structure RangesSound (response : AudibilityResponseLedger) : Prop where
  decisions : ∀ decision ∈ response.releaseDecisions,
    InsideAudio response.generatedSampleCount decision.range
  claims : ∀ field ∈ response.claims, InsideAudio response.generatedSampleCount field.2.range
  acknowledgements : ∀ acknowledgement ∈ response.playbackAcknowledgements,
    Within (releases response) acknowledgement.ranges
  acknowledged : Within (releases response) response.acknowledgedPlayedRanges
  clears : ∀ clear ∈ response.clears, Within (releases response) clear.clearedRanges
  confirmations : ∀ confirmation ∈ response.deliveryClearConfirmations,
    Within (releases response) confirmation.confirmedNotPlayedRanges

theorem newResponse_sound (responseId : String) (sampleRateHz channels : Nat) :
    RangesSound (newResponse responseId sampleRateHz channels) := by
  have nothing : Within (releases (newResponse responseId sampleRateHz channels)) [] := by
    constructor
    · intro range member
      cases member
    · intro sample covered
      exact absurd covered (covers_nil sample)
  constructor
  · intro decision member
    cases member
  · intro field member
    cases member
  · intro acknowledgement member
    cases member
  · exact nothing
  · intro clear member
    cases member
  · intro confirmation member
    cases member

section Steps
variable {current : AudibilityResponseLedger}

/-- The ranges of the named decisions are released. -/
theorem namedRanges_within (sound : RangesSound current) {releaseDecisionIds : List String}
    (playable : ∀ decisionId ∈ releaseDecisionIds, ∃ decision,
      findDecision current decisionId = some decision ∧ Playable current decision) :
    Within (releases current) (namedRanges current releaseDecisionIds) := by
  have named : ∀ range ∈ namedRanges current releaseDecisionIds, ∃ decision,
      Playable current decision ∧ decision.range = range := by
    intro range member
    obtain ⟨found, foundMember, rangeOf⟩ := List.mem_filterMap.mp member
    obtain ⟨decisionId, listed, rfl⟩ := List.mem_map.mp foundMember
    obtain ⟨decision, isFound, isPlayable⟩ := playable decisionId listed
    rw [isFound] at rangeOf
    exact ⟨decision, isPlayable, Option.some.inj rangeOf⟩
  constructor
  · intro range member
    obtain ⟨decision, isPlayable, rfl⟩ := named range member
    exact (sound.decisions decision isPlayable.recorded).valid
  · rintro sample ⟨range, member, held⟩
    obtain ⟨decision, isPlayable, rfl⟩ := named range member
    exact (covers_releases_iff current sample).mpr
      ⟨decision, isPlayable.recorded, isPlayable.released, held⟩

/-- Ranges that are each covered by released ranges are released when normalised. -/
theorem normalized_within {ranges covering : List SampleRange} (valid : Valid ranges)
    (within : Within (releases current) covering)
    (inside : ∀ range ∈ ranges, coversRange covering range = true) :
    Within (releases current) (normalizeSampleRanges ranges) := by
  refine ⟨normalize_valid ranges, ?_⟩
  intro sample covered
  obtain ⟨range, member, held⟩ := (normalize_covers valid sample).mp covered
  have included := covers_of_coversRange within.valid (valid range member) (inside range member) held
  exact within.included sample included

theorem append_within {left right : List SampleRange} (first : Within (releases current) left)
    (second : Within (releases current) right) : Within (releases current) (left ++ right) := by
  refine ⟨first.valid.append second.valid, ?_⟩
  intro sample covered
  rcases (covers_append left right sample).mp covered with leftCovered | rightCovered
  · exact first.included sample leftCovered
  · exact second.included sample rightCovered

theorem normalize_within {ranges : List SampleRange} (within : Within (releases current) ranges) :
    Within (releases current) (normalizeSampleRanges ranges) := by
  refine ⟨normalize_valid ranges, ?_⟩
  intro sample covered
  exact within.included sample ((normalize_covers within.valid sample).mp covered)

section

variable (sound : RangesSound current)
include sound

theorem releasedThisEpoch_within :
    Within (releases current) (releasedThisEpoch current) := by
  have recorded : ∀ range ∈ releasedThisEpoch current, ∃ decision ∈ current.releaseDecisions,
      decision.outcome = .released ∧ decision.range = range := by
    intro range member
    obtain ⟨decision, kept, rfl⟩ := List.mem_map.mp member
    obtain ⟨decisionMember, passes⟩ := List.mem_filter.mp kept
    rw [Bool.and_eq_true, decide_eq_true_eq] at passes
    exact ⟨decision, decisionMember, passes.1, rfl⟩
  constructor
  · intro range member
    obtain ⟨decision, decisionMember, -, rfl⟩ := recorded range member
    exact (sound.decisions decision decisionMember).valid
  · rintro sample ⟨range, member, held⟩
    obtain ⟨decision, decisionMember, released, rfl⟩ := recorded range member
    exact (covers_releases_iff current sample).mpr ⟨decision, decisionMember, released, held⟩

theorem acknowledgedThisEpoch_valid :
    Valid (acknowledgedThisEpoch current) := by
  refine Valid.flatMap ?_
  intro acknowledgement member
  exact (sound.acknowledgements acknowledgement (List.mem_filter.mp member).1).valid

theorem clearedRanges_within : Within (releases current)
      (subtractRanges (releasedThisEpoch current) (acknowledgedThisEpoch current)) := by
  have epoch := releasedThisEpoch_within sound
  have acknowledged := acknowledgedThisEpoch_valid sound
  refine ⟨subtract_valid epoch.valid acknowledged, ?_⟩
  intro sample covered
  exact epoch.included sample ((subtract_covers epoch.valid acknowledged sample).mp covered).1

end

end Steps

theorem mem_snoc {α : Type} {items : List α} {last item : α} (member : item ∈ items ++ [last]) :
    item ∈ items ∨ item = last := by
  rcases List.mem_append.mp member with earlier | final
  · exact Or.inl earlier
  · exact Or.inr (List.mem_singleton.mp final)

theorem forall_snoc {α : Type} {Property : α → Prop} {items : List α} {last : α}
    (old : ∀ item ∈ items, Property item) (new : Property last) :
    ∀ item ∈ items ++ [last], Property item :=
  List.forall_mem_append.mpr ⟨old, List.forall_mem_singleton.mpr new⟩

/-- Each event keeps the ranges of its response sound. -/
theorem rangesSound_step {current next : AudibilityResponseLedger}
    {evidence : AudibilityEvidenceReference} {responseId : String} {payload : AudibilityPayload}
    (valid : validatePayload evidence payload)
    (applies : ResponseApplies current evidence responseId payload next)
    (sound : RangesSound current) : RangesSound next := by
  cases applies with
  | chunk chunkId ordinal sampleCount =>
    have grown := Nat.le_add_right current.generatedSampleCount sampleCount
    exact { sound with
      decisions := fun decision member => (sound.decisions decision member).mono grown
      claims := fun field member => (sound.claims field member).mono grown }
  | closed => exact { sound with }
  | claim claimId kind range contentSha256 fresh plain inside =>
    simp only [validatePayload, Bool.and_eq_true] at valid
    exact { sound with claims := forall_setField sound.claims ⟨valid.1.2, inside⟩ }
  | grant => exact { sound with }
  | release decisionId range claimGrantIds fresh inside =>
    simp only [validatePayload, Bool.and_eq_true] at valid
    have grown : ∀ sample, Covers (releases current) sample → Covers (releases { current with
          releaseDecisions := current.releaseDecisions ++
            [decideRelease current evidence decisionId range claimGrantIds] }) sample := by
      intro sample covered
      obtain ⟨decision, member, held⟩ := (covers_releases_iff current sample).mp covered
      exact (covers_releases_iff _ sample).mpr ⟨decision, List.mem_append_left _ member, held⟩
    constructor
    · exact forall_snoc sound.decisions ⟨valid.1.2, inside⟩
    · exact sound.claims
    · intro acknowledgement member
      exact (sound.acknowledgements acknowledgement member).trans grown
    · exact sound.acknowledged.trans grown
    · intro clear member
      exact (sound.clears clear member).trans grown
    · intro confirmation member
      exact (sound.confirmations confirmation member).trans grown
  | acknowledgement acknowledgementId ranges releaseDecisionIds fresh playable inside =>
    simp only [validatePayload, Bool.and_eq_true] at valid
    have played : Within (releases current) (normalizeSampleRanges ranges) :=
      normalized_within (isRangeList_each valid.1.1.2) (namedRanges_within sound playable) inside
    have total := normalize_within (append_within sound.acknowledged played)
    exact { sound with
      acknowledgements := forall_snoc sound.acknowledgements played
      acknowledged := total }
  | cleared =>
    exact { sound with clears := forall_snoc sound.clears (clearedRanges_within sound) }
  | confirmation confirmationId clearId ranges clear fresh found inside =>
    simp only [validatePayload, Bool.and_eq_true] at valid
    exact { sound with
      confirmations := forall_snoc sound.confirmations (normalized_within
        (isRangeList_each valid.2) (sound.clears clear (findClear_spec found).1) inside) }
  | bargeIn bargeInId clearId clear fresh found reason
  | truncation => exact { sound with }

theorem reachable_rangesSound {ledger : AudibilityLedger} (reachable : Reachable ledger) :
    EveryResponse RangesSound ledger :=
  reachable_everyResponse newResponse_sound
    (fun _ _ _ _ _ valid applies sound => rangesSound_step valid applies sound) reachable

end CallCenter.AudibilityReleases
