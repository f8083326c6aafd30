import CallCenter.ProgramScripts
import CallCenter.ProgramFrontier
import CallCenter.JsonSizes

/-!
# Drafts that a program accepts

Whether a draft becomes an event depends on its schema, on its identity and revision, on
the size of the event and on the state. The envelope of an event takes at most three
thousand bytes besides its timestamp and payload.
-/

namespace CallCenter.ProgramAppends

open JsonValues JsonSizes Replays ProgramEvents ProgramReducer ProgramTransitions
open ProgramLogs ProgramScripts
open ConversationEvents (utf8Bytes)
open FlowState (isHexDigest)

variable {sha256 : String → String} {log : ConversationProgramLog} {state : MutableProjection}

/-! ## Sizes -/

theorem IdSchema_length {text : String} (identity : IdSchema text) : text.toList.length ≤ 128 := by
  unfold IdSchema MissionSchema.matchesShape at identity
  split at identity
  · cases identity
  · next first rest shape =>
    simp only [Bool.and_eq_true, decide_eq_true_eq] at identity
    rw [shape, List.length_cons]
    omega

theorem textRoom_id {text : String} (identity : IdSchema text) : textRoom text ≤ 770 := by
  have length := IdSchema_length identity
  unfold textRoom
  omega

theorem textRoom_digest {text : String} (hexadecimal : isHexDigest text) : textRoom text = 386 := by
  simp only [isHexDigest, Bool.and_eq_true, decide_eq_true_eq] at hexadecimal
  rw [textRoom, hexadecimal.1]

theorem room_revision {count : Nat} (revision : RevisionSchema count) :
    room (Value.ofNat count) ≤ 16 := by
  have small : count ≤ MAX_SAFE_INTEGER := of_decide_eq_true revision
  apply room_ofNat (by decide)
  refine Nat.lt_of_le_of_lt small ?_
  decide

/-- The size of a well-formed event. -/
theorem event_bytes {event : ConversationProgramEvent}
    (schema : ConversationProgramEventSchema event) :
    utf8Bytes event.toValue.text ≤
      3000 + textRoom event.occurredAt + room event.payload.toValue := by
  have fits := bytes_text event.toValue
  simp only [ConversationProgramEventSchema, ConversationProgramEventDraftSchema,
    ConversationProgramEvent.draft, PositiveRevisionSchema, Bool.and_eq_true,
    decide_eq_true_eq] at schema
  obtain ⟨⟨⟨⟨⟨⟨⟨⟨identity, revision⟩, _⟩, _⟩, version⟩, program⟩, _, sequence⟩, previous⟩, digest⟩ :=
    schema
  have keys : textRoom "schemaVersion" + textRoom "programId" + textRoom "sequence"
      + textRoom "previousSha256" + textRoom "eventId" + textRoom "expectedRevision"
      + textRoom "occurredAt" + textRoom "payload" + textRoom "eventSha256" = 588 := by decide
  have versioned : room (Value.ofNat event.schemaVersion) ≤ 16 := by
    rw [version]
    exact room_revision (by decide)
  have identityFits := textRoom_id identity
  have programFits := textRoom_id program
  have previousFits := textRoom_digest previous
  have digestFits := textRoom_digest digest
  have revisionFits := room_revision revision
  have sequenceFits := room_revision sequence
  simp only [ConversationProgramEvent.toValue, ConversationProgramEvent.unsignedFields,
    List.cons_append, List.nil_append, room, fieldsRoom] at fits
  unfold utf8Bytes ConversationProgramEvent.toValue ConversationProgramEvent.unsignedFields
  simp only [List.cons_append, List.nil_append]
  omega

/-! ## Appending one event -/

section

variable (sound : Sound sha256 log state)
include sound

/-- The head of a sound log is a digest. -/
theorem sound_head : isHexDigest (logHead log.events) := by
  apply logHead_hexadecimal
  intro event member
  have schema := sound.schema member
  simp only [ConversationProgramEventSchema, Bool.and_eq_true] at schema
  exact schema.2

/-- An appendable draft whose payload applies becomes the last event. -/
theorem append_applied {draft : ConversationProgramEventDraft} {next : MutableProjection}
    (appendable : Appendable sha256 log.programId ⟨state, log.events, false⟩ draft)
    (applied : applyPayload state (log.events.length + 1) log.events.length
      draft.payload.normalized = .ok next) :
    appendConversationProgramEvent sha256 log draft =
      .ok (withEvents log (log.events ++ [newEvent sha256 log.programId log.events draft])) := by
  have step : applyEvent state (newEvent sha256 log.programId log.events draft) = .ok next := by
    have revision : draft.expectedRevision = log.events.length := appendable.revision
    refine (applyEvent_ok_iff _).mpr ⟨congrArg (· + 1) revision, ?_⟩
    have expected : (newEvent sha256 log.programId log.events draft).expectedRevision =
        log.events.length := revision
    rw [expected]
    exact applied
  have extended := (appendDraft_ok_iff _ _ _ _).mpr (Or.inr ⟨appendable, next, step, rfl⟩)
  refine (appendConversationProgramEvents_ok_iff _ _ _).mpr ⟨state,
    ⟨next, log.events ++ [newEvent sha256 log.programId log.events draft], true⟩, sound, ?_, rfl⟩
  simp only [replay, extended]
  rfl

/-- A new event of a log stands within the safe integers. -/
theorem appended_bounded (nonempty : log.events ≠ []) :
    log.events.length ≤ MAX_SAFE_INTEGER := by
  obtain ⟨before, last, split⟩ := List.eq_nil_or_concat' log.events |>.resolve_left nonempty
  have whole : Sound sha256 (withEvents log (before ++ last :: [])) state := by
    rw [← split]
    exact sound
  have intact := whole.intact
  simp only [eventIntact, ConversationProgramEventSchema, PositiveRevisionSchema, RevisionSchema,
    Bool.and_eq_true, decide_eq_true_eq] at intact
  have positioned : last.normalized.sequence = last.sequence := rfl
  rw [split, List.length_append, List.length_singleton]
  have contiguous := intact.1.1.2
  have small := intact.1.1.1.1.1.1.2.2
  omega

end

end CallCenter.ProgramAppends
