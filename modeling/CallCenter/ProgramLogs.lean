import CallCenter.ProgramTexts

/-!
# Logs of a conversation program

A log is sound if its events are well formed, distinct, chained by their digests and
replay to a state. Folding accepts exactly the sound logs, and a batch of drafts extends a
sound log to a sound one.

A log can be built from drafts by signing one after another. Such a log is sound if the
drafts pass their schema and their payloads replay, whatever the digest function is.
-/

namespace CallCenter.ProgramLogs

open Guards Replays HashChains KeyedTables ProgramEvents ProgramReducer ProgramTexts
open ConversationEvents (utf8Bytes)

variable {sha256 : String → String}

/-! ## Valid logs -/

/-- One event of a valid log, after the digest at its head. -/
def eventIntact (sha256 : String → String) (programId : String) (index : Nat)
    (previous : Option String) (event : ConversationProgramEvent) : Bool :=
  ConversationProgramEventSchema event.normalized && decide (event.programId = programId)
    && decide (event.sequence = index + 1) && decide (some event.previousSha256 = previous)
    && decide (eventDigest sha256 event.normalized = event.eventSha256)

/-- The chain of events is intact. -/
def ChainIntact (sha256 : String → String) (programId : String)
    (events : List ConversationProgramEvent) : Prop :=
  firstBroken (eventIntact sha256 programId) ConversationProgramEvent.eventSha256 0
    (some CONVERSATION_PROGRAM_GENESIS_SHA256) events = none

theorem validateFrom_ok_iff (programId : String) (index : Nat) (previousSha256 : String)
    (seen : List String) (state : MutableProjection) (events : List ConversationProgramEvent)
    (done : Unit) :
    validateFrom sha256 programId index previousSha256 seen state events = .ok done ↔
      firstBroken (eventIntact sha256 programId) ConversationProgramEvent.eventSha256 index
          (some previousSha256) events = none ∧
        (events.map ConversationProgramEvent.eventId).Nodup ∧
        (∀ event ∈ events, event.eventId ∉ seen) ∧
        ∃ final, replay applyParsed state events = .ok final := by
  induction events generalizing index previousSha256 seen state with
  | nil => simp [validateFrom, firstBroken]
  | cons event rest ih =>
    rw [← and_assoc (a := List.Nodup _), distinct_cons_iff]
    simp only [validateFrom, bind_ok_iff, require_ok_iff, ih, exists_const,
      firstBroken_cons, eventIntact, decide_eq_true_eq, Bool.not_eq_true', List.contains_eq_mem,
      decide_eq_false_iff_not, Option.some.injEq, Bool.and_eq_true, replay_cons_ok_iff]
    constructor
    · rintro ⟨schema, bound, contiguous, linked, unused, digested, next, applied, chained, distinct,
        fresh, final, replayed⟩
      exact ⟨⟨⟨⟨⟨⟨schema, bound⟩, contiguous⟩, linked⟩, digested⟩, chained⟩,
        ⟨unused, distinct, fresh⟩, final, next, applied, replayed⟩
    · rintro ⟨⟨⟨⟨⟨⟨schema, bound⟩, contiguous⟩, linked⟩, digested⟩, chained⟩,
        ⟨unused, distinct, fresh⟩, final, next, applied, replayed⟩
      exact ⟨schema, bound, contiguous, linked, unused, digested, next, applied, chained,
        distinct, fresh, final, replayed⟩

/-- The digest at the head of the chain. -/
theorem headHash_eq_logHead (events : List ConversationProgramEvent) :
    headHash ConversationProgramEvent.eventSha256 (some CONVERSATION_PROGRAM_GENESIS_SHA256)
      events = some (logHead events) := by
  unfold headHash logHead
  cases events.getLast? with
  | none | some event => rfl

/-- The chain after one more event. -/
theorem chainIntact_snoc (programId : String) (events : List ConversationProgramEvent)
    (event : ConversationProgramEvent) :
    ChainIntact sha256 programId (events ++ [event]) ↔ ChainIntact sha256 programId events ∧
        eventIntact sha256 programId events.length (some (logHead events)) event = true := by
  rw [ChainIntact, firstBroken_snoc, headHash_eq_logHead, Nat.zero_add, ChainIntact]

/-! ## Sound logs -/

/-- The log is valid and its events replay to the state. -/
structure Sound (sha256 : String → String) (log : ConversationProgramLog)
    (state : MutableProjection) : Prop where
  versioned : log.schemaVersion = CONVERSATION_PROGRAM_VERSION
  identified : IdSchema log.programId = true
  chained : ChainIntact sha256 log.programId log.events
  distinct : DistinctKeys ConversationProgramEvent.eventId log.events
  replayed : replayEvents log.events = .ok state

/-- Validation accepts exactly the logs that are sound for some state. -/
theorem validateConversationProgramLog_ok_iff (log : ConversationProgramLog) (done : Unit) :
    validateConversationProgramLog sha256 log = .ok done ↔ ∃ state, Sound sha256 log state := by
  simp only [validateConversationProgramLog, guarded_ok_iff, decide_eq_true_eq, validateFrom_ok_iff,
    List.not_mem_nil, not_false_eq_true, implies_true, true_and, parsed_replays_iff]
  constructor
  · rintro ⟨versioned, identified, chained, distinct, state, replayed⟩
    exact ⟨state, versioned, identified, chained, distinct, replayed⟩
  · rintro ⟨state, sound⟩
    exact ⟨sound.versioned, sound.identified, sound.chained, sound.distinct, state, sound.replayed⟩

theorem foldConversationProgram_ok_iff (log : ConversationProgramLog)
    (projection : ConversationProgramProjection) :
    foldConversationProgram sha256 log = .ok projection ↔
      ∃ state, Sound sha256 log state ∧ project log state = projection := by
  simp only [foldConversationProgram, bind_ok_iff, pure_ok_iff,
    validateConversationProgramLog_ok_iff, exists_const]
  constructor
  · rintro ⟨⟨other, sound⟩, state, replayed, projected⟩
    cases sound.replayed.symm.trans replayed
    exact ⟨other, sound, projected⟩
  · rintro ⟨state, sound, projected⟩
    exact ⟨⟨state, sound⟩, state, sound.replayed, projected⟩

variable {log : ConversationProgramLog} {final : MutableProjection} {programId : String}

/-- The log with other events. -/
def withEvents (log : ConversationProgramLog) (events : List ConversationProgramEvent) :
    ConversationProgramLog :=
  { log with events }

/-- One more event keeps a log sound exactly when it is intact, new and applicable. -/
theorem sound_snoc_iff (log : ConversationProgramLog) (event : ConversationProgramEvent)
    (final : MutableProjection) :
    Sound sha256 (withEvents log (log.events ++ [event])) final ↔ ∃ state, Sound sha256 log state ∧
        eventIntact sha256 log.programId log.events.length (some (logHead log.events)) event =
          true ∧
        (∀ other ∈ log.events, other.eventId ≠ event.eventId) ∧
        applyEvent state event = .ok final := by
  constructor
  · intro sound
    obtain ⟨chained, intact⟩ := (chainIntact_snoc _ _ _).mp sound.chained
    obtain ⟨state, replayed, applied⟩ := (replay_snoc_ok_iff _ _).mp sound.replayed
    have distinct : ((log.events ++ [event]).map ConversationProgramEvent.eventId).Nodup :=
      sound.distinct
    rw [List.map_append, List.nodup_append] at distinct
    refine ⟨state, ⟨sound.versioned, sound.identified, chained, distinct.1, replayed⟩, intact, ?_,
      applied⟩
    intro other member
    exact distinct.2.2 _ (List.mem_map_of_mem member) _ (by simp)
  · rintro ⟨state, sound, intact, fresh, applied⟩
    refine ⟨sound.versioned, sound.identified, ?_, ?_, ?_⟩
    · exact (chainIntact_snoc _ _ _).mpr ⟨sound.chained, intact⟩
    · exact DistinctKeys.snoc sound.distinct fresh
    · exact (replay_snoc_ok_iff _ _).mpr ⟨state, sound.replayed, applied⟩

variable {before after : List ConversationProgramEvent}

/-- Every initial segment of a sound log is sound. -/
theorem Sound.initial (sound : Sound sha256 (withEvents log (before ++ after)) final) :
    ∃ state, Sound sha256 (withEvents log before) state ∧
      replay applyEvent state after = .ok final := by
  induction after using List.reverseRecOn generalizing final with
  | nil =>
    rw [List.append_nil] at sound
    exact ⟨final, sound, rfl⟩
  | append_singleton after last ih =>
    rw [← List.append_assoc] at sound
    obtain ⟨middle, shorter, -, -, applied⟩ :=
      (sound_snoc_iff (withEvents log (before ++ after)) last final).mp sound
    obtain ⟨state, initial, replayed⟩ := ih shorter
    exact ⟨state, initial, (replay_snoc_ok_iff _ _).mpr ⟨middle, replayed, applied⟩⟩

/-- Induction along a sound log: each event passes the schema and applies to the state that
the events before it lead to. -/
theorem Sound.history (sound : Sound sha256 log final)
    (History : List ConversationProgramEvent → MutableProjection → Prop)
    (base : History [] emptyProjection)
    (extended : ∀ before event state next, Sound sha256 (withEvents log before) state →
      Sound sha256 (withEvents log (before ++ [event])) next →
      ConversationProgramEventSchema event.normalized = true → applyEvent state event = .ok next →
      History before state → History (before ++ [event]) next) :
    History log.events final := by
  have along : ∀ events state, Sound sha256 (withEvents log events) state →
      History events state := by
    intro events
    induction events using List.reverseRecOn with
    | nil =>
      intro state empty
      cases empty.replayed
      exact base
    | append_singleton before event ih =>
      intro next longer
      obtain ⟨state, shorter, intact, -, applied⟩ :=
        (sound_snoc_iff (withEvents log before) event next).mp longer
      simp only [eventIntact, Bool.and_eq_true] at intact
      exact extended before event state next shorter longer intact.1.1.1.1 applied
        (ih state shorter)
  exact along log.events final sound

variable {event : ConversationProgramEvent}

/-- The parsed form of every event of a sound log passes the schema, and the event stands
at the position that it names. -/
theorem Sound.intact (sound : Sound sha256 (withEvents log (before ++ event :: after)) final) :
    eventIntact sha256 log.programId before.length (some (logHead before)) event := by
  rw [← List.singleton_append, ← List.append_assoc] at sound
  obtain ⟨state, initial, -⟩ := sound.initial
  obtain ⟨-, -, intact, -, -⟩ := (sound_snoc_iff (withEvents log before) event state).mp initial
  exact intact

theorem Sound.schema (sound : Sound sha256 log final) (member : event ∈ log.events) :
    ConversationProgramEventSchema event.normalized := by
  obtain ⟨before, after, split⟩ := List.append_of_mem member
  have whole : Sound sha256 (withEvents log (before ++ event :: after)) final := by
    rw [← split]
    exact sound
  have intact := whole.intact
  simp only [eventIntact, Bool.and_eq_true] at intact
  exact intact.1.1.1.1

/-! ## Appending -/

/-- The event that a draft becomes at the end of the log. -/
def newEvent (sha256 : String → String) (programId : String)
    (events : List ConversationProgramEvent) (draft : ConversationProgramEventDraft) :
    ConversationProgramEvent :=
  signEvent sha256 programId events draft.normalized

/-- What a new draft has to meet. -/
structure Appendable (sha256 : String → String) (programId : String) (extension : Extension)
    (draft : ConversationProgramEventDraft) : Prop where
  fresh : ∀ event ∈ extension.events, event.eventId ≠ draft.eventId
  revision : draft.expectedRevision = extension.events.length
  schema : ConversationProgramEventSchema (newEvent sha256 programId extension.events draft) = true
  bounded : utf8Bytes (newEvent sha256 programId extension.events draft).toValue.text ≤
    MAX_EVENT_BYTES

theorem newEvent_normalized (programId : String) (events : List ConversationProgramEvent)
    (draft : ConversationProgramEventDraft) :
    (newEvent sha256 programId events draft).normalized =
      newEvent sha256 programId events draft := by
  simp [newEvent, signEvent, ConversationProgramEvent.normalized,
    ConversationProgramEventDraft.normalized, eventDigest, ConversationProgramEvent.unsignedFields]

variable {draft : ConversationProgramEventDraft}

/-- A new event follows the log. -/
theorem newEvent_intact {events : List ConversationProgramEvent}
    (schema : ConversationProgramEventSchema (newEvent sha256 programId events draft)) :
    eventIntact sha256 programId events.length (some (logHead events))
      (newEvent sha256 programId events draft) := by
  simp only [eventIntact, newEvent_normalized, schema, Bool.true_and, Bool.and_eq_true,
    decide_eq_true_eq]
  exact ⟨⟨⟨rfl, rfl⟩, rfl⟩, rfl⟩

/-- What appending a draft does: it is in the log already, or becomes its last event. -/
theorem appendDraft_ok_iff (programId : String) (extension next : Extension)
    (draft : ConversationProgramEventDraft) :
    appendDraft sha256 programId extension draft = .ok next ↔
      (ConversationProgramEventDraftSchema draft.normalized = true ∧ next = extension ∧
          ∃ event, extension.events.find? (fun event => event.eventId = draft.eventId) =
              some event ∧
            event.draft.toValue.text = draft.normalized.toValue.text) ∨
        (Appendable sha256 programId extension draft ∧
          ∃ state, applyEvent extension.state (newEvent sha256 programId extension.events draft) =
              .ok state ∧
            next = ⟨state, extension.events ++ [newEvent sha256 programId extension.events draft],
              true⟩) := by
  have parsed : (signEvent sha256 programId extension.events draft.normalized).normalized =
      newEvent sha256 programId extension.events draft :=
    newEvent_normalized programId extension.events draft
  have named : draft.normalized.eventId = draft.eventId := rfl
  simp only [appendDraft, bind_ok_iff, require_ok_iff, exists_const, named, parsed]
  cases found : extension.events.find? fun event => event.eventId = draft.eventId with
  | none =>
    have fresh : ∀ event ∈ extension.events, event.eventId ≠ draft.eventId := by
      simpa using found
    simp only [bind_ok_iff, require_ok_iff, exists_const, decide_eq_true_eq, pure_ok_iff]
    constructor
    · rintro ⟨-, revision, schema, bounded, state, applied, changed⟩
      exact Or.inr ⟨⟨fresh, revision, schema, bounded⟩, state, applied, changed.symm⟩
    · rintro (⟨-, -, event, impossible, -⟩ | ⟨appendable, state, applied, changed⟩)
      · cases impossible
      · have schema := appendable.schema
        simp only [ConversationProgramEventSchema, Bool.and_eq_true] at schema
        exact ⟨schema.1.1.1.1.1, appendable.revision, appendable.schema, appendable.bounded, state,
          applied, changed.symm⟩
  | some existing =>
    simp only [guarded_ok_iff, decide_eq_true_eq, pure_ok_iff]
    constructor
    · rintro ⟨schema, same, unchanged⟩
      exact Or.inl ⟨schema, unchanged.symm, existing, rfl, same⟩
    · rintro (⟨schema, unchanged, event, known, same⟩ | ⟨appendable, -⟩)
      · cases known
        exact ⟨schema, same, unchanged.symm⟩
      · have used := List.find?_some found
        exact absurd (by simpa using used)
          (appendable.fresh existing (List.mem_of_find?_eq_some found))

/-- Appending a draft keeps a log sound and only adds to it. -/
theorem appendDraft_sound {extension next : Extension}
    (appended : appendDraft sha256 log.programId extension draft = .ok next)
    (sound : Sound sha256 (withEvents log extension.events) extension.state) :
    Sound sha256 (withEvents log next.events) next.state ∧
      ∃ later, next.events = extension.events ++ later := by
  obtain ⟨-, rfl, -⟩ | ⟨appendable, state, applied, rfl⟩ := (appendDraft_ok_iff _ _ _ _).mp appended
  · exact ⟨sound, [], by simp⟩
  · refine ⟨?_, _, rfl⟩
    exact (sound_snoc_iff (withEvents log extension.events) _ state).mpr
      ⟨extension.state, sound, newEvent_intact appendable.schema, appendable.fresh, applied⟩

variable {drafts : List ConversationProgramEventDraft}

/-- A batch extends a sound log to a sound one; without a new event it leaves the log
alone. -/
theorem batch_sound {state : MutableProjection} {final : Extension}
    (extended : replay (appendDraft sha256 log.programId) ⟨state, log.events, false⟩ drafts =
      .ok final) (sound : Sound sha256 log state) :
    Sound sha256 (withEvents log final.events) final.state ∧
      (∃ later, final.events = log.events ++ later) ∧
      (final.appended = false → final.events = log.events) := by
  refine replay_invariant (fun extension : Extension =>
    Sound sha256 (withEvents log extension.events) extension.state ∧
      (∃ later, extension.events = log.events ++ later) ∧
      (extension.appended = false → extension.events = log.events)) ?_ extended
    ⟨sound, ⟨[], by simp⟩, fun _ => rfl⟩
  rintro extension draft next appended ⟨known, ⟨earlier, kept⟩, unextended⟩
  obtain ⟨nextSound, later, added⟩ := appendDraft_sound appended known
  refine ⟨nextSound, ⟨earlier ++ later, by rw [added, kept, List.append_assoc]⟩, ?_⟩
  obtain ⟨-, rfl, -⟩ | ⟨-, _, -, rfl⟩ := (appendDraft_ok_iff _ _ _ _).mp appended
  · exact unextended
  · intro unflagged
    cases unflagged

/-- What a batch returns. -/
theorem appendConversationProgramEvents_ok_iff (log next : ConversationProgramLog)
    (drafts : List ConversationProgramEventDraft) :
    appendConversationProgramEvents sha256 log drafts = .ok next ↔
      ∃ state extension, Sound sha256 log state ∧
        replay (appendDraft sha256 log.programId) ⟨state, log.events, false⟩ drafts =
          .ok extension ∧
        next = withEvents log extension.events := by
  simp only [appendConversationProgramEvents, bind_ok_iff, pure_ok_iff,
    validateConversationProgramLog_ok_iff, exists_const]
  have result : ∀ state extension, Sound sha256 log state →
      replay (appendDraft sha256 log.programId) ⟨state, log.events, false⟩ drafts = .ok extension →
      (if extension.appended then
        ⟨CONVERSATION_PROGRAM_VERSION, log.programId, extension.events⟩ else log) =
        withEvents log extension.events := by
    intro state extension sound extended
    obtain ⟨-, -, unextended⟩ := batch_sound extended sound
    split
    · rw [withEvents, sound.versioned]
    · next unflagged => rw [withEvents, unextended (Bool.eq_false_iff.mpr unflagged)]
  constructor
  · rintro ⟨⟨other, sound⟩, state, replayed, extension, extended, same⟩
    cases sound.replayed.symm.trans replayed
    exact ⟨other, extension, sound, extended,
      same.symm.trans (result other extension sound extended)⟩
  · rintro ⟨state, extension, sound, extended, same⟩
    exact ⟨⟨state, sound⟩, state, sound.replayed, extension, extended,
      (result state extension sound extended).trans same.symm⟩

/-- A batch returns a sound log that extends the one it was given. -/
theorem appendConversationProgramEvents_sound {next : ConversationProgramLog}
    (appended : appendConversationProgramEvents sha256 log drafts = .ok next) :
    ∃ state later, Sound sha256 next state ∧ next = withEvents log (log.events ++ later) := by
  obtain ⟨state, extension, sound, extended, rfl⟩ :=
    (appendConversationProgramEvents_ok_iff _ _ _).mp appended
  obtain ⟨known, ⟨later, added⟩, -⟩ := batch_sound extended sound
  exact ⟨extension.state, later, known, by rw [added]⟩

end CallCenter.ProgramLogs
