import CallCenter.ConversationKernel
import CallCenter.HashChains
import CallCenter.Runs
import CallCenter.Sha256

/-!
# Appending to a conversation log

A log is sound if its chain is valid and its events replay. Appending a draft to a sound
log extends both the chain and the replayed state by one event, so a batch, which checks
the log once and then keeps the state in step with the events, does what a sequence of
smaller batches does, each of which starts again from the log.
-/

namespace CallCenter.ConversationAppends

open Guards Replays HashChains KeyedTables ConversationEvents ConversationKernel

variable {sha256 : String → String}

/-! ## Valid logs -/

/-- One event of a valid log, after the hash at its head. -/
def eventIntact (sha256 : String → String) (conversationId : String) (index : Nat)
    (previous : Option String) (event : ConversationEvent) : Bool :=
  ConversationEventSchema event && decide (event.conversationId = conversationId)
    && decide (event.sequence = index + 1) && decide (some event.previousHash = previous)
    && decide (eventHash sha256 event = event.hash)

/-- The chain of events is intact. -/
def ChainIntact (sha256 : String → String) (conversationId : String)
    (events : List ConversationEvent) : Prop :=
  firstBroken (eventIntact sha256 conversationId) ConversationEvent.hash 0 (some GENESIS_HASH)
    events = none

theorem validateFrom_ok_iff (conversationId : String) (index : Nat) (previousHash : String)
    (eventIds : List String) (events : List ConversationEvent) (done : Unit) :
    validateFrom sha256 conversationId index previousHash eventIds events = .ok done ↔
      firstBroken (eventIntact sha256 conversationId) ConversationEvent.hash index
          (some previousHash) events = none ∧
        (events.map ConversationEvent.eventId).Nodup ∧
        ∀ event ∈ events, event.eventId ∉ eventIds := by
  induction events generalizing index previousHash eventIds with
  | nil => simp [validateFrom, firstBroken]
  | cons event rest ih =>
    rw [distinct_cons_iff]
    simp only [validateFrom, guarded_ok_iff, ih, firstBroken_cons, eventIntact, decide_eq_true_eq,
      Bool.not_eq_true', List.contains_eq_mem, decide_eq_false_iff_not, Option.some.injEq,
      Bool.and_eq_true, and_assoc]
    tauto

/-- A log is valid exactly when its chain is intact and its events have distinct
identities. -/
theorem validateConversationLog_ok_iff (log : ConversationLog) (done : Unit) :
    validateConversationLog sha256 log = .ok done ↔
      log.version = CONVERSATION_KERNEL_VERSION ∧ IdSchema log.conversationId = true ∧
        ChainIntact sha256 log.conversationId log.events ∧
        (log.events.map ConversationEvent.eventId).Nodup := by
  simp only [validateConversationLog, guarded_ok_iff, decide_eq_true_eq, validateFrom_ok_iff,
    ChainIntact, List.not_mem_nil, not_false_eq_true, implies_true, and_true]

/-- The hash at the head of the chain. -/
theorem headHash_eq_logHead (events : List ConversationEvent) :
    headHash ConversationEvent.hash (some GENESIS_HASH) events = some (logHead events) := by
  unfold headHash logHead
  cases events.getLast? with
  | none | some event => rfl

/-- The chain after one more event. -/
theorem chainIntact_snoc (conversationId : String) (events : List ConversationEvent)
    (event : ConversationEvent) :
    ChainIntact sha256 conversationId (events ++ [event]) ↔
      ChainIntact sha256 conversationId events ∧
        eventIntact sha256 conversationId events.length (some (logHead events)) event = true := by
  rw [ChainIntact, firstBroken_snoc, headHash_eq_logHead, Nat.zero_add, ChainIntact]

variable {log : ConversationLog} {conversationId : String} {state : MutableState}
  {extension : Extension} {drafts : List ConversationEventDraft} {event : ConversationEvent}

variable {draft : ConversationEventDraft}

/-- A signed event follows the log. -/
theorem signEvent_intact {events : List ConversationEvent}
    (schema : ConversationEventSchema (signEvent sha256 conversationId events draft)) :
    eventIntact sha256 conversationId events.length (some (logHead events))
      (signEvent sha256 conversationId events draft) := by
  simp only [eventIntact, schema, Bool.true_and, Bool.and_eq_true, decide_eq_true_eq]
  exact ⟨⟨⟨rfl, rfl⟩, rfl⟩, rfl⟩

/-! ## Sound logs -/

/-- The log is valid and its events replay to the state. -/
structure Sound (sha256 : String → String) (log : ConversationLog) (state : MutableState) :
    Prop where
  valid : validateConversationLog sha256 log = .ok ()
  replayed : replayEvents sha256 log.events = .ok state

theorem foldConversation_ok_iff (log : ConversationLog) (folded : ConversationState) :
    foldConversation sha256 log = .ok folded ↔
      ∃ state, Sound sha256 log state ∧ conversationState log state = folded := by
  simp only [foldConversation, bind_ok_iff, pure_ok_iff]
  constructor
  · rintro ⟨done, valid, state, replayed, same⟩
    exact ⟨state, ⟨valid, replayed⟩, same⟩
  · rintro ⟨state, sound, same⟩
    exact ⟨(), sound.valid, state, sound.replayed, same⟩

/-- An empty log is sound. -/
theorem createConversationLog_sound (created : createConversationLog conversationId = .ok log) :
    Sound sha256 log emptyMutableState := by
  simp only [createConversationLog, bind_ok_iff, require_ok_iff, pure_ok_iff] at created
  obtain ⟨-, identified, rfl⟩ := created
  refine ⟨?_, rfl⟩
  rw [validateConversationLog_ok_iff]
  exact ⟨rfl, identified, rfl, List.nodup_nil⟩

/-- What appending a draft does: it is in the log already, or becomes its last event. -/
theorem appendDraft_cases {next : Extension}
    (appended : appendDraft sha256 conversationId extension draft = .ok next) :
    ConversationEventDraftSchema draft = true ∧
      ((next = extension ∧ ∃ event ∈ extension.events, event.eventId = draft.eventId ∧
          event.draft.toValue.text = draft.toValue.text) ∨
        ((∀ event ∈ extension.events, event.eventId ≠ draft.eventId) ∧
          ConversationEventSchema (signEvent sha256 conversationId extension.events draft) = true ∧
          applyEvent sha256 extension.state
            (signEvent sha256 conversationId extension.events draft) = .ok next.state ∧
          next.events = extension.events ++
            [signEvent sha256 conversationId extension.events draft] ∧
          next.appended = true)) := by
  simp only [appendDraft, bind_ok_iff, require_ok_iff] at appended
  obtain ⟨-, schema, appended⟩ := appended
  refine ⟨schema, ?_⟩
  split at appended
  · next existing found =>
    simp only [bind_ok_iff, require_ok_iff, decide_eq_true_eq, pure_ok_iff] at appended
    obtain ⟨-, same, rfl⟩ := appended
    exact Or.inl ⟨rfl, existing, List.mem_of_find?_eq_some found,
      by simpa using List.find?_some found, same⟩
  · next missing =>
    simp only [bind_ok_iff, require_ok_iff, pure_ok_iff] at appended
    obtain ⟨-, signed, -, -, state, applied, rfl⟩ := appended
    refine Or.inr ⟨?_, signed, applied, rfl, rfl⟩
    simpa using missing

/-- The log with other events. -/
def withEvents (log : ConversationLog) (events : List ConversationEvent) : ConversationLog :=
  { log with events }

/-- Appending a draft to a sound log gives a sound log. -/
theorem appendDraft_sound {next : Extension}
    (appended : appendDraft sha256 log.conversationId extension draft = .ok next)
    (sound : Sound sha256 (withEvents log extension.events) extension.state) :
    Sound sha256 (withEvents log next.events) next.state := by
  obtain ⟨-, ⟨rfl, _⟩ | ⟨fresh, schema, applied, events, _⟩⟩ := appendDraft_cases appended
  · exact sound
  · obtain ⟨version, identified, chained, distinct⟩ :=
      (validateConversationLog_ok_iff _ _).mp sound.valid
    rw [events]
    refine ⟨(validateConversationLog_ok_iff _ _).mpr ⟨version, identified, ?_, ?_⟩, ?_⟩
    · exact (chainIntact_snoc _ _ _).mpr ⟨chained, signEvent_intact schema⟩
    · exact DistinctKeys.snoc distinct fresh
    · exact (replay_snoc_ok_iff _ _).mpr ⟨extension.state, sound.replayed, applied⟩

/-- A batch extends a sound log to a sound one; without a new event it leaves the log
alone. -/
theorem batch_sound {final : Extension}
    (extended : replay (appendDraft sha256 log.conversationId) extension drafts = .ok final)
    (sound : Sound sha256 (withEvents log extension.events) extension.state)
    (unextended : extension.appended = false → extension.events = log.events) :
    Sound sha256 (withEvents log final.events) final.state ∧
      (final.appended = false → final.events = log.events) := by
  refine replay_invariant (fun extension : Extension =>
    Sound sha256 (withEvents log extension.events) extension.state ∧
      (extension.appended = false → extension.events = log.events)) ?_ extended
    ⟨sound, unextended⟩
  intro extension draft next appended known
  refine ⟨appendDraft_sound appended known.1, ?_⟩
  obtain ⟨-, ⟨rfl, _⟩ | ⟨_, _, _, _, flagged⟩⟩ := appendDraft_cases appended
  · exact known.2
  · intro unflagged
    rw [flagged] at unflagged
    cases unflagged

/-- What a batch returns. -/
theorem appendConversationEvents_ok_iff (log next : ConversationLog)
    (drafts : List ConversationEventDraft) :
    appendConversationEvents sha256 log drafts = .ok next ↔
      ∃ state extension, Sound sha256 log state ∧
        replay (appendDraft sha256 log.conversationId) ⟨state, log.events, false⟩ drafts =
          .ok extension ∧
        next = withEvents log extension.events := by
  simp only [appendConversationEvents, bind_ok_iff, pure_ok_iff]
  have result : ∀ state extension, Sound sha256 log state →
      replay (appendDraft sha256 log.conversationId) ⟨state, log.events, false⟩ drafts =
        .ok extension →
      (if extension.appended then { log with events := extension.events } else log) =
        withEvents log extension.events := by
    intro state extension sound extended
    have known := batch_sound extended sound (fun _ => rfl)
    split
    · rfl
    · next unflagged =>
      have same := known.2 (Bool.eq_false_iff.mpr unflagged)
      rw [withEvents, same]
  constructor
  · rintro ⟨done, valid, state, replayed, extension, extended, same⟩
    have sound : Sound sha256 log state := ⟨valid, replayed⟩
    exact ⟨state, extension, sound, extended, same.symm.trans (result state extension sound extended)⟩
  · rintro ⟨state, extension, sound, extended, same⟩
    exact ⟨(), sound.valid, state, sound.replayed, extension, extended,
      (result state extension sound extended).trans same.symm⟩

/-- The flag that a batch keeps does not influence what it appends. -/
theorem appendDraft_unflagged (conversationId : String) (first second : Extension)
    (draft : ConversationEventDraft)
    (same : (first.state, first.events) = (second.state, second.events)) :
    (appendDraft sha256 conversationId first draft).map (fun next => (next.state, next.events)) =
      (appendDraft sha256 conversationId second draft).map
        fun next => (next.state, next.events) := by
  obtain ⟨state, events, flag⟩ := first
  obtain ⟨other, others, otherFlag⟩ := second
  obtain ⟨rfl, rfl⟩ := Prod.mk.inj same
  simp only [appendDraft, mapped_bind]
  -- Only what is returned in the end carries the flag.
  cases events.find? fun event => event.eventId = draft.eventId with
  | some existing => simp only [mapped_bind, mapped_pure]
  | none => simp only [mapped_bind, mapped_pure]

/-- A batch is sound where its log is. -/
theorem appendConversationEvents_sound {next : ConversationLog}
    (appended : appendConversationEvents sha256 log drafts = .ok next) :
    ∃ state, Sound sha256 next state := by
  obtain ⟨state, extension, sound, extended, rfl⟩ :=
    (appendConversationEvents_ok_iff _ _ _).mp appended
  exact ⟨extension.state, (batch_sound extended sound fun _ => rfl).1⟩

/-- A batch is the sequence of its parts. -/
theorem appendConversationEvents_append (log next : ConversationLog)
    (first second : List ConversationEventDraft) :
    appendConversationEvents sha256 log (first ++ second) = .ok next ↔
      ∃ middle, appendConversationEvents sha256 log first = .ok middle ∧
        appendConversationEvents sha256 middle second = .ok next := by
  -- The second batch restarts from the events and the state that the first one reached.
  have restart : ∀ middle : Extension,
      (replay (appendDraft sha256 log.conversationId) middle second).map
          (fun final => (final.state, final.events)) =
        (replay (appendDraft sha256 log.conversationId) ⟨middle.state, middle.events, false⟩
          second).map fun final => (final.state, final.events) := by
    intro middle
    refine replay_view (fun extension : Extension => (extension.state, extension.events))
      (appendDraft_unflagged log.conversationId) ?_ second
    rfl
  constructor
  · intro appended
    obtain ⟨state, final, sound, extended, rfl⟩ :=
      (appendConversationEvents_ok_iff _ _ _).mp appended
    obtain ⟨middle, firstExtended, secondExtended⟩ := (replay_append_ok_iff _ _).mp extended
    have known := (batch_sound firstExtended sound fun _ => rfl).1
    refine ⟨withEvents log middle.events, ?_, ?_⟩
    · exact (appendConversationEvents_ok_iff _ _ _).mpr ⟨state, middle, sound, firstExtended, rfl⟩
    · have restarted := restart middle
      rw [secondExtended] at restarted
      obtain ⟨other, otherExtended, same⟩ := FlowState.map_ok_iff.mp restarted.symm
      refine (appendConversationEvents_ok_iff _ _ _).mpr
        ⟨middle.state, other, known, otherExtended, ?_⟩
      obtain ⟨_, events⟩ := Prod.mk.inj same
      rw [← events]
      rfl
  · rintro ⟨middleLog, firstAppended, secondAppended⟩
    obtain ⟨state, middle, sound, firstExtended, rfl⟩ :=
      (appendConversationEvents_ok_iff _ _ _).mp firstAppended
    obtain ⟨middleState, other, middleSound, otherExtended, rfl⟩ :=
      (appendConversationEvents_ok_iff _ _ _).mp secondAppended
    have known := (batch_sound firstExtended sound fun _ => rfl).1
    have sameState : middleState = middle.state :=
      Except.ok.inj (middleSound.replayed.symm.trans known.replayed)
    rw [sameState] at otherExtended
    have restarted := (restart middle).trans (congrArg _ otherExtended)
    obtain ⟨final, extended, same⟩ := FlowState.map_ok_iff.mp restarted
    refine (appendConversationEvents_ok_iff _ _ _).mpr ⟨state, final, sound,
      (replay_append_ok_iff _ _).mpr ⟨middle, firstExtended, extended⟩, ?_⟩
    obtain ⟨_, events⟩ := Prod.mk.inj same
    rw [← events]
    rfl

/-! ## Logs of the append interface -/

/-- A batch that throws leaves the log as it was. -/
def appendStep (sha256 : String → String) (log : ConversationLog)
    (drafts : List ConversationEventDraft) : ConversationLog :=
  match appendConversationEvents sha256 log drafts with
  | .ok next => next
  | .error _ => log

/-- The log after a list of batches. -/
def buildLog (sha256 : String → String) : ConversationLog → List (List ConversationEventDraft) →
    ConversationLog :=
  Runs.run (appendStep sha256)

/-- Every log of the append interface is sound. -/
theorem buildLog_sound {initial : ConversationLog}
    (created : createConversationLog conversationId = .ok initial)
    (batches : List (List ConversationEventDraft)) :
    ∃ state, Sound sha256 (buildLog sha256 initial batches) state := by
  refine Runs.run_invariant (fun log => ∃ state, Sound sha256 log state)
    ⟨emptyMutableState, createConversationLog_sound created⟩ ?_ batches
  intro log drafts known
  unfold appendStep
  split
  · next appended => exact appendConversationEvents_sound appended
  · exact known

/-- The draft is in the log, up to the order of keys. -/
def Contains (log : ConversationLog) (draft : ConversationEventDraft) : Prop :=
  ConversationEventDraftSchema draft = true ∧ ∃ event ∈ log.events,
    event.eventId = draft.eventId ∧ event.draft.toValue.text = draft.toValue.text

/-- Every event of an intact chain was checked. -/
theorem eventIntact_of_mem {events : List ConversationEvent}
    (chained : ChainIntact sha256 conversationId events) (member : event ∈ events) :
    ∃ index previous, eventIntact sha256 conversationId index previous event = true := by
  induction events using List.reverseRecOn with
  | nil => cases member
  | append_singleton before last ih =>
    obtain ⟨earlier, intact⟩ := (chainIntact_snoc _ _ _).mp chained
    rcases List.mem_append.mp member with known | new
    · exact ih earlier known
    · rw [List.mem_singleton.mp new]
      exact ⟨_, _, intact⟩

section

variable (sound : Sound sha256 log state)
include sound

/-- The schema accepts every event of a sound log. -/
theorem Sound.schema (member : event ∈ log.events) : ConversationEventSchema event := by
  obtain ⟨_, _, chained, _⟩ := (validateConversationLog_ok_iff _ _).mp sound.valid
  obtain ⟨index, previous, intact⟩ := eventIntact_of_mem chained member
  simp only [eventIntact, Bool.and_eq_true] at intact
  exact intact.1.1.1.1

/-- What the log holds literally it contains. -/
theorem Sound.contains (member : event ∈ log.events) : Contains log event.draft := by
  have schema := sound.schema member
  simp only [ConversationEventSchema, Bool.and_eq_true] at schema
  exact ⟨schema.1.1.1.1.1, event, member, rfl, rfl⟩

/-- Drafts that the log contains change nothing. -/
theorem appendDraft_contained {flag : Bool} (contained : Contains log draft) :
    appendDraft sha256 log.conversationId ⟨state, log.events, flag⟩ draft =
      .ok ⟨state, log.events, flag⟩ := by
  obtain ⟨schema, event, member, named, same⟩ := contained
  obtain ⟨_, _, _, distinct⟩ := (validateConversationLog_ok_iff _ _).mp sound.valid
  have found : (log.events.find? fun other => other.eventId = draft.eventId) = some event := by
    rw [← named]
    exact DistinctKeys.lookupRow_self distinct member
  simp only [appendDraft, schema, require, if_true, found, same, decide_true]
  rfl

theorem appendConversationEvents_contained (contained : ∀ draft ∈ drafts, Contains log draft) :
    appendConversationEvents sha256 log drafts = .ok log := by
  refine (appendConversationEvents_ok_iff _ _ _).mpr
    ⟨state, ⟨state, log.events, false⟩, sound, ?_, rfl⟩
  induction drafts with
  | nil => rfl
  | cons draft rest ih =>
    refine (replay_cons_ok_iff _ _).mpr ⟨_, appendDraft_contained sound
      (contained draft List.mem_cons_self), ih ?_⟩
    intro other member
    exact contained other (List.mem_cons_of_mem _ member)

end

/-- For every log of the append interface: a batch returns a log exactly when its parts,
appended one after the other, return that log; drafts that the log already contains leave
it as it is; whatever is returned is valid and folds; and a batch that throws leaves no
event behind. -/
theorem batches_append_sequentially (conversationId : String) (initial : ConversationLog)
    (created : createConversationLog conversationId = .ok initial)
    (batches : List (List ConversationEventDraft)) :
    (∀ first second next,
        appendConversationEvents sha256 (buildLog sha256 initial batches) (first ++ second) =
            .ok next ↔
          ∃ middle,
            appendConversationEvents sha256 (buildLog sha256 initial batches) first = .ok middle ∧
              appendConversationEvents sha256 middle second = .ok next) ∧
      (∀ drafts, (∀ draft ∈ drafts, Contains (buildLog sha256 initial batches) draft) →
        appendConversationEvents sha256 (buildLog sha256 initial batches) drafts =
          .ok (buildLog sha256 initial batches)) ∧
      (∀ event ∈ (buildLog sha256 initial batches).events,
        Contains (buildLog sha256 initial batches) event.draft) ∧
      (validateConversationLog sha256 (buildLog sha256 initial batches) = .ok () ∧
        ∃ state, foldConversation sha256 (buildLog sha256 initial batches) = .ok state) ∧
      (∀ drafts next,
        appendConversationEvents sha256 (buildLog sha256 initial batches) drafts = .ok next →
          validateConversationLog sha256 next = .ok () ∧
            ∃ state, foldConversation sha256 next = .ok state) ∧
      ∀ drafts message, appendConversationEvents sha256 (buildLog sha256 initial batches) drafts =
            .error message →
          buildLog sha256 initial (batches ++ [drafts]) = buildLog sha256 initial batches := by
  have folds : ∀ {log : ConversationLog} {state : MutableState}, Sound sha256 log state →
      ∃ folded, foldConversation sha256 log = .ok folded := fun {log state} sound =>
    ⟨conversationState log state, (foldConversation_ok_iff _ _).mpr ⟨state, sound, rfl⟩⟩
  obtain ⟨state, sound⟩ : ∃ state, Sound sha256 (buildLog sha256 initial batches) state :=
    buildLog_sound created batches
  refine ⟨?_, ?_, ?_, ⟨sound.valid, folds sound⟩, ?_, ?_⟩
  · intro first second next
    exact appendConversationEvents_append _ next first second
  · intro drafts contained
    exact appendConversationEvents_contained sound contained
  · intro event member
    exact sound.contains member
  · intro drafts next appended
    obtain ⟨nextState, nextSound⟩ := appendConversationEvents_sound appended
    exact ⟨nextSound.valid, folds nextSound⟩
  · intro drafts message failed
    rw [buildLog, Runs.run_snoc, ← buildLog, appendStep, failed]

/-- A goal is activated. -/
def openingDraft : ConversationEventDraft := ⟨"event-1", 0, .goalActivated "g" "Help"⟩

def openedCall : ConversationLog := ⟨1, "call-1", []⟩

/-- The opening draft is appended once; repeating it changes nothing. -/
theorem opening_draft_repeats : createConversationLog "call-1" = .ok openedCall ∧
      (buildLog Sha256.digest openedCall [[openingDraft]]).events.map ConversationEvent.eventId =
        ["event-1"] ∧
      validateConversationLog Sha256.digest (buildLog Sha256.digest openedCall [[openingDraft]]) =
        .ok () ∧
      appendConversationEvents Sha256.digest (buildLog Sha256.digest openedCall [[openingDraft]])
        [openingDraft] = .ok (buildLog Sha256.digest openedCall [[openingDraft]]) := by
  have created : createConversationLog "call-1" = .ok openedCall := by rfl
  have recorded : (buildLog Sha256.digest openedCall [[openingDraft]]).events.map
      (fun event => (event.eventId, event.draft.toValue.text)) =
        [("event-1", openingDraft.toValue.text)] := by
    decide +kernel
  obtain ⟨_, repeats, _, ⟨valid, _⟩, _⟩ :=
    batches_append_sequentially "call-1" openedCall created [[openingDraft]]
  refine ⟨created, ?_, valid, repeats [openingDraft] ?_⟩
  · have names := congrArg (List.map Prod.fst) recorded
    rw [List.map_map] at names
    exact names
  · intro draft member
    rw [List.mem_singleton.mp member]
    obtain ⟨event, known, same⟩ := List.mem_map.mp (recorded ▸ List.mem_singleton_self _)
    obtain ⟨named, text⟩ := Prod.mk.inj same
    exact ⟨by decide, event, known, named, text⟩

end CallCenter.ConversationAppends
