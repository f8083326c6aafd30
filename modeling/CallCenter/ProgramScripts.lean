import CallCenter.ProgramLogs
import CallCenter.MissionIntegrity
import Mathlib.Data.List.Perm.Subperm
import Mathlib.Tactic.NormNum

/-!
# Scripted programs

A list of payloads becomes a log by numbering the events and signing one after another.
The log is sound if the payloads pass their schema and replay, whatever hexadecimal digest
the events are signed with; no digest has to be computed to show it.
-/

namespace CallCenter.ProgramScripts

open Replays ProgramEvents ProgramReducer ProgramLogs
open FlowState (isHexDigest)
open JsonText (toString_injective)

/-! ## Numbered identities -/

/-- A number of at most 128 digits is an identity. -/
theorem IdSchema_toString {number : Nat} (small : number < 10 ^ 128) :
    IdSchema (toString number) := by
  have digits : ∀ digit ∈ Nat.toDigits 10 number, digit.isDigit = true := by
    intro digit member
    exact Nat.isDigit_of_mem_toDigits (by decide) (by decide) member
  have length : (Nat.toDigits 10 number).length ≤ 128 :=
    (Nat.length_toDigits_le_iff (by decide) (by decide)).mpr small
  unfold IdSchema MissionSchema.matchesShape
  rw [Nat.toString_eq_repr, Nat.toList_repr]
  cases shape : Nat.toDigits 10 number with
  | nil => exact absurd shape Nat.toDigits_ne_nil
  | cons first =>
    rw [shape] at digits length
    rw [List.length_cons] at length
    simp only [Bool.and_eq_true, List.all_eq_true, decide_eq_true_eq]
    refine ⟨⟨?_, ?_⟩, by omega, by omega⟩
    · simp [digits first List.mem_cons_self]
    · intro other member
      simp [digits other (List.mem_cons_of_mem _ member)]

/-- Among the numbers up to the length of a list one is not in the list. -/
theorem exists_unused_number (used : List String) :
    ∃ number ≤ used.length, toString number ∉ used := by
  by_contra exhausted
  push Not at exhausted
  have numbered : (List.range (used.length + 1)).map (fun number => toString number) ⊆ used := by
    intro text member
    obtain ⟨number, inside, rfl⟩ := List.mem_map.mp member
    exact exhausted number (by have := List.mem_range.mp inside; omega)
  have distinct : ((List.range (used.length + 1)).map fun number => toString number).Nodup := by
    refine List.Nodup.map ?_ List.nodup_range
    intro first second same
    exact toString_injective same
  have fits := (distinct.subperm numbered).length_le
  simp at fits

/-! ## Scripts -/

section Scripts
variable (sha256 : String → String) (programId : String)

/-- The draft of a payload at its position. -/
def scriptDraft (index : Nat) (payload : ConversationProgramEventPayload) :
    ConversationProgramEventDraft where
  eventId := toString index
  expectedRevision := index
  occurredAt := "2026-01-01T00:00:00Z"
  payload := payload

/-- The events of a list of payloads. -/
def scriptEvents (payloads : List ConversationProgramEventPayload) :
    List ConversationProgramEvent :=
  payloads.foldl (fun events payload =>
    events ++ [newEvent sha256 programId events (scriptDraft events.length payload)]) []

def scriptLog (payloads : List ConversationProgramEventPayload) : ConversationProgramLog :=
  ⟨CONVERSATION_PROGRAM_VERSION, programId, scriptEvents sha256 programId payloads⟩

/-- A payload applied to a state at its position. -/
def applyNumbered (numbered : MutableProjection × Nat) (payload : ConversationProgramEventPayload) :
    Except String (MutableProjection × Nat) :=
  (applyPayload numbered.1 (numbered.2 + 1) numbered.2 payload.normalized).map
    fun next => (next, numbered.2 + 1)

/-- The state that a list of payloads leads to. -/
def scriptState (payloads : List ConversationProgramEventPayload) :
    Except String (MutableProjection × Nat) :=
  replay applyNumbered (emptyProjection, 0) payloads

theorem scriptEvents_snoc (payloads : List ConversationProgramEventPayload)
    (payload : ConversationProgramEventPayload) :
    scriptEvents sha256 programId (payloads ++ [payload]) =
      scriptEvents sha256 programId payloads ++
        [newEvent sha256 programId (scriptEvents sha256 programId payloads)
          (scriptDraft (scriptEvents sha256 programId payloads).length payload)] := by
  rw [scriptEvents, List.foldl_append]
  rfl

theorem scriptEvents_length (payloads : List ConversationProgramEventPayload) :
    (scriptEvents sha256 programId payloads).length = payloads.length := by
  induction payloads using List.reverseRecOn with
  | nil => rfl
  | append_singleton payloads last ih =>
    rw [scriptEvents_snoc, List.length_append, ih, List.length_append]
    rfl

/-- A longer script extends a shorter one. -/
theorem scriptEvents_append (payloads later : List ConversationProgramEventPayload) :
    ∃ added, scriptEvents sha256 programId (payloads ++ later) =
        scriptEvents sha256 programId payloads ++ added ∧
      added.map ConversationProgramEvent.payload =
        later.map ConversationProgramEventPayload.normalized := by
  induction later using List.reverseRecOn with
  | nil => exact ⟨[], by simp, rfl⟩
  | append_singleton later last ih =>
    obtain ⟨added, split, payloadsSame⟩ := ih
    rw [← List.append_assoc, scriptEvents_snoc, split, List.append_assoc]
    refine ⟨_, rfl, ?_⟩
    rw [List.map_append, payloadsSame, List.map_append]
    rfl

/-- The events of a script carry its payloads. -/
theorem scriptEvents_payloads (payloads : List ConversationProgramEventPayload) :
    (scriptEvents sha256 programId payloads).map ConversationProgramEvent.payload =
      payloads.map ConversationProgramEventPayload.normalized := by
  obtain ⟨added, split, same⟩ := scriptEvents_append sha256 programId [] payloads
  have whole : scriptEvents sha256 programId payloads = added := split
  rw [whole]
  exact same

end Scripts

variable {sha256 : String → String} {programId : String}

variable {events : List ConversationProgramEvent}

/-- The head of a log that is signed with hexadecimal digests. -/
theorem logHead_hexadecimal (hexadecimal : ∀ event ∈ events, isHexDigest event.eventSha256 = true) :
    isHexDigest (logHead events) := by
  unfold logHead
  cases last : events.getLast? with
  | none => decide
  | some event => exact hexadecimal event (List.mem_of_getLast? last)

/-- A signed event passes the schema if its draft does. -/
theorem newEvent_schema {draft : ConversationProgramEventDraft}
    (hexadecimal : ∀ text, isHexDigest (sha256 text) = true) (identified : IdSchema programId)
    (head : isHexDigest (logHead events)) (bounded : events.length < MAX_SAFE_INTEGER)
    (schema : ConversationProgramEventDraftSchema draft.normalized) :
    ConversationProgramEventSchema (newEvent sha256 programId events draft) := by
  have positive : PositiveRevisionSchema (events.length + 1) := by
    simp only [PositiveRevisionSchema, RevisionSchema, Bool.and_eq_true, decide_eq_true_eq]
    omega
  have parts : (ConversationProgramEventDraftSchema draft.normalized
      && decide (CONVERSATION_PROGRAM_VERSION = CONVERSATION_PROGRAM_VERSION) && IdSchema programId
      && PositiveRevisionSchema (events.length + 1) && isHexDigest (logHead events)
      && isHexDigest (newEvent sha256 programId events draft).eventSha256) = true := by
    have digest : isHexDigest (newEvent sha256 programId events draft).eventSha256 :=
      hexadecimal _
    rw [schema, identified, positive, head, digest]
    rfl
  exact parts

/-- A draft named by a number is well formed where its payload is. -/
theorem numberedDraft_schema {number revision : Nat} {payload : ConversationProgramEventPayload}
    (numbered : number ≤ revision) (bounded : revision < MAX_SAFE_INTEGER)
    (schema : ConversationProgramEventPayloadSchema payload.normalized) :
    ConversationProgramEventDraftSchema (ConversationProgramEventDraft.normalized
      ⟨toString number, revision, "2026-01-01T00:00:00Z", payload⟩) := by
  have identity : IdSchema (toString number) := by
    apply IdSchema_toString
    refine Nat.lt_of_le_of_lt numbered (Nat.lt_trans bounded ?_)
    decide
  have revised : RevisionSchema revision := decide_eq_true (Nat.le_of_lt bounded)
  have timestamp : TimestampSchema "2026-01-01T00:00:00Z" := by decide
  have parts : (IdSchema (toString number) && RevisionSchema revision
      && TimestampSchema "2026-01-01T00:00:00Z"
      && ConversationProgramEventPayloadSchema payload.normalized) = true := by
    rw [identity, revised, timestamp, schema]
    rfl
  exact parts

/-- What a script is: numbered, hexadecimal and replayed by its payloads. -/
structure Scripted (sha256 : String → String) (log : ConversationProgramLog)
    (state : MutableProjection) : Prop where
  sound : Sound sha256 log state
  numbered : ∀ event ∈ log.events, ∃ index < log.events.length, event.eventId = toString index
  hexadecimal : ∀ event ∈ log.events, isHexDigest event.eventSha256 = true

/-- A script whose payloads pass their schema and replay is a sound log. -/
theorem scriptLog_scripted (payloads : List ConversationProgramEventPayload)
    {state : MutableProjection} {count : Nat}
    (hexadecimal : ∀ text, isHexDigest (sha256 text) = true) (identified : IdSchema programId)
    (bounded : payloads.length ≤ MAX_SAFE_INTEGER) (schemas : ∀ payload ∈ payloads,
      ConversationProgramEventPayloadSchema payload.normalized = true)
    (replayed : scriptState payloads = .ok (state, count)) :
    Scripted sha256 (scriptLog sha256 programId payloads) state ∧ count = payloads.length := by
  induction payloads using List.reverseRecOn generalizing state count with
  | nil =>
    cases replayed
    refine ⟨⟨⟨rfl, identified, rfl, List.nodup_nil, rfl⟩, ?_, ?_⟩, rfl⟩
    · intro event member
      cases member
    · intro event member
      cases member
  | append_singleton payloads last ih =>
    obtain ⟨⟨before, position⟩, earlier, applied⟩ := (replay_snoc_ok_iff _ _).mp replayed
    obtain ⟨next, appliedLast, same⟩ := FlowState.map_ok_iff.mp applied
    obtain ⟨rfl, rfl⟩ := Prod.mk.inj same
    rw [List.length_append, List.length_singleton] at bounded
    obtain ⟨scripted, rfl⟩ := ih (by omega)
      (fun payload member => schemas payload (List.mem_append_left _ member)) earlier
    have length := scriptEvents_length sha256 programId payloads
    have draftSchema : ConversationProgramEventDraftSchema
        (scriptDraft payloads.length last).normalized = true :=
      numberedDraft_schema le_rfl (by omega) (schemas last (by simp))
    have schema := newEvent_schema hexadecimal identified
      (logHead_hexadecimal scripted.hexadecimal) (by rw [scriptLog, length]; omega) draftSchema
    have extended : (scriptLog sha256 programId (payloads ++ [last])) =
        withEvents (scriptLog sha256 programId payloads)
          ((scriptLog sha256 programId payloads).events ++
            [newEvent sha256 programId (scriptLog sha256 programId payloads).events
              (scriptDraft payloads.length last)]) := by
      rw [scriptLog, scriptEvents_snoc, length]
      rfl
    refine ⟨?_, by simp⟩
    rw [extended]
    refine ⟨(sound_snoc_iff _ _ _).mpr ⟨before, scripted.sound, newEvent_intact schema, ?_, ?_⟩,
      ?_, ?_⟩
    · intro event member same
      obtain ⟨index, inside, named⟩ := scripted.numbered event member
      have collision : toString index = toString payloads.length := named.symm.trans same
      have equal : index = payloads.length := toString_injective collision
      rw [scriptLog, length] at inside
      omega
    · refine (ProgramTransitions.applyEvent_ok_iff _).mpr ⟨?_, ?_⟩
      · rw [scriptLog]
        exact congrArg (· + 1) length.symm
      · have sequence : (newEvent sha256 programId (scriptLog sha256 programId payloads).events
            (scriptDraft payloads.length last)).sequence = payloads.length + 1 :=
          congrArg (· + 1) length
        rw [sequence]
        exact appliedLast
    · intro event member
      rcases List.mem_append.mp member with known | new
      · obtain ⟨index, inside, named⟩ := scripted.numbered event known
        refine ⟨index, ?_, named⟩
        simp only [withEvents, List.length_append]
        omega
      · refine ⟨payloads.length, ?_, ?_⟩
        · simp [withEvents, scriptLog, length]
        · rw [List.mem_singleton.mp new]
          rfl
    · intro event member
      rcases List.mem_append.mp member with known | new
      · exact scripted.hexadecimal event known
      · rw [List.mem_singleton.mp new]
        exact hexadecimal _

/-- A script under the digest that the code uses, with what a view shows of its state. -/
theorem script_sound {β : Type} (view : MutableProjection → β)
    (payloads : List ConversationProgramEventPayload) {shown : β}
    (identified : IdSchema programId) (schemas : ∀ payload ∈ payloads,
      ConversationProgramEventPayloadSchema payload.normalized = true)
    (viewed : (scriptState payloads).map (fun numbered => view numbered.1) = .ok shown)
    (bounded : payloads.length ≤ MAX_SAFE_INTEGER) :
    ∃ state, Sound Sha256.digest (scriptLog Sha256.digest programId payloads) state ∧
      view state = shown := by
  obtain ⟨⟨state, count⟩, replayed, rfl⟩ := FlowState.map_ok_iff.mp viewed
  exact ⟨state, (scriptLog_scripted payloads MissionIntegrity.digest_hexadecimal identified bounded
    schemas replayed).1.sound, rfl⟩

end CallCenter.ProgramScripts
