import CallCenter.ConversationAppends
import CallCenter.ConversationTransitions

/-!
# Results of workers

A worker's result is applied at most once, and only if nothing that the worker was started
on has changed since: neither its goal, nor the policy, nor the revision of a fact it
depends on. Revisions and epochs only grow, so equal values at both ends of a stretch of the
log leave no room for a change in between.
-/

namespace CallCenter.ConversationDeliveries

open ObjectFields Replays KeyedTables ConversationEvents ConversationKernel ConversationAppends
  ConversationTransitions

variable {sha256 : String → String}

/-! ## What a step does to facts and policies -/

section Steps
variable {state next : MutableState} {sequence : Nat} {eventId : String}
  {payload : ConversationEventPayload}

/-- The payload writes the fact. -/
def writesFact (key : String) : ConversationEventPayload → Bool
  | .factAsserted written _ _ _ => decide (written = key)
  | .factCorrected written _ _ _ _ => decide (written = key)
  | _ => false

def correctsFact (key : String) : ConversationEventPayload → Bool
  | .factCorrected written _ _ _ _ => decide (written = key)
  | _ => false

def advancesPolicy : ConversationEventPayload → Bool
  | .policyAdvanced _ _ => true
  | _ => false

/-- The revision of a fact; zero before it is asserted. -/
def revisionOf (facts : List (String × AuthoritativeFact)) (key : String) : Nat :=
  ((facts.lookup key).map AuthoritativeFact.revision).getD 0

theorem revisionOf_current {facts : List (String × AuthoritativeFact)}
    {dependency : FactDependency} (current : isCurrent facts dependency) :
    revisionOf facts dependency.key = dependency.revision := by
  rw [isCurrent, decide_eq_true_eq] at current
  rw [revisionOf, current, Option.getD_some]

/-- Writing the next revision of a fact raises that fact alone. -/
theorem revisionOf_setField (facts : List (String × AuthoritativeFact)) (fact : AuthoritativeFact)
    (written key : String) (contiguous : fact.revision = revisionOf facts written + 1) :
    revisionOf (setField facts written fact) key =
      revisionOf facts key + if decide (written = key) then 1 else 0 := by
  by_cases same : written = key
  · subst same
    simp [revisionOf, contiguous]
  · have other : revisionOf (setField facts written fact) key = revisionOf facts key := by
      rw [revisionOf, lookup_setField_ne _ _ _ _ (Ne.symm same), revisionOf]
    simp [other, same]

section

variable (applies : EventApplies sha256 state sequence eventId payload next)
include applies

theorem revision_counts (key : String) : revisionOf next.facts key =
      revisionOf state.facts key + if writesFact key payload then 1 else 0 := by
  cases applies with
  | factAsserted written value revision authority fresh =>
    refine revisionOf_setField _ _ _ _ ?_
    rw [revisionOf, fresh]
    rfl
  | factCorrected written value expectedRevision revision authority prior found expected later =>
    refine revisionOf_setField _ _ _ _ ?_
    rw [revisionOf, found, later]
    rfl
  | _ => rfl

theorem epoch_counts :
    next.policy.epoch = state.policy.epoch + if advancesPolicy payload then 1 else 0 := by
  cases applies with
  | policyAdvanced epoch invariants contiguous => exact contiguous
  | _ => rfl

/-- Events about workers leave the current goal alone. -/
theorem goal_kept (working : (∃ spawn, payload = .workerSpawned spawn) ∨
      ∃ result, payload = .workerResultDelivered result) :
    next.currentGoalId = state.currentGoalId := by
  cases applies with
  | workerSpawned | resultDuplicated | resultAccepted | resultRejected | resultUnapplied => rfl
  | _ => simp at working

end

/-! ## What a step does to workers and deliveries -/

/-- What a worker was started on. -/
def contractOf (worker : WorkerRecord) : String × Nat × List FactDependency :=
  (worker.goalId, worker.policyEpoch, worker.dependencies)

/-- What later events leave of a worker: its contract, and all of it once it has ended. -/
def Continues (worker later : WorkerRecord) : Prop :=
  contractOf later = contractOf worker ∧ (worker.status ≠ .running → later = worker)

theorem Continues.refl (worker : WorkerRecord) : Continues worker worker :=
  ⟨rfl, fun _ => rfl⟩

variable {workerId : String}

/-- Ending a running worker continues every worker. -/
theorem end_continues {workers : List (String × WorkerRecord)} {endedId : String}
    {ended worker : WorkerRecord} (found : workers.lookup endedId = some ended)
    (running : ended.status = .running) (known : workers.lookup workerId = some worker)
    (status : WorkerStatus) :
    ∃ later, (setField workers endedId { ended with status }).lookup workerId = some later ∧
      Continues worker later := by
  by_cases same : workerId = endedId
  · subst same
    cases found.symm.trans known
    refine ⟨_, lookup_setField_self _ _ _, rfl, ?_⟩
    intro stopped
    exact absurd running stopped
  · exact ⟨worker, (lookup_setField_ne _ _ _ _ same).trans known, Continues.refl worker⟩

section

variable (applies : EventApplies sha256 state sequence eventId payload next)
include applies

theorem worker_continues {worker : WorkerRecord}
    (known : state.workers.lookup workerId = some worker) :
    ∃ later, next.workers.lookup workerId = some later ∧ Continues worker later := by
  cases applies with
  | workerSpawned spawn fresh =>
    have other : workerId ≠ spawn.workerId := by
      rintro rfl
      rw [fresh] at known
      cases known
    exact ⟨worker, (lookup_setField_ne _ _ _ _ other).trans known, Continues.refl worker⟩
  | workerCancelled endedId reason ended found running => exact end_continues found running known _
  | workerFinished endedId status reasonCode evidence ended found running =>
    exact end_continues found running known _
  | resultAccepted result ended undecided found acceptable =>
    exact end_continues found acceptable.running known _
  | resultRejected result reason ended undecided found running =>
    exact end_continues found running known _
  | _ => exact ⟨worker, known, Continues.refl worker⟩

/-- Only a spawn adds a worker. -/
theorem worker_appears {later : WorkerRecord} (known : next.workers.lookup workerId = some later) :
    (∃ worker, state.workers.lookup workerId = some worker) ∨
      ∃ spawn, payload = .workerSpawned spawn ∧ spawn.workerId = workerId := by
  have kept : ∀ {endedId : String} {ended changed : WorkerRecord},
      state.workers.lookup endedId = some ended →
      (setField state.workers endedId changed).lookup workerId = some later →
      ∃ worker, state.workers.lookup workerId = some worker := by
    intro endedId ended changed found after
    by_cases same : workerId = endedId
    · exact ⟨ended, same ▸ found⟩
    · exact ⟨later, (lookup_setField_ne _ _ _ _ same).symm.trans after⟩
  cases applies with
  | workerSpawned spawn =>
    by_cases same : workerId = spawn.workerId
    · exact Or.inr ⟨spawn, rfl, same.symm⟩
    · exact Or.inl ⟨later, (lookup_setField_ne _ _ _ _ same).symm.trans known⟩
  | workerCancelled endedId reason ended found => exact Or.inl (kept found known)
  | workerFinished endedId status reasonCode evidence ended found =>
    exact Or.inl (kept found known)
  | resultAccepted result ended undecided found acceptable
  | resultRejected result reason ended undecided found => exact Or.inl (kept found known)
  | _ => exact Or.inl ⟨later, known⟩

/-- A decision other than to defer is final. -/
theorem decision_final {deliveryId : String} {decision : LogicalDelivery}
    (known : state.logicalDeliveries.lookup deliveryId = some decision)
    (decided : decision.status ≠ .deferred) :
    next.logicalDeliveries.lookup deliveryId = some decision := by
  have kept : ∀ (result : WorkerResult) (other : LogicalDelivery), Undecided state result →
      (setField state.logicalDeliveries result.deliveryId other).lookup deliveryId =
        some decision := by
    intro result other undecided
    have apart : deliveryId ≠ result.deliveryId := by
      rintro rfl
      exact decided (undecided decision known)
    exact (lookup_setField_ne _ _ _ _ apart).trans known
  cases applies with
  | resultAccepted result worker undecided found acceptable
  | resultRejected result reason worker undecided found running
  | resultUnapplied result decision undecided => exact kept result _ undecided
  | _ => exact known

end

/-- The records of accepted deliveries. -/
def acceptedDeliveries (deliveries : List WorkerDeliveryRecord) : List WorkerDeliveryRecord :=
  deliveries.filter fun record => decide (record.status = .accepted)

theorem acceptedDeliveries_snoc (deliveries : List WorkerDeliveryRecord)
    (record : WorkerDeliveryRecord) :
    acceptedDeliveries (deliveries ++ [record]) =
      acceptedDeliveries deliveries ++ if record.status = .accepted then [record] else [] := by
  rw [acceptedDeliveries, List.filter_append, ← acceptedDeliveries]
  by_cases accepted : record.status = .accepted
  · simp [accepted]
  · simp [accepted]

/-- The step accepts this result. -/
structure Accepts (sha256 : String → String) (state : MutableState) (sequence : Nat)
    (eventId : String) (result : WorkerResult) (worker : WorkerRecord) (next : MutableState) :
    Prop where
  undecided : Undecided state result
  found : state.workers.lookup result.workerId = some worker
  acceptable : Acceptable state worker result
  workers : next.workers =
    setField state.workers result.workerId { worker with status := .completed }
  logicalDeliveries : next.logicalDeliveries = setField state.logicalDeliveries result.deliveryId
    ⟨logicalHashOf sha256 result, .accepted⟩
  deliveries : acceptedDeliveries next.deliveries = acceptedDeliveries state.deliveries ++
    [deliveryRecord sequence eventId result (logicalHashOf sha256 result) (.accepted, none)]
  facts : next.acceptedWorkerFacts =
    state.acceptedWorkerFacts ++ result.facts.map (acceptFact sequence result)

/-- A step accepts a result, or leaves what was accepted as it is. -/
theorem accepts_or_keeps (applies : EventApplies sha256 state sequence eventId payload next) :
    (acceptedDeliveries next.deliveries = acceptedDeliveries state.deliveries ∧
        next.acceptedWorkerFacts = state.acceptedWorkerFacts) ∨
      ∃ result worker, payload = .workerResultDelivered result ∧
        Accepts sha256 state sequence eventId result worker next := by
  cases applies with
  | resultAccepted result worker undecided found acceptable =>
    refine Or.inr ⟨result, worker, rfl, undecided, found, acceptable, rfl, rfl, ?_, rfl⟩
    exact (acceptedDeliveries_snoc _ _).trans (by simp [deliveryRecord])
  | resultDuplicated result prior found decided
  | resultRejected =>
    refine Or.inl ⟨(acceptedDeliveries_snoc _ _).trans ?_, rfl⟩
    simp [deliveryRecord]
  | resultUnapplied result decision undecided unapplied =>
    refine Or.inl ⟨(acceptedDeliveries_snoc _ _).trans ?_, rfl⟩
    have unaccepted : decision.1 ≠ .accepted := by
      rcases unapplied with status | status <;> simp [status]
    simp [deliveryRecord, unaccepted]
  | _ => exact Or.inl ⟨rfl, rfl⟩

end Steps

/-! ## Applied at most once -/

/-- Accepted deliveries have distinct identities and workers; their decision is final and
their worker has ended. -/
structure AppliedOnce (state : MutableState) : Prop where
  decided : ∀ record ∈ acceptedDeliveries state.deliveries, ∃ decision,
    state.logicalDeliveries.lookup record.deliveryId = some decision ∧ decision.status = .accepted
  ended : ∀ record ∈ acceptedDeliveries state.deliveries, ∃ worker,
    state.workers.lookup record.workerId = some worker ∧ worker.status ≠ .running
  deliveries : ((acceptedDeliveries state.deliveries).map WorkerDeliveryRecord.deliveryId).Nodup
  workers : ((acceptedDeliveries state.deliveries).map WorkerDeliveryRecord.workerId).Nodup

variable {event : ConversationEvent} {events before : List ConversationEvent}
  {result : WorkerResult} {final : MutableState} {log : ConversationLog} {spawn : WorkerSpawn}

variable {state next : MutableState}

theorem appliedOnce_step (applied : applyEvent sha256 state event = .ok next)
    (known : AppliedOnce state) :
    AppliedOnce next := by
  have applies := applyEvent_applies applied
  have decidedStill : ∀ record ∈ acceptedDeliveries state.deliveries, ∃ decision,
      next.logicalDeliveries.lookup record.deliveryId = some decision ∧
        decision.status = .accepted := by
    intro record member
    obtain ⟨decision, found, accepted⟩ := known.decided record member
    exact ⟨decision, decision_final applies found (by simp [accepted]), accepted⟩
  have endedStill : ∀ record ∈ acceptedDeliveries state.deliveries, ∃ worker,
      next.workers.lookup record.workerId = some worker ∧ worker.status ≠ .running := by
    intro record member
    obtain ⟨worker, found, ended⟩ := known.ended record member
    obtain ⟨later, foundLater, continues⟩ := worker_continues applies found
    cases continues.2 ended
    exact ⟨worker, foundLater, ended⟩
  obtain ⟨same, _⟩ | ⟨result, worker, payload, accepts⟩ := accepts_or_keeps applies
  · rw [← same] at decidedStill endedStill
    exact ⟨decidedStill, endedStill, same ▸ known.deliveries, same ▸ known.workers⟩
  · -- The delivery was undecided and its worker running, unlike those accepted before.
    constructor
    · intro record member
      rw [accepts.deliveries] at member
      rcases List.mem_append.mp member with earlier | last
      · exact decidedStill record earlier
      · rw [List.mem_singleton.mp last, accepts.logicalDeliveries]
        exact ⟨_, lookup_setField_self _ _ _, rfl⟩
    · intro record member
      rw [accepts.deliveries] at member
      rcases List.mem_append.mp member with earlier | last
      · exact endedStill record earlier
      · rw [List.mem_singleton.mp last, accepts.workers]
        exact ⟨_, lookup_setField_self _ _ _, by simp⟩
    · rw [accepts.deliveries]
      refine DistinctKeys.snoc known.deliveries ?_
      intro record member same
      obtain ⟨decision, found, accepted⟩ := known.decided record member
      have named : record.deliveryId = result.deliveryId := same
      rw [named] at found
      have deferred := accepts.undecided decision found
      rw [accepted] at deferred
      cases deferred
    · rw [accepts.deliveries]
      refine DistinctKeys.snoc known.workers ?_
      intro record member same
      obtain ⟨ended, found, stopped⟩ := known.ended record member
      have named : record.workerId = result.workerId := same
      rw [named] at found
      cases found.symm.trans accepts.found
      exact stopped accepts.acceptable.running

theorem appliedOnce_replay (replayed : replayEvents sha256 events = .ok state) :
    AppliedOnce state := by
  refine replay_invariant AppliedOnce (fun _ _ _ => appliedOnce_step) replayed ?_
  constructor <;> simp [acceptedDeliveries, emptyMutableState]

/-! ## The facts that were applied -/

/-- The facts of the delivery that a record is about: each as the worker sent it, with the
worker, goal, epoch and dependencies of the result and the place of the event. -/
def deliveredFacts (events : List ConversationEvent) (record : WorkerDeliveryRecord) :
    List AcceptedWorkerFact :=
  match events.find? fun event => event.eventId = record.eventId with
  | some event =>
    match event.payload with
    | .workerResultDelivered result => result.facts.map fun fact =>
      { key := fact.key
        value := fact.value
        evidenceId := fact.evidenceId
        workerId := result.workerId
        deliveryId := result.deliveryId
        goalId := result.goalId
        policyEpoch := result.policyEpoch
        dependencyFactRevisions := result.dependencyFactRevisions
        acceptedSequence := event.sequence }
    | _ => []
  | none => []

/-- A record is about the delivery that the log holds under its event. -/
structure RecordedAt (events : List ConversationEvent) (record : WorkerDeliveryRecord)
    (event : ConversationEvent) (result : WorkerResult) : Prop where
  member : event ∈ events
  payload : event.payload = .workerResultDelivered result
  eventId : record.eventId = event.eventId
  deliveryId : record.deliveryId = result.deliveryId
  workerId : record.workerId = result.workerId
  applied : record.appliedSequence = some event.sequence

/-- The replay accepted the result at this event. -/
def AcceptedAt (sha256 : String → String) (events : List ConversationEvent)
    (event : ConversationEvent) (result : WorkerResult) : Prop :=
  ∃ before after state next worker, events = before ++ event :: after ∧
    replayEvents sha256 before = .ok state ∧ applyEvent sha256 state event = .ok next ∧
    Accepts sha256 state event.sequence event.eventId result worker next

theorem AcceptedAt.snoc (accepted : AcceptedAt sha256 events event result)
    (last : ConversationEvent) : AcceptedAt sha256 (events ++ [last]) event result := by
  obtain ⟨before, after, state, next, worker, rfl, replayed, applied, accepts⟩ := accepted
  exact ⟨before, after ++ [last], state, next, worker, by simp, replayed, applied, accepts⟩

/-- Every accepted record comes from a delivery that was accepted. -/
theorem accepted_origin (replayed : replayEvents sha256 events = .ok state) :
    ∀ record ∈ acceptedDeliveries state.deliveries, ∃ event result,
      RecordedAt events record event result ∧ AcceptedAt sha256 events event result := by
  refine replay_history (fun events state => ∀ record ∈ acceptedDeliveries state.deliveries,
    ∃ event result, RecordedAt events record event result ∧
      AcceptedAt sha256 events event result) ?_ ?_ replayed
  · simp [acceptedDeliveries, emptyMutableState]
  · intro before last middle next first applied known record member
    have earlier : record ∈ acceptedDeliveries middle.deliveries → ∃ event result,
        RecordedAt (before ++ [last]) record event result ∧
          AcceptedAt sha256 (before ++ [last]) event result := by
      intro recorded
      obtain ⟨event, result, origin, accepted⟩ := known record recorded
      exact ⟨event, result, { origin with member := List.mem_append_left _ origin.member },
        accepted.snoc last⟩
    obtain ⟨same, _⟩ | ⟨result, worker, payload, accepts⟩ :=
      accepts_or_keeps (applyEvent_applies applied)
    · exact earlier (same ▸ member)
    · rw [accepts.deliveries] at member
      rcases List.mem_append.mp member with recorded | new
      · exact earlier recorded
      · rw [List.mem_singleton.mp new]
        exact ⟨last, result, ⟨by simp, payload, rfl, rfl, rfl, rfl⟩,
          before, [], middle, next, worker, rfl, first, applied, accepts⟩

theorem RecordedAt.delivered
    (distinct : (events.map ConversationEvent.eventId).Nodup) {record : WorkerDeliveryRecord}
    (recorded : RecordedAt events record event result) :
    deliveredFacts events record = result.facts.map (acceptFact event.sequence result) := by
  have found : (events.find? fun other => other.eventId = event.eventId) = some event :=
    DistinctKeys.lookupRow_self distinct recorded.member
  rw [deliveredFacts, recorded.eventId, found]
  simp only [recorded.payload]
  rfl

/-- Exactly the facts of accepted deliveries were applied, in their order. -/
theorem acceptedFacts_delivered (replayed : replayEvents sha256 events = .ok state)
    (distinct : (events.map ConversationEvent.eventId).Nodup) :
    state.acceptedWorkerFacts =
      (acceptedDeliveries state.deliveries).flatMap (deliveredFacts events) := by
  refine replay_history (fun events state =>
    (events.map ConversationEvent.eventId).Nodup → state.acceptedWorkerFacts =
      (acceptedDeliveries state.deliveries).flatMap (deliveredFacts events)) ?_ ?_ replayed distinct
  · intro _
    rfl
  · intro before last middle next first applied known unique
    have uniqueBefore : (before.map ConversationEvent.eventId).Nodup := by
      rw [List.map_append] at unique
      exact (List.nodup_append.mp unique).1
    -- A further event does not change what an earlier record is about.
    have kept : (acceptedDeliveries middle.deliveries).flatMap (deliveredFacts (before ++ [last])) =
        (acceptedDeliveries middle.deliveries).flatMap (deliveredFacts before) := by
      refine List.flatMap_congr fun record member => ?_
      obtain ⟨event, result, recorded, _⟩ := accepted_origin first record member
      have extended : RecordedAt (before ++ [last]) record event result :=
        { recorded with member := List.mem_append_left _ recorded.member }
      rw [recorded.delivered uniqueBefore, extended.delivered unique]
    obtain ⟨same, facts⟩ | ⟨result, worker, payload, accepts⟩ :=
      accepts_or_keeps (applyEvent_applies applied)
    · rw [facts, same, kept]
      exact known uniqueBefore
    · rw [accepts.facts, accepts.deliveries, List.flatMap_append, kept, known uniqueBefore]
      have recorded : RecordedAt (before ++ [last])
          (deliveryRecord last.sequence last.eventId result (logicalHashOf sha256 result)
            (.accepted, none)) last result := ⟨by simp, payload, rfl, rfl, rfl, rfl⟩
      rw [List.flatMap_singleton, recorded.delivered unique]

/-! ## Nothing changed in between -/

variable {after : List ConversationEvent}

/-- The position of an event is its sequence. -/
theorem sequence_of_split {conversationId : String}
    (chained : ChainIntact sha256 conversationId (before ++ event :: after)) :
    event.sequence = before.length + 1 := by
  induction after using List.reverseRecOn with
  | nil =>
    have intact := ((chainIntact_snoc _ _ _).mp chained).2
    simp only [eventIntact, Bool.and_eq_true, decide_eq_true_eq] at intact
    exact intact.1.1.2
  | append_singleton rest last ih =>
    rw [← List.cons_append, ← List.append_assoc] at chained
    exact ih ((chainIntact_snoc _ _ _).mp chained).1

/-- Events with a sequence in a stretch of the log are in that stretch. -/
theorem mem_between {conversationId : String} {first middle last : List ConversationEvent}
    (chained : ChainIntact sha256 conversationId (first ++ (middle ++ last)))
    (member : event ∈ first ++ (middle ++ last)) (lower : first.length < event.sequence)
    (upper : event.sequence ≤ first.length + middle.length) : event ∈ middle := by
  obtain ⟨before, after, split⟩ := List.append_of_mem member
  have position : event.sequence = before.length + 1 := sequence_of_split (split ▸ chained)
  have found : (first ++ (middle ++ last))[before.length]? = some event := by
    rw [split, List.getElem?_append_right (Nat.le_refl _), Nat.sub_self]
    rfl
  rw [List.getElem?_append_right (by omega), List.getElem?_append_left (by omega)] at found
  exact List.mem_of_getElem? found

/-- A worker that is known keeps its contract for the rest of the log. -/
theorem contract_kept (replayed : replay (applyEvent sha256) state events = .ok final)
    {workerId : String} {worker : WorkerRecord}
    (known : state.workers.lookup workerId = some worker) :
    ∃ later, final.workers.lookup workerId = some later ∧ contractOf later = contractOf worker := by
  refine replay_invariant (fun state => ∃ later, state.workers.lookup workerId = some later ∧
    contractOf later = contractOf worker) ?_ replayed ⟨worker, known, rfl⟩
  rintro middle event next applied ⟨later, found, contract⟩
  obtain ⟨after, foundAfter, continues⟩ := worker_continues (applyEvent_applies applied) found
  exact ⟨after, foundAfter, continues.1.trans contract⟩

/-- Every worker was spawned. -/
theorem worker_origin (replayed : replayEvents sha256 events = .ok state) :
    ∀ workerId worker, state.workers.lookup workerId = some worker →
      ∃ event ∈ events, ∃ spawn, event.payload = .workerSpawned spawn ∧
        spawn.workerId = workerId := by
  refine replay_history (fun events state => ∀ workerId worker,
    state.workers.lookup workerId = some worker → ∃ event ∈ events, ∃ spawn,
      event.payload = .workerSpawned spawn ∧ spawn.workerId = workerId) ?_ ?_ replayed
  · intro workerId worker found
    cases found
  · intro before last middle next _ applied known workerId later found
    obtain ⟨worker, foundBefore⟩ | ⟨spawn, payload, named⟩ :=
      worker_appears (applyEvent_applies applied) found
    · obtain ⟨event, member, origin⟩ := known workerId worker foundBefore
      exact ⟨event, List.mem_append_left _ member, origin⟩
    · exact ⟨last, by simp, spawn, payload, named⟩

/-- The current goal after the first events of the log. -/
def currentGoalAt (sha256 : String → String) (log : ConversationLog) (sequence : Nat) :
    Option String :=
  match replayEvents sha256 (log.events.take sequence) with
  | .ok state => state.currentGoalId
  | .error _ => none

theorem currentGoalAt_split (split : log.events = before ++ event :: after)
    (reached : replayEvents sha256 before = .ok state)
    (applied : applyEvent sha256 state event = .ok next) :
    currentGoalAt sha256 log (before.length + 1) = next.currentGoalId := by
  have taken : log.events.take (before.length + 1) = before ++ [event] := by
    rw [split, List.append_cons]
    exact List.take_left' (by simp)
  have replayed : replayEvents sha256 (before ++ [event]) = .ok next :=
    (replay_snoc_ok_iff _ _).mpr ⟨state, reached, applied⟩
  rw [currentGoalAt, taken, replayed]

/-- From the spawn of a worker to the delivery of its result no fact that it depends on was
corrected and the policy did not advance; its goal was the current one at both ends. -/
structure Undisturbed (sha256 : String → String) (log : ConversationLog) (spawn : WorkerSpawn)
    (spawned applied : Nat) : Prop where
  ordered : spawned < applied
  facts : ∀ event ∈ log.events, spawned < event.sequence → event.sequence < applied →
    ∀ dependency ∈ spawn.dependencies, correctsFact dependency.key event.payload = false
  policy : ∀ event ∈ log.events, spawned < event.sequence → event.sequence < applied →
    advancesPolicy event.payload = false
  goalAtSpawn : currentGoalAt sha256 log spawned = some spawn.goalId
  goalAtDelivery : currentGoalAt sha256 log applied = some spawn.goalId

theorem writesFact_of_corrects {key : String} {payload : ConversationEventPayload}
    (corrects : correctsFact key payload) : writesFact key payload := by
  cases payload with
  | factCorrected => exact corrects
  | _ => cases corrects

/-- What a spawn rests on, and the worker it starts. -/
theorem spawn_applies (applied : applyEvent sha256 state event = .ok next)
    (payload : event.payload = .workerSpawned spawn) :
    state.workers.lookup spawn.workerId = none ∧ state.currentGoalId = some spawn.goalId ∧
      spawn.policyEpoch = next.policy.epoch ∧
      (∀ dependency ∈ spawn.dependencies, isCurrent next.facts dependency = true) ∧
      ∃ worker, next.workers.lookup spawn.workerId = some worker ∧
        contractOf worker = (spawn.goalId, spawn.policyEpoch, spawn.dependencies) := by
  have applies := applyEvent_applies applied
  rw [payload] at applies
  cases applies with
  | workerSpawned _ fresh current epoch room dependencies =>
    exact ⟨fresh, current, epoch, dependencies, _, lookup_setField_self _ _ _, rfl⟩

/-- A worker whose result is accepted was spawned before. -/
theorem spawn_precedes {delivery : ConversationEvent} {worker : WorkerRecord}
    (applied : applyEvent sha256 state delivery = .ok next)
    (rest : replay (applyEvent sha256) next after = .ok final)
    (delivers : delivery.payload = .workerResultDelivered result)
    (found : state.workers.lookup result.workerId = some worker)
    (member : event ∈ before ++ delivery :: after)
    (payload : event.payload = .workerSpawned spawn) (named : spawn.workerId = result.workerId) :
    event ∈ before := by
  rcases List.mem_append.mp member with earlier | later
  · exact earlier
  · rcases List.mem_cons.mp later with rfl | later
    · rw [delivers] at payload
      cases payload
    · -- The worker would have been spawned although it was known.
      obtain ⟨first, second, rfl⟩ := List.append_of_mem later
      obtain ⟨middle, reached, continued⟩ := (replay_append_ok_iff _ _).mp rest
      obtain ⟨after, spawned, _⟩ := (replay_cons_ok_iff _ _).mp continued
      have fresh := (spawn_applies spawned payload).1
      obtain ⟨known, foundNext, _⟩ := worker_continues (applyEvent_applies applied) found
      obtain ⟨still, foundLater, _⟩ := contract_kept reached foundNext
      rw [named, foundLater] at fresh
      cases fresh

/-- Values that only grow and are equal at both ends were not raised in between. -/
theorem unraised (replayed : replay (applyEvent sha256) state events = .ok final)
    (measure : MutableState → Nat) (raises : ConversationEventPayload → Bool)
    (counts : ∀ {state next : MutableState} {sequence : Nat} {eventId : String}
      {payload : ConversationEventPayload},
      EventApplies sha256 state sequence eventId payload next →
        measure next = measure state + if raises payload then 1 else 0)
    (same : measure final = measure state) : ∀ event ∈ events, raises event.payload = false := by
  have total := replay_count measure (fun event : ConversationEvent => raises event.payload)
    (fun _ _ _ applied => counts (applyEvent_applies applied)) replayed
  have none : events.countP (fun event => raises event.payload) = 0 := by omega
  intro event member
  exact Bool.eq_false_iff.mpr (List.countP_eq_zero.mp none event member)

/-- An accepted result was undisturbed. -/
theorem accepted_undisturbed (sound : Sound sha256 log state) {delivery : ConversationEvent}
    (delivers : delivery.payload = .workerResultDelivered result)
    (accepted : AcceptedAt sha256 log.events delivery result) (member : event ∈ log.events)
    (payload : event.payload = .workerSpawned spawn) (named : spawn.workerId = result.workerId) :
    Undisturbed sha256 log spawn event.sequence delivery.sequence := by
  obtain ⟨_, _, chained, _⟩ := (validateConversationLog_ok_iff _ _).mp sound.valid
  obtain ⟨before, after, middle, next, worker, split, reached, applied, accepts⟩ := accepted
  have whole := sound.replayed
  rw [split] at chained member whole
  obtain ⟨_, again, continued⟩ := (replay_append_ok_iff _ _).mp whole
  cases again.symm.trans reached
  obtain ⟨_, again, rest⟩ := (replay_cons_ok_iff _ _).mp continued
  cases again.symm.trans applied
  have earlier := spawn_precedes applied rest delivers accepts.found member payload named
  obtain ⟨first, between, rfl⟩ := List.append_of_mem earlier
  obtain ⟨start, started, onwards⟩ := (replay_append_ok_iff _ _).mp reached
  obtain ⟨spawned, spawning, meanwhile⟩ := (replay_cons_ok_iff _ _).mp onwards
  obtain ⟨_, current, epoch, dependencies, started', foundWorker, contract⟩ :=
    spawn_applies spawning payload
  -- The contract that the delivery was checked against is that of the spawn.
  obtain ⟨later, foundLater, kept⟩ := contract_kept meanwhile foundWorker
  rw [named, accepts.found] at foundLater
  cases foundLater
  rw [contract] at kept
  obtain ⟨goal, contractEpoch, contractDependencies⟩ : worker.goalId = spawn.goalId ∧
      worker.policyEpoch = spawn.policyEpoch ∧ worker.dependencies = spawn.dependencies := by
    simpa [contractOf] using kept
  have regrouped : (first ++ event :: between) ++ delivery :: after =
      first ++ event :: (between ++ delivery :: after) := by simp
  have spawnedAt : event.sequence = first.length + 1 := sequence_of_split (regrouped ▸ chained)
  have deliveredAt : delivery.sequence = first.length + 1 + between.length + 1 := by
    rw [sequence_of_split chained]
    simp
    omega
  have inBetween : ∀ other ∈ log.events, event.sequence < other.sequence →
      other.sequence < delivery.sequence → other ∈ between := by
    intro other known lower upper
    rw [split, regrouped, List.append_cons] at known
    rw [regrouped, List.append_cons] at chained
    refine mem_between chained known ?_ ?_
    · simpa [← spawnedAt] using lower
    · simp
      omega
  refine ⟨by omega, ?_, ?_, ?_, ?_⟩
  · intro other known lower upper dependency required
    have revision := revisionOf_current (accepts.acceptable.dependencies dependency
      (contractDependencies ▸ required))
    have unwritten := unraised meanwhile (fun state => revisionOf state.facts dependency.key)
      (writesFact dependency.key) (fun applies => revision_counts applies dependency.key)
      (revision.trans (revisionOf_current (dependencies dependency required)).symm) other
      (inBetween other known lower upper)
    rw [← Bool.not_eq_true] at unwritten ⊢
    exact fun corrects => unwritten (writesFact_of_corrects corrects)
  · intro other known lower upper
    have sameEpoch : middle.policy.epoch = spawned.policy.epoch := by
      rw [← epoch, ← accepts.acceptable.epoch, accepts.acceptable.contract, contractEpoch]
    exact unraised meanwhile (fun state => state.policy.epoch) advancesPolicy epoch_counts sameEpoch
      other (inBetween other known lower upper)
  · rw [spawnedAt, currentGoalAt_split (split.trans regrouped) started spawning,
      goal_kept (applyEvent_applies spawning) (Or.inl ⟨spawn, payload⟩), current]
  · rw [sequence_of_split chained, currentGoalAt_split split reached applied,
      goal_kept (applyEvent_applies applied) (Or.inr ⟨result, delivers⟩),
      accepts.acceptable.current, accepts.acceptable.goal, goal]

theorem result_keys_distinct (schema : ConversationEventSchema event)
    (payload : event.payload = .workerResultDelivered result) :
    (result.facts.map WorkerFact.key).Nodup := by
  simp only [ConversationEventSchema, ConversationEventDraftSchema, ConversationEvent.draft,
    payload, ConversationEventPayloadSchema, WorkerResultSchema, haveUniqueKeys, Bool.and_eq_true,
    decide_eq_true_eq] at schema
  tauto

/-- The facts of accepted deliveries are told apart by delivery and key. -/
theorem acceptedFacts_distinct (sound : Sound sha256 log state) :
    (state.acceptedWorkerFacts.map fun fact => (fact.deliveryId, fact.key)).Nodup := by
  obtain ⟨_, _, _, distinct⟩ := (validateConversationLog_ok_iff _ _).mp sound.valid
  have once := appliedOnce_replay sound.replayed
  have keys : ∀ record ∈ acceptedDeliveries state.deliveries, ∃ facts : List WorkerFact,
      (deliveredFacts log.events record).map (fun fact => (fact.deliveryId, fact.key)) =
          facts.map (fun fact => (record.deliveryId, fact.key)) ∧
        (facts.map WorkerFact.key).Nodup := by
    intro record member
    obtain ⟨event, result, recorded, _⟩ := accepted_origin sound.replayed record member
    refine ⟨result.facts, ?_, result_keys_distinct (sound.schema recorded.member) recorded.payload⟩
    rw [recorded.delivered distinct, List.map_map, recorded.deliveryId]
    rfl
  rw [acceptedFacts_delivered sound.replayed distinct, List.map_flatMap, List.nodup_flatMap]
  constructor
  · intro record member
    obtain ⟨facts, same, distinctKeys⟩ := keys record member
    rw [same]
    refine List.Nodup.of_map Prod.snd ?_
    rw [List.map_map]
    exact distinctKeys
  · refine (List.pairwise_map.mp once.deliveries).imp_of_mem ?_
    intro first second firstMember secondMember apart
    obtain ⟨firstFacts, firstSame, _⟩ := keys first firstMember
    obtain ⟨secondFacts, secondSame, _⟩ := keys second secondMember
    rw [Function.onFun_apply, firstSame, secondSame]
    intro pair left right
    obtain ⟨_, _, rfl⟩ := List.mem_map.mp left
    obtain ⟨_, _, same⟩ := List.mem_map.mp right
    exact apart (Prod.mk.inj same).1.symm

/-- For every log of the append interface: no delivery and no worker has two accepted
records; the accepted worker facts are those of the accepted deliveries, each once; and
every accepted delivery of a worker was undisturbed since the spawn of that worker. -/
theorem worker_results_apply_once (sha256 : String → String) (conversationId : String)
    (initial : ConversationLog) (created : createConversationLog conversationId = .ok initial)
    (batches : List (List ConversationEventDraft)) :
    ∃ folded, foldConversation sha256 (buildLog sha256 initial batches) = .ok folded ∧
      ((acceptedDeliveries folded.deliveries).map WorkerDeliveryRecord.deliveryId).Nodup ∧
      ((acceptedDeliveries folded.deliveries).map WorkerDeliveryRecord.workerId).Nodup ∧
      folded.acceptedWorkerFacts = (acceptedDeliveries folded.deliveries).flatMap
        (deliveredFacts (buildLog sha256 initial batches).events) ∧
      (folded.acceptedWorkerFacts.map fun fact => (fact.deliveryId, fact.key)).Nodup ∧
      ∀ record ∈ acceptedDeliveries folded.deliveries, ∃ applied,
        record.appliedSequence = some applied ∧
        (∃ event ∈ (buildLog sha256 initial batches).events, ∃ spawn,
          event.payload = .workerSpawned spawn ∧ spawn.workerId = record.workerId) ∧
        ∀ event ∈ (buildLog sha256 initial batches).events, ∀ spawn,
          event.payload = .workerSpawned spawn → spawn.workerId = record.workerId →
          Undisturbed sha256 (buildLog sha256 initial batches) spawn event.sequence applied := by
  obtain ⟨state, sound⟩ : ∃ state, Sound sha256 (buildLog sha256 initial batches) state :=
    buildLog_sound created batches
  obtain ⟨_, _, _, distinct⟩ := (validateConversationLog_ok_iff _ _).mp sound.valid
  have once := appliedOnce_replay sound.replayed
  refine ⟨conversationState _ state, (foldConversation_ok_iff _ _).mpr ⟨state, sound, rfl⟩,
    once.deliveries, once.workers, acceptedFacts_delivered sound.replayed distinct,
    acceptedFacts_distinct sound, ?_⟩
  intro record member
  obtain ⟨delivery, result, recorded, accepted⟩ := accepted_origin sound.replayed record member
  refine ⟨delivery.sequence, recorded.applied, ?_, ?_⟩
  · obtain ⟨worker, found, _⟩ := once.ended record member
    exact worker_origin sound.replayed record.workerId worker found
  · intro event known spawn payload named
    exact accepted_undisturbed sound recorded.payload accepted known payload
      (named.trans recorded.workerId)

/-- A worker prices the plan that was asserted before it was spawned. -/
def quoteDrafts : List ConversationEventDraft :=
  [⟨"e1", 0, .factAsserted "plan" (.string "basic") 1 ⟨.systemOfRecord, "crm", "r1", 0⟩⟩,
    ⟨"e2", 0, .goalActivated "g" "Quote"⟩,
    ⟨"e3", 0, .workerSpawned ⟨"w", "g", "Price", 0, [⟨"plan", 1⟩]⟩⟩,
    ⟨"e4", 0, .workerResultDelivered
      ⟨"d", "w", "g", 0, [⟨"plan", 1⟩], [⟨"price", .string "9", "v1"⟩], []⟩⟩]

set_option synthInstance.maxSize 1024 in
/-- The quote is accepted, and its price of 9 was applied once. -/
theorem quote_applied_once : createConversationLog "call-1" = .ok openedCall ∧
      ∃ folded, foldConversation Sha256.digest
          (buildLog Sha256.digest openedCall [quoteDrafts]) = .ok folded ∧
        (acceptedDeliveries folded.deliveries).map (fun record =>
          (record.deliveryId, record.workerId, record.appliedSequence)) = [("d", "w", some 4)] ∧
        (folded.acceptedWorkerFacts.map fun fact => (fact.deliveryId, fact.key)).Nodup ∧
        folded.acceptedWorkerFacts.map (fun fact => (fact.key, fact.value, fact.evidenceId)) =
          [("price", .string "9", "v1")] ∧
        ∃ event ∈ (buildLog Sha256.digest openedCall [quoteDrafts]).events, ∃ spawn,
          Undisturbed Sha256.digest (buildLog Sha256.digest openedCall [quoteDrafts]) spawn
            event.sequence 4 := by
  have created : createConversationLog "call-1" = .ok openedCall := by rfl
  have computed : (replayEvents Sha256.digest
        (buildLog Sha256.digest openedCall [quoteDrafts]).events).toOption.map (fun state =>
      ((acceptedDeliveries state.deliveries).map (fun record =>
          (record.deliveryId, record.workerId, record.appliedSequence)),
        state.acceptedWorkerFacts.map fun fact =>
          (fact.key, fact.value.asString, fact.evidenceId))) =
      some ([("d", "w", some 4)], [("price", some "9", "v1")]) := by
    decide +kernel
  obtain ⟨folded, returned, _, _, _, once, undisturbed⟩ :=
    worker_results_apply_once Sha256.digest "call-1" openedCall created [quoteDrafts]
  obtain ⟨state, sound, rfl⟩ := (foldConversation_ok_iff _ _).mp returned
  rw [sound.replayed] at computed
  obtain ⟨records, stored⟩ := Prod.mk.inj (Option.some.inj computed)
  have price : state.acceptedWorkerFacts.map (fun fact => (fact.key, fact.value,
      fact.evidenceId)) = [("price", .string "9", "v1")] := by
    obtain ⟨fact, single, shown⟩ := List.map_eq_singleton_iff.mp stored
    obtain ⟨key, rest⟩ := Prod.mk.inj shown
    obtain ⟨value, evidence⟩ := Prod.mk.inj rest
    rw [single, List.map_singleton, key, JsonValues.eq_string_of_asString value, evidence]
  refine ⟨created, _, returned, records, once, price, ?_⟩
  obtain ⟨record, member, same⟩ := List.mem_map.mp (records ▸ List.mem_singleton_self _)
  obtain ⟨applied, appliedAt, ⟨event, known, spawn, payload, named⟩, since⟩ :=
    undisturbed record member
  have fourth : some applied = some 4 :=
    appliedAt.symm.trans (Prod.mk.inj (Prod.mk.inj same).2).2
  cases fourth
  exact ⟨event, known, spawn, since event known spawn payload named⟩

end CallCenter.ConversationDeliveries
