import CallCenter.ConversationAppends
import CallCenter.ConversationProjection
import CallCenter.ConversationTransitions
import CallCenter.GreedyPacking

/-!
# Complete or refused

A projection holds the whole control state or is not made. What it adds beyond that is
chosen greedily: an optional item is missing only because it did not fit at its turn. The
check on the number of active workers never fails on a folded state, since a worker is
spawned only below that number.
-/

namespace CallCenter.ConversationContexts

open JsonValues ObjectFields Guards Replays ConversationEvents ConversationKernel
  ConversationAppends ConversationTransitions ConversationProjection Utf16Texts GreedyPacking

variable {sha256 : String → String}

/-! ## Bounded texts -/

/-- Where shorter lengths fit with every length that fits, the search ends at the greatest. -/
theorem searchLength_greatest (fits : Nat → Bool) (lower upper : Nat) (base : fits lower)
    (shorter : ∀ first second, first ≤ second → fits second → fits first) :
    fits (searchLength fits lower upper) ∧
      ∀ length ≤ upper, fits length → length ≤ searchLength fits lower upper := by
  induction lower, upper using searchLength.induct fits with
  | case1 lower upper wide middle passes ih =>
    rw [searchLength, if_pos wide]
    simp only [middle] at passes
    simp only [passes, if_true]
    exact ih passes
  | case2 lower upper wide middle fails ih =>
    rw [searchLength, if_pos wide]
    simp only [middle] at fails
    simp only [fails]
    obtain ⟨found, greatest⟩ := ih base
    refine ⟨found, fun length _ known => greatest length ?_ known⟩
    by_contra above
    exact fails (shorter _ _ (by omega) known)
  | case3 lower upper closed =>
    rw [searchLength, if_neg closed]
    refine ⟨base, fun length within _ => ?_⟩
    omega

/-- The text is the longest first part of another within a number of bytes. -/
def LongestWithin (maximumBytes : Nat) (whole part : String) : Prop :=
  ∃ count, part = String.ofList (whole.toList.take count) ∧ part.utf8ByteSize ≤ maximumBytes ∧
    ∀ longer, count < longer → longer ≤ whole.toList.length →
      maximumBytes < (String.ofList (whole.toList.take longer)).utf8ByteSize

theorem boundedUtf8Text_longest (value : String) (maximumBytes : Nat) :
    LongestWithin maximumBytes value (boundedUtf8Text value maximumBytes) := by
  unfold boundedUtf8Text
  split
  · next within =>
    refine ⟨value.toList.length, ?_, within, fun longer more bounded => by omega⟩
    rw [List.take_length, String.ofList_toList]
  · dsimp only
    rw [show utf16 value = value.toList.flatMap charUnits from rfl]
    generalize units : value.toList.flatMap charUnits = all
    obtain ⟨fits, greatest⟩ := searchLength_greatest (fun middle => decide (encodedBytes
      (all.take middle) ≤ maximumBytes)) 0 all.length (decide_eq_true (Nat.zero_le _))
      (fun first second below known => by
        refine decide_eq_true (Nat.le_trans ?_ (of_decide_eq_true known))
        rw [← Nat.min_eq_left below, ← List.take_take]
        exact encodedBytes_take_le _ first)
    generalize searchLength _ 0 _ = length at fits greatest ⊢
    obtain ⟨count, whole, bytes, longest⟩ := slice_whole value.toList length
    rw [units] at whole bytes
    rw [whole, decodeUnits_flatMap]
    refine ⟨count, rfl, ?_, ?_⟩
    · rw [← encodedBytes_flatMap]
      exact Nat.le_trans bytes (of_decide_eq_true fits)
    · intro longer more within
      rw [← encodedBytes_flatMap]
      by_contra exceeds
      -- The longer part would be a slice of the units that fits.
      obtain ⟨rest, split⟩ : (value.toList.take longer).flatMap charUnits <+: all := by
        rw [← units, ← List.take_append_drop longer value.toList, List.flatMap_append,
          List.take_append_drop]
        exact List.prefix_append _ _
      have slice : all.take ((value.toList.take longer).flatMap charUnits).length =
          (value.toList.take longer).flatMap charUnits := by
        rw [← split, List.take_left]
      have below := greatest ((value.toList.take longer).flatMap charUnits).length
        (by rw [← split, List.length_append]; omega)
        (by rw [slice]; exact decide_eq_true (Nat.le_of_not_lt exceeds))
      exact absurd (longest longer more within) (Nat.not_lt.mpr below)

/-! ## Active workers -/

/-- No goal has more running workers than a spawn allows. -/
def WorkersBounded (state : MutableState) : Prop :=
  ∀ goalId, state.workers.countP (fun entry => runsFor goalId entry.2) ≤ MAX_ACTIVE_WORKERS_PER_GOAL

variable {state : MutableState}

theorem workersBounded_end (known : WorkersBounded state) (workerId goalId : String)
    {worker : WorkerRecord} (ended : worker.status ≠ .running) :
    (setField state.workers workerId worker).countP (fun entry => runsFor goalId entry.2) ≤
      MAX_ACTIVE_WORKERS_PER_GOAL := by
  have counted := countP_setField_le state.workers workerId worker (runsFor goalId)
  have stopped : runsFor goalId worker = false := by simp [runsFor, ended]
  rw [stopped] at counted
  exact Nat.le_trans counted (known goalId)

theorem workersBounded_step {next : MutableState} {event : ConversationEvent}
    (applied : applyEvent sha256 state event = .ok next) (known : WorkersBounded state) :
    WorkersBounded next := by
  have applies := applyEvent_applies applied
  revert applies
  generalize event.payload = payload
  intro applies goalId
  cases applies with
  | workerSpawned spawn fresh current epoch room dependencies =>
    refine Nat.le_trans (countP_setField_le state.workers spawn.workerId _ (runsFor goalId)) ?_
    by_cases same : spawn.goalId = goalId
    · subst same
      have below : state.workers.countP (fun entry => runsFor spawn.goalId entry.2) <
          MAX_ACTIVE_WORKERS_PER_GOAL := by
        rw [List.filter_map, List.length_map, ← List.countP_eq_length_filter] at room
        exact room
      split
      · exact below
      · exact Nat.le_of_lt below
    · have other : runsFor goalId ⟨spawn.workerId, spawn.goalId, spawn.purpose, spawn.policyEpoch,
          spawn.dependencies, event.sequence, .running⟩ = false := by
        simp [runsFor, same]
      rw [other]
      exact known goalId
  | workerCancelled =>
    exact workersBounded_end known _ _ (by simp)
  | workerFinished workerId status =>
    exact workersBounded_end known _ _ (by cases status <;> simp [finishedAs])
  | resultAccepted result worker undecided found acceptable
  | resultRejected =>
    exact workersBounded_end known _ _ (by simp)
  | _ => exact known goalId

theorem workersBounded_replay {events : List ConversationEvent}
    (replayed : replayEvents sha256 events = .ok state) : WorkersBounded state := by
  refine replay_invariant WorkersBounded (fun _ _ _ => workersBounded_step) replayed ?_
  intro goalId
  exact Nat.zero_le _

/-- The check on active workers passes on every folded state. -/
theorem activeWorkers_bounded {log : ConversationLog} {folded : ConversationState}
    (returned : foldConversation sha256 log = .ok folded) :
    (activeWorkers folded).length ≤ MAX_ACTIVE_WORKERS_PER_GOAL := by
  obtain ⟨state, sound, rfl⟩ := (foldConversation_ok_iff _ _).mp returned
  have bounded := workersBounded_replay sound.replayed
  unfold activeWorkers goalWorkers
  split
  · exact Nat.zero_le _
  · next goal found =>
    have sorted : (conversationState log state).workers.Perm (state.workers.map Prod.snd) :=
      List.perm_insertionSort _ _
    refine Nat.le_trans (Nat.le_of_eq ?_) (bounded goal.goalId)
    rw [List.filter_filter, ← List.countP_eq_length_filter, sorted.countP_eq, List.countP_map]
    refine List.countP_congr fun entry _ => ?_
    simp [runsFor, and_comm]

/-! ## The order of priority -/

section Priority
variable {α : Type} (sequenceOf : α → Nat) (idOf : α → String)

/-- Later items come first, and of items of one event those with the smaller identity in the
order of code units. -/
def Newer (left right : α) : Prop :=
  sequenceOf right < sequenceOf left ∨ sequenceOf left = sequenceOf right ∧
    utf16 (idOf left) ≤ utf16 (idOf right)

theorem newestFirst_iff (left right : α) :
    newestFirst sequenceOf idOf left right = true ↔ Newer sequenceOf idOf left right := by
  simp [newestFirst, unitsLe_iff_le, Newer]

/-- Sorting puts newer items first. -/
theorem sorted_newestFirst (items : List α) :
    (items.insertionSort fun left right => newestFirst sequenceOf idOf left right = true).Pairwise
      (Newer sequenceOf idOf) := by
  have total : Std.Total fun left right : α => newestFirst sequenceOf idOf left right = true := by
    constructor
    intro left right
    rw [newestFirst_iff, newestFirst_iff]
    rcases Nat.lt_trichotomy (sequenceOf left) (sequenceOf right) with older | same | newer
    · exact Or.inr (Or.inl older)
    · rcases le_total (utf16 (idOf left)) (utf16 (idOf right)) with first | second
      · exact Or.inl (Or.inr ⟨same, first⟩)
      · exact Or.inr (Or.inr ⟨same.symm, second⟩)
    · exact Or.inl (Or.inl newer)
  have transitive : IsTrans α fun left right => newestFirst sequenceOf idOf left right = true := by
    constructor
    intro first second third
    rw [newestFirst_iff, newestFirst_iff, newestFirst_iff]
    rintro (newer | ⟨same, below⟩) (later | ⟨equal, above⟩)
    · exact Or.inl (by omega)
    · exact Or.inl (by omega)
    · exact Or.inl (by omega)
    · exact Or.inr ⟨same.trans equal, below.trans above⟩
  exact (List.pairwise_insertionSort _ _).imp fun ordered => (newestFirst_iff _ _ _ _).mp ordered

end Priority

/-! ## Control state -/

/-- The worker is shown with its identity, its status and as much of its purpose as fits. -/
structure ShowsWorker (worker : WorkerRecord) (shown : ProjectedWorker) : Prop where
  workerId : shown.workerId = worker.workerId
  status : shown.status = worker.status
  purpose : LongestWithin 256 worker.purpose shown.purpose

/-- The workers that were spawned for the current goal and have the given status. -/
def workersOfGoal (state : ConversationState) (running : Bool) : List WorkerRecord :=
  state.workers.filter fun worker =>
    decide (state.currentGoal.map ConversationGoal.goalId = some worker.goalId) &&
      decide (worker.status = .running) == running

/-- The projection holds all of the control state: every invariant and fact, the current
goal and checkpoint, every open commitment, every running worker of the goal, and of its
terminal workers the eight newest with the number of the others. -/
structure HoldsControlState (state : ConversationState) (projection : ContextProjection) :
    Prop where
  policyEpoch : projection.policyEpoch = state.policy.epoch
  invariants : projection.invariants = state.policy.invariants
  facts : projection.authoritativeFacts = state.facts.map fun fact =>
    { key := fact.key, value := fact.value, revision := fact.revision }
  goal : projection.currentGoal = state.currentGoal.map fun goal =>
    { goalId := goal.goalId, description := goal.description }
  checkpoint : projection.currentFlowCheckpoint =
    state.currentFlowCheckpoint.map FlowCheckpointRecord.checkpoint
  commitments : projection.openCommitments.Perm
    ((state.commitments.filter fun commitment => commitment.resolution.isNone).map fun commitment =>
      { commitmentId := commitment.commitmentId, goalId := commitment.goalId,
        description := commitment.description })
  workers : ∃ terminal : List WorkerRecord, terminal.Perm (workersOfGoal state false) ∧
      terminal.Pairwise (Newer WorkerRecord.spawnedSequence WorkerRecord.workerId) ∧
      List.Forall₂ ShowsWorker (workersOfGoal state true ++ terminal.take 8)
        projection.currentGoalWorkers ∧
      projection.omittedTerminalWorkerCount = terminal.length - 8

theorem goalWorkers_filter (state : ConversationState) (running : Bool) :
    ((goalWorkers state).filter fun worker => decide (worker.status = .running) == running) =
      workersOfGoal state running := by
  unfold goalWorkers workersOfGoal
  cases state.currentGoal with
  | none => simp
  | some goal =>
    rw [List.filter_filter]
    refine List.filter_congr fun worker _ => ?_
    simp [Bool.and_comm, eq_comm]

theorem mandatorySection_complete (state : ConversationState) :
    HoldsControlState state (mandatorySection state) := by
  have running : activeWorkers state = workersOfGoal state true := by
    rw [← goalWorkers_filter]
    exact List.filter_congr fun worker _ => by simp
  have ended : (terminalWorkers state).Perm (workersOfGoal state false) := by
    rw [← goalWorkers_filter]
    refine (List.perm_insertionSort _ _).trans (.of_eq ?_)
    exact List.filter_congr fun worker _ => by simp
  refine ⟨rfl, rfl, rfl, rfl, rfl, (List.perm_insertionSort _ _).map _, terminalWorkers state,
    ended, sorted_newestFirst _ _ _, ?_, rfl⟩
  rw [← running]
  refine List.forall₂_map_right_iff.mpr (List.forall₂_same.mpr fun worker _ => ?_)
  exact ⟨rfl, rfl, boundedUtf8Text_longest worker.purpose MAX_PROJECTED_WORKER_PURPOSE_BYTES⟩

variable {state : ConversationState}

/-- Optional items leave the control state alone. -/
theorem HoldsControlState.extended {projection : ContextProjection}
    (complete : HoldsControlState state projection) (facts : List ProjectedWorkerFact)
    (episodes : List ProjectedEpisode) :
    HoldsControlState state
      { projection with acceptedWorkerFacts := facts, recentAdvisoryEpisodes := episodes } :=
  { complete with }

/-! ## Optional items -/

/-- The fact was accepted for the current goal and under the present policy epoch, and every
fact it depends on still has the revision that it had then. -/
structure Current (state : ConversationState) (fact : AcceptedWorkerFact) : Prop where
  goal : state.currentGoal.map ConversationGoal.goalId = some fact.goalId
  epoch : fact.policyEpoch = state.policy.epoch
  dependencies : ∀ dependency ∈ fact.dependencyFactRevisions,
    (state.facts.find? fun authoritative => authoritative.key = dependency.key).map
      AuthoritativeFact.revision = some dependency.revision

theorem remainsCurrent_iff (state : ConversationState) (fact : AcceptedWorkerFact) :
    remainsCurrent state fact = true ↔ Current state fact := by
  simp only [remainsCurrent, Bool.and_eq_true, decide_eq_true_eq, List.all_eq_true]
  constructor
  · rintro ⟨⟨goal, epoch⟩, dependencies⟩
    exact ⟨goal.symm, epoch, dependencies⟩
  · rintro ⟨goal, epoch, dependencies⟩
    exact ⟨⟨goal.symm, epoch⟩, dependencies⟩

/-- The fact is current, and no later one of that kind has its key. -/
def LatestCurrent (state : ConversationState) (fact : AcceptedWorkerFact) : Prop :=
  ∃ before after, state.acceptedWorkerFacts = before ++ fact :: after ∧ Current state fact ∧
    ∀ other ∈ after, Current state other → other.key ≠ fact.key

theorem mem_prioritizedWorkerFacts (state : ConversationState) (fact : AcceptedWorkerFact) :
    fact ∈ prioritizedWorkerFacts state ↔ LatestCurrent state fact := by
  rw [prioritizedWorkerFacts, List.mem_insertionSort, latestWorkerFactByKey, mem_lastByKey_iff]
  simp only [remainsCurrent_iff, LatestCurrent]

/-- A worker fact as a projection shows it. -/
def shownFact (fact : AcceptedWorkerFact) : ProjectedWorkerFact where
  key := fact.key
  value := fact.value
  evidenceId := fact.evidenceId
  workerId := fact.workerId

/-- An advisory as a projection shows it. -/
def shownEpisode (episode : AdvisoryEpisode) : ProjectedEpisode where
  episodeId := episode.episodeId
  text := episode.text
  source := episode.source

/-- The optional items of a projection are packed greedily: first the latest current fact of
each key, then the advisories, newest first. -/
structure PacksOptional (state : ConversationState) (byteBudget : Nat)
    (projection : ContextProjection) : Prop where
  facts : ∃ candidates : List AcceptedWorkerFact,
    (∀ fact, fact ∈ candidates ↔ LatestCurrent state fact) ∧
      (candidates.map AcceptedWorkerFact.key).Nodup ∧
      candidates.Pairwise (Newer AcceptedWorkerFact.acceptedSequence AcceptedWorkerFact.key) ∧
      Packs (fun facts => projectionBytes
          { projection with acceptedWorkerFacts := facts, recentAdvisoryEpisodes := [] } ≤
        byteBudget) [] (candidates.map shownFact) projection.acceptedWorkerFacts
  advisories : ∃ candidates : List AdvisoryEpisode, candidates.Perm state.advisories ∧
      candidates.Pairwise (Newer AdvisoryEpisode.sequence AdvisoryEpisode.episodeId) ∧
      Packs (fun episodes => projectionBytes
          { projection with recentAdvisoryEpisodes := episodes } ≤ byteBudget)
        [] (candidates.map shownEpisode) projection.recentAdvisoryEpisodes

/-- Worker facts that were packed are latest current ones. -/
theorem PacksOptional.current {byteBudget : Nat} {projection : ContextProjection}
    (packs : PacksOptional state byteBudget projection) {item : ProjectedWorkerFact}
    (member : item ∈ projection.acceptedWorkerFacts) :
    ∃ fact, LatestCurrent state fact ∧ item = shownFact fact := by
  obtain ⟨candidates, latest, _, _, packed⟩ := packs.facts
  rcases packed.mem member with none | offered
  · cases none
  · obtain ⟨fact, known, rfl⟩ := List.mem_map.mp offered
    exact ⟨fact, (latest fact).mp known, rfl⟩

theorem keys_prioritizedWorkerFacts (state : ConversationState) :
    ((prioritizedWorkerFacts state).map AcceptedWorkerFact.key).Nodup := by
  have sorted : (prioritizedWorkerFacts state).Perm ((latestWorkerFactByKey state).map Prod.snd) :=
    List.perm_insertionSort _ _
  refine (sorted.map _).nodup_iff.mpr ?_
  rw [List.map_map]
  have keys := keys_lastByKey (remainsCurrent state) AcceptedWorkerFact.key
    state.acceptedWorkerFacts
  have distinct := nodup_keys_lastByKey (remainsCurrent state) AcceptedWorkerFact.key
    state.acceptedWorkerFacts
  rw [← keys] at distinct
  exact distinct

/-- A kept mutation fits; an undone one does not. -/
theorem tryOptionalMutation_eq (byteBudget : Nat) (projection mutated : ContextProjection) :
    tryOptionalMutation byteBudget projection mutated =
      if projectionBytes mutated ≤ byteBudget then mutated else projection := by
  unfold tryOptionalMutation
  by_cases fits : projectionBytes mutated ≤ byteBudget
  · rw [if_pos fits, if_neg (Nat.not_lt.mpr fits)]
  · rw [if_neg fits, if_pos (Nat.lt_of_not_le fits)]

section Adding
variable (byteBudget : Nat) (projection : ContextProjection)

/-- Adding optional items to a projection without any packs them; what fitted still fits. -/
theorem addOptional_packs (state : ConversationState) (bare : projection =
      { projection with acceptedWorkerFacts := [], recentAdvisoryEpisodes := [] })
    (fits : projectionBytes projection ≤ byteBudget) :
    ∃ facts episodes, addOptional state byteBudget projection = { projection with
            acceptedWorkerFacts := facts, recentAdvisoryEpisodes := episodes } ∧
        PacksOptional state byteBudget { projection with
            acceptedWorkerFacts := facts, recentAdvisoryEpisodes := episodes } ∧
        projectionBytes { projection with
            acceptedWorkerFacts := facts, recentAdvisoryEpisodes := episodes } ≤ byteBudget := by
  have packing {α : Type} (holding : List α → ContextProjection)
      (add : ContextProjection → α → ContextProjection)
      (adds : ∀ chosen item, add (holding chosen) item =
        tryOptionalMutation byteBudget (holding chosen) (holding (chosen ++ [item]))) :=
    foldl_packs holding add (fun mutated => projectionBytes mutated ≤ byteBudget)
      (fun chosen item fits => by rw [adds, tryOptionalMutation_eq, if_pos fits])
      (fun chosen item exceeds => by rw [adds, tryOptionalMutation_eq, if_neg exceeds]) []
  obtain ⟨facts, factsFolded, factsPacked⟩ := packing (fun facts =>
    { projection with acceptedWorkerFacts := facts, recentAdvisoryEpisodes := [] })
    (tryWorkerFact byteBudget) (fun _ _ => rfl)
    ((prioritizedWorkerFacts state).map projectWorkerFact)
  obtain ⟨episodes, episodesFolded, episodesPacked⟩ := packing (fun episodes =>
    { projection with acceptedWorkerFacts := facts, recentAdvisoryEpisodes := episodes })
    (tryEpisode byteBudget) (fun _ _ => rfl) ((prioritizedAdvisories state).map projectEpisode)
  have added : addOptional state byteBudget projection = { projection with
        acceptedWorkerFacts := facts, recentAdvisoryEpisodes := episodes } := by
    rw [bare, addOptional, factsFolded, episodesFolded]
  rw [bare] at fits
  refine ⟨facts, episodes, added, ?_, episodesPacked.fits (factsPacked.fits fits)⟩
  exact ⟨⟨prioritizedWorkerFacts state, mem_prioritizedWorkerFacts state,
    keys_prioritizedWorkerFacts state, sorted_newestFirst _ _ _, factsPacked⟩,
    prioritizedAdvisories state, List.perm_insertionSort _ _, sorted_newestFirst _ _ _,
    episodesPacked⟩

end Adding

/-! ## Complete or refused -/

/-- What a projection returns, once the number of active workers is in order. -/
theorem projectConversationContext_eq {byteBudget : Nat}
    (admissible : MIN_CONTEXT_BYTES ≤ byteBudget ∧ byteBudget ≤ MAX_CONTEXT_BYTES)
    (bounded : (activeWorkers state).length ≤ MAX_ACTIVE_WORKERS_PER_GOAL) :
    projectConversationContext state byteBudget =
      if projectionBytes (envelope state) ≤ byteBudget then
        if projectionBytes (mandatorySection state) ≤ byteBudget then
          let projection := addOptional state byteBudget (mandatorySection state)
          .ok ⟨projection, projection.toValue.text, projectionBytes projection⟩
        else .error (.contextOverflow byteBudget (projectionBytes (mandatorySection state)))
      else .error (.failed "context byte budget is too small for the kernel envelope") := by
  unfold projectConversationContext
  simp only [admissible.1, admissible.2, bounded, require, decide_true, Bool.and_true, if_true]
  by_cases small : projectionBytes (envelope state) ≤ byteBudget
  · by_cases enough : projectionBytes (mandatorySection state) ≤ byteBudget
    · simp only [small, enough, decide_true, if_true]
      rfl
    · simp only [small, enough, decide_true, decide_false, if_true, if_false]
      rfl
  · simp only [small, decide_false, if_false]
    rfl

section Outcomes
variable {state : ConversationState} {byteBudget : Nat}
  (admissible : MIN_CONTEXT_BYTES ≤ byteBudget ∧ byteBudget ≤ MAX_CONTEXT_BYTES)
  (bounded : (activeWorkers state).length ≤ MAX_ACTIVE_WORKERS_PER_GOAL)

include admissible bounded

theorem projection_overflows_iff : (∃ budget required, projectConversationContext state byteBudget =
        .error (.contextOverflow budget required)) ↔
      projectionBytes (envelope state) ≤ byteBudget ∧
        byteBudget < projectionBytes (mandatorySection state) := by
  rw [projectConversationContext_eq admissible bounded]
  split
  · next small =>
    split
    · next enough =>
      constructor
      · rintro ⟨_, _, failed⟩
        cases failed
      · rintro ⟨_, exceeds⟩
        omega
    · next exceeds =>
      constructor
      · intro _
        exact ⟨small, Nat.lt_of_not_le exceeds⟩
      · intro _
        exact ⟨byteBudget, _, rfl⟩
  · next large =>
    constructor
    · rintro ⟨_, _, failed⟩
      cases failed
    · rintro ⟨small, _⟩
      exact absurd small large

theorem projection_error {error : ProjectionError}
    (failed : projectConversationContext state byteBudget = .error error) :
    error = .contextOverflow byteBudget (projectionBytes (mandatorySection state)) ∨
      byteBudget < projectionBytes (envelope state) ∧
        error = .failed "context byte budget is too small for the kernel envelope" := by
  rw [projectConversationContext_eq admissible bounded] at failed
  split at failed
  · split at failed
    · cases failed
    · cases failed
      exact Or.inl rfl
  · next large =>
    cases failed
    exact Or.inr ⟨Nat.lt_of_not_le large, rfl⟩

theorem projection_returned {projected : ProjectedContext}
    (returned : projectConversationContext state byteBudget = .ok projected) :
    projected.serialized = projected.value.toValue.text ∧
      projected.byteLength = utf8Bytes projected.serialized ∧
      projected.byteLength ≤ byteBudget ∧ HoldsControlState state projected.value ∧
      PacksOptional state byteBudget projected.value := by
  rw [projectConversationContext_eq admissible bounded] at returned
  split at returned
  · split at returned
    · next enough =>
      cases returned
      obtain ⟨facts, episodes, added, packs, fits⟩ := addOptional_packs byteBudget
        (mandatorySection state) state rfl enough
      dsimp only
      rw [added]
      exact ⟨rfl, rfl, fits, (mandatorySection_complete state).extended facts episodes, packs⟩
    · cases returned
  · cases returned

end Outcomes

/-- A fact is asserted, a goal activated, a worker spawned for it and a summary recorded. -/
def summarizedCall : List ConversationEventDraft :=
  [⟨"event-0", 0, .factAsserted "plan" (.string "basic") 1 ⟨.systemOfRecord, "crm", "r1", 0⟩⟩,
    openingDraft, ⟨"event-2", 0, .workerSpawned ⟨"w", "g", "Price", 0, [⟨"plan", 1⟩]⟩⟩,
    ⟨"event-3", 0, .advisoryRecorded "s" "Upset"⟩]

/-- What a projection shows of facts, workers and summaries. -/
def shownTexts (projection : ContextProjection) : List (String × String) × List String :=
  (projection.currentGoalWorkers.map fun worker => (worker.workerId, worker.purpose),
    projection.authoritativeFacts.map ProjectedFact.key ++
      projection.recentAdvisoryEpisodes.map ProjectedEpisode.text)

end CallCenter.ConversationContexts
