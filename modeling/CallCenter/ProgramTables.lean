import CallCenter.ProgramLogs
import CallCenter.IndexedTables

/-!
# Tables of a conversation program

Every table of a reachable state stores each record under its own identity. The projection
lists the records of these tables in the order of their identities, so a search in the
projection reads the table.
-/

namespace CallCenter.ProgramTables

open ObjectFields Replays KeyedTables IndexedTables ProgramEvents ProgramReducer
open ProgramTransitions

/-- All tables are indexed by the identities of their records. -/
structure TablesIndexed (state : MutableProjection) : Prop where
  facts : Indexed ProgramFact.key state.facts
  goals : Indexed ProgramGoal.goalId state.goals
  checkpoints : Indexed (·.goalId) state.flowCheckpoints
  obligations : Indexed (·.obligationId) state.obligations
  reservations : Indexed (·.reservationId) state.reservations
  receipts : Indexed (·.receiptId) state.receipts
  workers : Indexed ProgramWorker.workerId state.workers
  deliveries : Indexed ProgramWorkerDelivery.deliveryId state.deliveries
  audibility : Indexed MutableAudibility.responseId state.audibility

section Steps
variable {state next : MutableProjection} {sequence expectedRevision : Nat}

section

variable (indexed : TablesIndexed state)
include indexed

theorem TablesIndexed.revoked : TablesIndexed (revokeReservedActions state) :=
  { indexed with
    reservations := indexed.reservations.mapValues fun reservation => by
      unfold revoke
      split <;> rfl }

theorem TablesIndexed.withdrawn : TablesIndexed (invalidateCapabilityFrontier state) :=
  { indexed.revoked with }

theorem TablesIndexed.mutated : TablesIndexed (invalidateActiveFrontierForFactMutation state) := by
  rcases invalidateActive_cases state with ⟨-, changed⟩ | ⟨-, unchanged⟩
  · rw [changed]
    exact indexed.withdrawn
  · rw [unchanged]
    exact indexed

theorem TablesIndexed.suspended {goalId : String} {goals : List (String × ProgramGoal)}
    (returned : suspendPrevious state goalId = .ok goals) :
    Indexed ProgramGoal.goalId goals := by
  unfold suspendPrevious at returned
  split at returned
  · cases returned
    exact indexed.goals
  · next previousId _ =>
    split at returned
    · cases returned
    · next previous found =>
      cases returned
      exact indexed.goals.setField ((indexed.goals.lookup_iff previousId previous).mp found).2

theorem TablesIndexed.delivered (delivery : WorkerDelivery) :
    Indexed ProgramWorker.workerId (workersAfter state delivery) := by
  unfold workersAfter
  split
  · exact indexed.workers
  · next worker found =>
    exact indexed.workers.setField ((indexed.workers.lookup_iff delivery.workerId worker).mp found).2

end

/-- Every payload keeps all tables indexed. -/
theorem payload_indexed {payload : ConversationProgramEventPayload}
    (applies : PayloadApplies state sequence expectedRevision payload next)
    (indexed : TablesIndexed state) : TablesIndexed next := by
  cases applies with
  | factAsserted =>
    exact TablesIndexed.mutated { indexed with facts := indexed.facts.setField rfl }
  | factCorrected key =>
    exact TablesIndexed.mutated { indexed with
        facts := indexed.facts.setField rfl
        workers := indexed.workers.mapValues fun worker => by
          unfold supersede
          split <;> rfl }
  | goalOpened =>
    exact { indexed with goals := indexed.goals.setField rfl }
  | goalFocused goalId target goals found _ suspended =>
    have named := ((indexed.goals.lookup_iff goalId target).mp found).2
    exact TablesIndexed.withdrawn
      { indexed with goals := (indexed.suspended suspended).setField named }
  | goalSuspended goalId reason goal focus | goalCompleted goalId goal focus _ =>
    have named := ((indexed.goals.lookup_iff goalId goal).mp focus.found).2
    exact TablesIndexed.withdrawn { indexed with goals := indexed.goals.setField named }
  | flowCheckpointRecorded =>
    exact { indexed with checkpoints := indexed.checkpoints.setField rfl }
  | obligationOpened =>
    exact { indexed with obligations := indexed.obligations.setField rfl }
  | obligationSettled obligationId disposition evidenceSha256 obligation found =>
    have named := ((indexed.obligations.lookup_iff obligationId obligation).mp found).2
    exact { indexed with obligations := indexed.obligations.setField named }
  | capabilityEpochAdvanced =>
    exact { indexed.revoked with }
  | actionReserved =>
    exact { indexed with reservations := indexed.reservations.setField rfl }
  | actionReceiptRecorded receipt reservation _ found =>
    have named := ((indexed.reservations.lookup_iff receipt.reservationId reservation).mp found).2
    exact { indexed with
      reservations := indexed.reservations.setField named
      receipts := indexed.receipts.setField rfl }
  | workerSpawned =>
    exact { indexed with workers := indexed.workers.setField rfl }
  | workerDeliveryRecorded delivery =>
    exact { indexed with
      deliveries := indexed.deliveries.setField rfl
      workers := indexed.delivered delivery }
  | workerCancelled workerId reason worker found =>
    have named := ((indexed.workers.lookup_iff workerId worker).mp found).2
    exact { indexed with workers := indexed.workers.setField named }
  | audibilityResponseRegistered =>
    exact { indexed with audibility := indexed.audibility.setField rfl }
  | audibilityReleasedThrough responseId throughMs evidenceSha256 response playing _
  | audibilityHeardThrough responseId throughMs evidenceSha256 response playing _
  | audibilityInterrupted responseId heardThroughMs reason evidenceSha256 response playing =>
    have named := ((indexed.audibility.lookup_iff responseId response).mp playing.found).2
    exact { indexed with audibility := indexed.audibility.setField named }

end Steps

/-- Replayed states have indexed tables. -/
theorem replay_indexed {events : List ConversationProgramEvent} {state : MutableProjection}
    (replayed : replayEvents events = .ok state) : TablesIndexed state := by
  refine replay_invariant TablesIndexed ?_ replayed
    ⟨.empty, .empty, .empty, .empty, .empty, .empty, .empty, .empty, .empty⟩
  intro before event after applied indexed
  exact payload_indexed (applyEvent_applies applied) indexed

/-! ## Reading the projection -/

theorem sortBy_perm {α : Type} (key : α → String) (items : List α) :
    (sortBy key items).Perm items :=
  List.perm_insertionSort _ items

section Projection
variable {log : ConversationProgramLog} {state : MutableProjection}

theorem project_checkpoint (indexed : TablesIndexed state) (goalId : String) :
    lookupRow (·.goalId) (project log state).flowCheckpoints goalId =
      state.flowCheckpoints.lookup goalId :=
  indexed.checkpoints.lookupRow_perm (sortBy_perm _ _) goalId

theorem project_worker (indexed : TablesIndexed state) (workerId : String) :
    lookupRow ProgramWorker.workerId (project log state).workers workerId =
      state.workers.lookup workerId :=
  indexed.workers.lookupRow_perm (sortBy_perm _ _) workerId

end Projection

end CallCenter.ProgramTables
