import CallCenter.MissionIdentities

/-!
# How obligations evolve

An obligation is opened by a request, by a template of a successful action, or to
compensate an earlier receipt of a saga. From then on it is satisfied at most once, keeps
its identity, scope and source, and is never removed.
-/

namespace CallCenter.MissionObligations

open FlowState ListRewrites MissionSchema MissionLedger MissionRuntime MissionSettlement
  MissionTransitions MissionIdentities

/-- An open obligation may become satisfied; nothing else happens to it. -/
def Satisfies (before after : MissionObligation) : Prop :=
  after = before ∨
    (before.status = .opened ∧ ∃ revision receiptId, after = satisfiedBy revision receiptId before)

theorem Satisfies.trans {first second third : MissionObligation}
    (one : Satisfies first second) (other : Satisfies second third) : Satisfies first third := by
  obtain rfl | ⟨opened, revision, receiptId, rfl⟩ := one
  · exact other
  · obtain rfl | ⟨reopened, _⟩ := other
    · exact Or.inr ⟨opened, revision, receiptId, rfl⟩
    · cases reopened

theorem satisfies_refl (obligations : List MissionObligation) :
    List.Forall₂ Satisfies obligations obligations :=
  List.forall₂_same.mpr fun _ _ => Or.inl rfl

/-- A map that only satisfies obligations. -/
theorem satisfies_map {change : MissionObligation → MissionObligation}
    (changes : ∀ obligation, Satisfies obligation (change obligation))
    (obligations : List MissionObligation) :
    List.Forall₂ Satisfies obligations (obligations.map change) :=
  List.forall₂_map_right_iff.mpr (List.forall₂_same.mpr fun obligation _ => changes obligation)

variable {sha256 : String → String} {definition : MissionDefinition}
  {state patched : MissionState}

/-- The compensation that an obligation asks for, if any, is declared. -/
def CompensationDeclared (definition : MissionDefinition) (obligation : MissionObligation) :
    Prop :=
  ∀ name, obligation.compensationAction = some name → name ≠ "" →
    ∃ item, capability definition name = .ok item

theorem capability_of_known {name : String} (known : knowsCapability definition name) :
    ∃ item, capability definition name = .ok item := by
  simp only [knowsCapability, List.contains_iff_mem, List.mem_map] at known
  obtain ⟨candidate, member, named⟩ := known
  have found : (definition.capabilities.find? fun other => other.name = name).isSome :=
    List.find?_isSome.mpr ⟨candidate, member, by simpa using named⟩
  obtain ⟨item, located⟩ := Option.isSome_iff_exists.mp found
  exact ⟨item, by rw [capability, located]⟩

/-- The compensation of a saga receipt is the one that its capability declares. -/
theorem sagaCompensation_some {saga : Saga} {prior : MissionReceipt} {name : String}
    (compensated : sagaCompensation definition saga prior = some name) :
    prior.status = .succeeded ∧ ∃ item ∈ definition.capabilities,
      capability definition prior.action = .ok item ∧
      (item.saga.bind Saga.compensationAction).filter (· ≠ "") = some name ∧
      item.saga.map Saga.group = some saga.group := by
  unfold sagaCompensation at compensated
  split at compensated
  · next succeeded =>
    split at compensated
    · cases compensated
    · next priorSaga bound =>
      obtain ⟨item, found, declared⟩ := Option.bind_eq_some_iff.mp bound
      split at compensated
      · next same =>
        refine ⟨succeeded, item, List.mem_of_find?_eq_some found, by rw [capability, found], ?_, ?_⟩
        · rw [declared]
          exact compensated
        · rw [declared, Option.map_some, same]
      · cases compensated
  · cases compensated

/-- The compensations that a failure opens follow the obligations before it. -/
theorem openCompensations_append {saga : Saga} {actionName goalId : String} {revision : Nat}
    (obligations : List MissionObligation) (priors : List MissionReceipt) :
    ∃ opened, openCompensations definition saga actionName goalId revision obligations priors =
        obligations ++ opened ∧
      ∀ obligation ∈ opened, ∃ prior ∈ priors, ∃ name,
        sagaCompensation definition saga prior = some name ∧
        obligation = compensationObligation prior name actionName goalId revision := by
  induction priors generalizing obligations with
  | nil => exact ⟨[], by rw [openCompensations, List.append_nil], by simp⟩
  | cons prior rest ih =>
    have weaken : ∀ opened : List MissionObligation, (∀ obligation ∈ opened, ∃ prior ∈ rest, ∃ name,
          sagaCompensation definition saga prior = some name ∧
          obligation = compensationObligation prior name actionName goalId revision) →
        ∀ obligation ∈ opened, ∃ other ∈ prior :: rest, ∃ name,
          sagaCompensation definition saga other = some name ∧
          obligation = compensationObligation other name actionName goalId revision := by
      intro opened each obligation member
      obtain ⟨other, later, described⟩ := each obligation member
      exact ⟨other, List.mem_cons_of_mem _ later, described⟩
    rw [openCompensations]
    split
    · obtain ⟨opened, equal, each⟩ := ih obligations
      exact ⟨opened, equal, weaken opened each⟩
    · next name compensated =>
      dsimp only
      split
      · obtain ⟨opened, equal, each⟩ := ih obligations
        exact ⟨opened, equal, weaken opened each⟩
      · obtain ⟨opened, equal, each⟩ := ih
          (obligations ++ [compensationObligation prior name actionName goalId revision])
        refine ⟨compensationObligation prior name actionName goalId revision :: opened, ?_, ?_⟩
        · rw [equal, List.append_assoc, List.singleton_append]
        · exact List.forall_mem_cons.mpr
            ⟨⟨prior, List.mem_cons_self, name, compensated, rfl⟩, weaken opened each⟩

/-- What the receipt of a settlement opens, after obligations that it may satisfy. -/
theorem settledObligations_opens (accepted : MissionDefinitionSchema definition)
    (item : MissionCapability) (receipt : MissionReceipt) :
    ∃ opened, List.Forall₂ Satisfies (state.obligations ++ opened)
        (settledObligations definition state item receipt) ∧
      ∀ obligation ∈ opened, obligation.status = .opened ∧
        CompensationDeclared definition obligation := by
  have templates : ∃ opened, List.Forall₂ Satisfies (state.obligations ++ opened)
        (satisfyObligations state.obligations item.satisfiesObligationTypes receipt.goalId
            receipt.settledRevision receipt.receiptId
          ++ item.opensObligations.map (templateObligation receipt)) ∧
      ∀ obligation ∈ opened, obligation.status = .opened ∧
        CompensationDeclared definition obligation := by
    refine ⟨item.opensObligations.map (templateObligation receipt), ?_, ?_⟩
    · refine List.rel_append (satisfies_map (fun obligation => ?_) _) (satisfies_refl _)
      split
      · next satisfied => exact Or.inr ⟨satisfied.1, _, _, rfl⟩
      · exact Or.inl rfl
    · intro obligation member
      obtain ⟨template, _, rfl⟩ := List.mem_map.mp member
      refine ⟨rfl, ?_⟩
      intro name impossible
      cases impossible
  unfold settledObligations
  split
  · exact templates
  · exact templates
  all_goals
    split
    · exact ⟨[], by rw [List.append_nil]; exact satisfies_refl _, by simp⟩
    · next saga _ =>
      obtain ⟨opened, equal, each⟩ := openCompensations_append state.obligations state.receipts
      refine ⟨opened, ?_, ?_⟩
      · rw [equal]
        exact satisfies_refl _
      · intro obligation member
        obtain ⟨prior, _, name, compensated, rfl⟩ := each obligation member
        obtain ⟨_, capable, listed, _, declares, _⟩ := sagaCompensation_some compensated
        refine ⟨rfl, ?_⟩
        intro other named _
        cases named
        exact capability_of_known (compensation_known accepted listed declares)

/-- After a transition the obligations are those before it, some of them satisfied,
followed by new open ones. -/
theorem transition_opens {operation : MissionOperation} {rotate : Bool}
    (accepted : MissionDefinitionSchema definition)
    (transition : MissionTransition sha256 definition state operation patched rotate) :
    ∃ opened, List.Forall₂ Satisfies (state.obligations ++ opened) patched.obligations ∧
      ∀ obligation ∈ opened, obligation.status = .opened ∧
        CompensationDeclared definition obligation := by
  have unchanged : ∃ opened, List.Forall₂ Satisfies (state.obligations ++ opened)
        state.obligations ∧
      ∀ obligation ∈ opened, obligation.status = .opened ∧
        CompensationDeclared definition obligation :=
    ⟨[], by rw [List.append_nil]; exact satisfies_refl _, by simp⟩
  cases transition with
  | obligationOpened input compensable =>
    refine ⟨[newObligation state input], ?_, ?_⟩
    · exact satisfies_refl _
    · intro obligation member
      rw [List.mem_singleton.mp member]
      refine ⟨rfl, ?_⟩
      intro name named present
      have given : input.compensationAction = some name := named
      simp only [requireKnown, given, Option.filter_some, present, ne_eq, not_false_eq_true,
        decide_true, if_true, map_ok_iff] at compensable
      obtain ⟨item, declared, _⟩ := compensable
      exact ⟨item, declared⟩
  | actionSettled input proposal item obligations receipts found authorized focused current
      identified unused declared settled =>
    obtain ⟨opened, related, each⟩ := settledObligations_opens accepted item
      (newReceipt sha256 state proposal input)
    rcases settlement_cases settled with ⟨_, rfl, _⟩ | ⟨_, _, _, _, rfl, _, _⟩
    · exact ⟨opened, related, each⟩
    · refine ⟨opened, forall₂_comp ?_ related (satisfies_map (fun obligation => ?_) _), each⟩
      · intro _ _ _ first second
        exact first.trans second
      split
      · next closed => exact Or.inr ⟨closed.1, _, _, rfl⟩
      · exact Or.inl rfl
  | _ => exact unchanged

end CallCenter.MissionObligations
