import CallCenter.LedgerTransitions
import CallCenter.FlowReceipts

/-!
# The two copies of a receipt

The embedded receipts mirror the ledger: at every position the receipt and the row
have the same identity, the same evidence, the same status and the same dispatch
boundary. Every transition keeps the mirror, and changes a row in one of five ways.
-/

namespace CallCenter.LedgerAgreement

open FlowDefinition Timestamps FlowState FlowActions FlowRuntime FlowTransitions FlowReceipts
  FlowLedger LedgerTransitions ListRewrites KeyedTables

theorem lowerHex_lowerHex (c : Char) : lowerHex (lowerHex c) = lowerHex c := by
  have lowered : ∀ code < 71, 65 ≤ code →
      lowerHex (Char.ofNat (code + 32)) = Char.ofNat (code + 32) := by decide
  by_cases upper : 65 ≤ c.toNat ∧ c.toNat ≤ 70
  · have lower : lowerHex c = Char.ofNat (c.toNat + 32) := by rw [lowerHex, if_pos upper]
    rw [lower]
    exact lowered c.toNat (by omega) upper.1
  · have kept : lowerHex c = c := by rw [lowerHex, if_neg upper]
    rw [kept, kept]

@[simp] theorem canonicalUuid_canonicalUuid (text : String) :
    canonicalUuid (canonicalUuid text) = canonicalUuid text := by
  unfold canonicalUuid
  rw [String.toList_ofList, List.map_map]
  congr 2
  exact funext lowerHex_lowerHex

/-- An embedded receipt and its row tell the same story, and the row stores its owner
in canonical form. -/
structure Agrees (receipt : FlowActionReceipt) (row : LedgerRow) : Prop where
  id : row.id = canonicalUuid receipt.id
  tool : row.tool = receipt.tool
  argumentsHash : row.argumentsHash = receipt.argumentsHash
  key : row.idempotencyKey = receipt.idempotencyKey
  status : row.status = receipt.status
  dispatch : row.dispatchStartedAt = receipt.dispatchStartedAt
  owner : canonicalUuid row.ownerToken = row.ownerToken

/-- The embedded receipts mirror the ledger. -/
def Mirrored (db : Database) : Prop :=
  Mirrors Agrees LedgerRow.id db.state.actionReceipts db.ledger

theorem agrees_keyed (receipt : FlowActionReceipt) (row : LedgerRow) (agrees : Agrees receipt row) :
    row.id = (fun receipt : FlowActionReceipt => canonicalUuid receipt.id) receipt :=
  agrees.id

theorem newCall_mirrored (call : Option CallRow) : Mirrored (newCall call) :=
  ⟨.nil, List.nodup_nil⟩

section Located

variable {db : Database} {receiptId : String} {located : Located FlowActionReceipt}
  {row : LedgerRow}

/-- The row found under a held identity is the row of the held receipt. -/
theorem Mirrored.agrees_found (mirrored : Mirrored db) (held : Holds db.state receiptId located)
    (found : rowOf db.ledger receiptId = some row) : Agrees located.current row := by
  refine mirrored.agrees_of_lookup agrees_keyed (current_mem held) ?_
  rw [held.2]
  exact found

/-- Only one row agrees with the held receipt. -/
theorem Mirrored.only_row (mirrored : Mirrored db) (held : Holds db.state receiptId located)
    (found : rowOf db.ledger receiptId = some row) {other : LedgerRow} (known : other ∈ db.ledger)
    (agrees : Agrees located.current other) : other = row := by
  obtain ⟨member, named⟩ := lookupRow_some found
  refine mirrored.distinct.same_row known member ?_
  rw [agrees.id, held.2, named]

/-- Revising a receipt and its row together keeps the mirror. -/
theorem Mirrored.revised (mirrored : Mirrored db) (held : Holds db.state receiptId located)
    (found : rowOf db.ledger receiptId = some row) {replacement : FlowActionReceipt}
    {test : LedgerRow → Bool} {change : LedgerRow → LedgerRow} (passes : test row)
    (keeps : ∀ other, (change other).id = other.id) (agrees : Agrees replacement (change row)) :
    Mirrors Agrees LedgerRow.id (located.overwrite replacement)
      (updateRows db.ledger receiptId test change) := by
  have split : Mirrors Agrees LedgerRow.id (located.overwrite located.current) db.ledger := by
    rw [← held.1]
    exact mirrored
  have named : canonicalUuid receiptId = canonicalUuid located.current.id := by rw [held.2]
  unfold updateRows
  rw [named]
  refine split.overwrite agrees_keyed ?_ keeps ?_
  · intro other known own
    rw [mirrored.only_row held found known own]
    exact passes
  · intro other known own
    rw [mirrored.only_row held found known own]
    exact agrees

end Located

/-- What a navigation leaves alone in a receipt. -/
structure SameStanding (before after : FlowActionReceipt) : Prop where
  id : after.id = before.id
  tool : after.tool = before.tool
  argumentsHash : after.argumentsHash = before.argumentsHash
  key : after.idempotencyKey = before.idempotencyKey
  status : after.status = before.status
  dispatch : after.dispatchStartedAt = before.dispatchStartedAt

theorem SameStanding.refl (receipt : FlowActionReceipt) : SameStanding receipt receipt :=
  ⟨rfl, rfl, rfl, rfl, rfl, rfl⟩

variable {clock : ClockReading} {transaction : Transaction} {row : LedgerRow} {next : Database}

theorem SameStanding.agrees {before after : FlowActionReceipt}
    (same : SameStanding before after) (agrees : Agrees before row) : Agrees after row where
  id := by rw [same.id, agrees.id]
  tool := agrees.tool.trans same.tool.symm
  argumentsHash := agrees.argumentsHash.trans same.argumentsHash.symm
  key := agrees.key.trans same.key.symm
  status := agrees.status.trans same.status.symm
  dispatch := agrees.dispatch.trans same.dispatch.symm
  owner := agrees.owner

theorem compactReceipt_standing {path : String} {before after : FlowActionReceipt}
    (compacted : compactReceipt path before = .ok after) : SameStanding before after := by
  obtain ⟨_, _, _, _, _, _, _, rfl⟩ := compactReceipt_kept compacted
  exact ⟨rfl, rfl, rfl, rfl, rfl, rfl⟩

variable {sha256 : String → String} {flow : AgentFlow}

/-- Navigation never touches the standing of a receipt. -/
theorem navigation_standing {state next : FlowExecutionState} {navigation : Navigation}
    {now : Instant} (moved : Transition sha256 flow state ⟨navigation.operation, now⟩ next) :
    List.Forall₂ SameStanding state.actionReceipts next.actionReceipts := by
  have kept : List.Forall₂ SameStanding state.actionReceipts state.actionReceipts :=
    List.forall₂_same.mpr fun receipt _ => .refl receipt
  cases navigation with
  | selectTopic =>
    cases moved with
    | unchanged | topicSelected => exact kept
  | enterStep =>
    cases moved with
    | unchanged | stepEntered => exact kept
  | complete =>
    cases moved with
    | unchanged => exact kept
    | stepCompleted admitted =>
      have compacted := (compactCompletedStepReceipts_forall₂ admitted.compacted).imp
        fun _ _ compacted => compactReceipt_standing compacted
      unfold completedState
      split <;> exact compacted
  | rotate =>
    cases moved with
    | unchanged | rotated => exact kept

/-- Recovery maps the receipts, whether or not any of them is stale. -/
theorem markStale_receipts (state : FlowExecutionState) (ids : List String) (now : Instant) :
    (markStaleDispatchedActionsIndeterminate state ids now).actionReceipts =
      state.actionReceipts.map fun receipt => recoveredReceipt ids receipt now := by
  unfold markStaleDispatchedActionsIndeterminate
  split
  · rfl
  · rename_i fresh
    refine ((List.map_congr_left ?_).trans (List.map_id _)).symm
    intro receipt member
    rw [recoveredReceipt, if_neg]
    · rfl
    · intro stale
      exact fresh (List.any_eq_true.mpr ⟨receipt, member, stale⟩)

/-- The rows that recovery touches. -/
def isRecovered (ids : List String) (row : LedgerRow) : Bool :=
  ids.contains row.id && decide (row.status = .reserved)

variable {db : Database}

/-- Recovery touches a row exactly when it touches its receipt. Identities of the ledger
are canonical, and an embedded identity that is not canonical stops the recovery. -/
theorem isRecovered_iff {ids : List String} (mirrored : Mirrored db)
    (stale : ids = (db.ledger.filter (isStaleRow clock)).map LedgerRow.id)
    (embedded : ∀ id ∈ ids, recoverable db.state id = true) {receipt : FlowActionReceipt}
    (member : receipt ∈ db.state.actionReceipts) (known : row ∈ db.ledger)
    (agrees : Agrees receipt row) :
    (isRecovered ids row = true → row.dispatchStartedAt.isSome = true) ∧
      isRecovered ids row = isStaleDispatch ids receipt := by
  have staleRow : ∀ id ∈ ids, ∃ other ∈ db.ledger, isStaleRow clock other = true ∧ other.id = id := by
    intro id listed
    rw [stale] at listed
    obtain ⟨other, kept, rfl⟩ := List.mem_map.mp listed
    exact ⟨other, (List.mem_filter.mp kept).1, (List.mem_filter.mp kept).2, rfl⟩
  have canonical : ∀ other ∈ db.ledger, canonicalUuid other.id = other.id := by
    intro other present
    obtain ⟨own, _, ownAgrees⟩ := exists_before mirrored.agree present
    rw [ownAgrees.id, canonicalUuid_canonicalUuid]
  have dispatched : row.id ∈ ids → row.dispatchStartedAt.isSome = true := by
    intro listed
    obtain ⟨other, present, isStale, same⟩ := staleRow row.id listed
    have equal : other = row := mirrored.distinct.same_row present known same
    rw [equal] at isStale
    simp only [isStaleRow, Bool.and_eq_true] at isStale
    exact isStale.1.2
  have sameIdentity : row.id ∈ ids ↔ receipt.id ∈ ids := by
    constructor
    · intro listed
      have found := embedded row.id listed
      simp only [recoverable, Option.any_eq_true] at found
      obtain ⟨other, first, _⟩ := found
      have otherId : other.id = row.id := by simpa using List.find?_some first
      have equal : other = receipt := by
        refine mirrored.same_item agrees_keyed (List.mem_of_find?_eq_some first) member ?_
        show canonicalUuid other.id = canonicalUuid receipt.id
        rw [otherId, canonical row known, agrees.id]
      rw [← equal, otherId]
      exact listed
    · intro listed
      obtain ⟨other, present, _, same⟩ := staleRow receipt.id listed
      have own : row.id = receipt.id := by
        rw [agrees.id, ← same, canonical other present]
      rw [own]
      exact listed
  constructor
  · intro recovered
    simp only [isRecovered, Bool.and_eq_true, List.contains_iff_mem] at recovered
    exact dispatched recovered.1
  · apply Bool.eq_iff_iff.mpr
    simp only [isRecovered, isStaleDispatch, Bool.and_eq_true, List.contains_iff_mem,
      decide_eq_true_eq, agrees.status, sameIdentity]
    constructor
    · rintro ⟨listed, reserved⟩
      refine ⟨⟨listed, reserved⟩, ?_⟩
      rw [← agrees.dispatch]
      exact dispatched (sameIdentity.mpr listed)
    · rintro ⟨recovered, _⟩
      exact recovered

variable {answer : Answer}

/-- Every transition keeps the mirror. -/
theorem transition_mirrored (mirrored : Mirrored db)
    (transition : LedgerTransition sha256 flow db clock transaction next answer) :
    Mirrored next := by
  cases transition with
  | unchanged | callChanged => exact mirrored
  | navigated moved =>
    exact mirrored.items_rewritten (fun _ _ _ same agrees => same.agrees agrees)
      (navigation_standing moved)
  | reserved admitted absent =>
    exact mirrored.append ⟨rfl, rfl, rfl, rfl, rfl, rfl, canonicalUuid_canonicalUuid _⟩ absent
  | reclaimed =>
    -- Only the owner and its lease change, and no receipt knows them.
    refine mirrored.rows_rewritten ?_ ?_ (updateWhere_rows _ _ _ _ _)
    · rintro receipt old updated (rfl | ⟨_, _, _, rfl⟩) agrees
      · exact agrees
      · exact { agrees with owner := canonicalUuid_canonicalUuid _ }
    · rintro old updated (rfl | ⟨_, _, _, rfl⟩)
      · rfl
      · rfl
  | ownerExpired held reserved found =>
    have agrees := mirrored.agrees_found held found
    refine mirrored.revised held found ?_ (fun _ => rfl) ?_
    · simpa [agrees.status] using reserved
    · exact { agrees with status := rfl }
  | @dispatched args row located held reserved undispatched found owner leased updated =>
    have agrees := mirrored.agrees_found held found
    refine mirrored.revised held found ?_ (fun _ => rfl) ?_
    · have token : row.ownerToken = canonicalUuid args.ownerToken := by
        rw [← owner, agrees.owner]
      simp [mayDispatch, token, agrees.status, agrees.dispatch, reserved, undispatched]
    · exact { agrees with dispatch := rfl }
  | @settled args now row located evidence answer held reserved found owner delivery =>
    have agrees := mirrored.agrees_found held found
    refine mirrored.revised held found ?_ (fun _ => rfl) ?_
    · have token : row.ownerToken = canonicalUuid args.ownerToken := by
        rw [← owner, agrees.owner]
      simpa using token
    · exact { agrees with status := rfl }
  | @recovered ids stale embedded =>
    show Mirrors Agrees LedgerRow.id
      (markStaleDispatchedActionsIndeterminate db.state ids clock.instant).actionReceipts
      (db.ledger.map fun row =>
        if isRecovered ids row then expiredRow (some clock.instant) row else row)
    rw [markStale_receipts]
    refine Mirrors.map mirrored ?_ ?_
    · intro row
      split <;> rfl
    · intro receipt member row known agrees
      obtain ⟨_, same⟩ := isRecovered_iff mirrored stale embedded member known agrees
      unfold recoveredReceipt
      rw [same]
      split
      · exact { agrees with status := rfl }
      · exact agrees

/-- A transition evolves the embedded receipts in place, or appends a fresh one. -/
theorem ledger_receipts
    (transition : LedgerTransition sha256 flow db clock transaction next answer) :
    List.Forall₂ Evolves db.state.actionReceipts next.state.actionReceipts ∨
    ∃ args key hash bytes now, ReservationAdmitted sha256 flow db.state args key hash bytes now ∧
      next.state.actionReceipts =
        db.state.actionReceipts ++ [newReceipt db.state args key hash bytes now] := by
  have kept : List.Forall₂ Evolves db.state.actionReceipts db.state.actionReceipts :=
    List.forall₂_same.mpr fun receipt _ => .refl receipt
  cases transition with
  | unchanged | callChanged | reclaimed => exact Or.inl kept
  | navigated moved =>
    rcases transition_receipts moved with evolved | ⟨args, key, hash, bytes, now, _, admitted, same⟩
    · exact Or.inl evolved
    · exact Or.inr ⟨args, key, hash, bytes, now, admitted, by rw [same]; rfl⟩
  | reserved admitted => exact Or.inr ⟨_, _, _, _, _, admitted, rfl⟩
  | ownerExpired held reserved =>
    exact Or.inl (overwrite_evolves held (unresolved_evolves (Or.inl reserved) rfl))
  | dispatched held reserved undispatched =>
    exact Or.inl (overwrite_evolves held (dispatchedReceipt_evolves _ undispatched))
  | settled held reserved =>
    exact Or.inl (overwrite_evolves held (unresolved_evolves (Or.inl reserved) rfl))
  | recovered =>
    left
    rw [markStale_receipts]
    refine List.forall₂_map_right_iff.mpr (List.forall₂_same.mpr ?_)
    intro receipt _
    exact recoveredReceipt_evolves _ receipt _

/-- Every request keeps the mirror. -/
theorem serve_mirrored (db : Database) (request : Request) (mirrored : Mirrored db) :
    Mirrored (serve sha256 flow db request) := by
  have served : serve sha256 flow db request = db ∨ _ := serve_transition request
  rcases served with kept | ⟨_, _, transition⟩
  · rw [kept]
    exact mirrored
  · exact transition_mirrored mirrored transition

/-- The five ways in which a transaction treats a row. -/
inductive RowStep (transaction : Transaction) (clock : ClockReading) (row : LedgerRow) :
    LedgerRow → Prop
  | kept : RowStep transaction clock row row
  | reclaimed {args : FlowActionReservationArgs} {now : Instant}
      (asked : transaction = .reserve args now) (reserved : row.status = .reserved)
      (undispatched : row.dispatchStartedAt = none) (expired : row.leaseExpired clock = true) :
      RowStep transaction clock row (reclaimedRow args.ownerToken clock row)
  | ownerExpired (reserved : row.status = .reserved)
      (dispatched : row.dispatchStartedAt.isSome = true) :
      RowStep transaction clock row (expiredRow (some clock.instant) row)
  | dispatched {args : DispatchArgs} (asked : transaction = .markDispatchStarted args)
      (named : row.id = canonicalUuid args.receiptId) (owner : row.ownerToken = args.ownerToken)
      (leased : row.leaseExpired clock = false) (reserved : row.status = .reserved)
      (undispatched : row.dispatchStartedAt = none) :
      RowStep transaction clock row (dispatchedRow (some clock.instant) clock row)
  | settled {args : AtomicSettleArgs} {now : Instant} {receipt : FlowActionReceipt}
      (asked : transaction = .settle args now) (named : row.id = canonicalUuid args.receiptId)
      (owner : row.ownerToken = args.ownerToken) (reserved : row.status = .reserved)
      (delivery : deliveryConflict args row.dispatchStartedAt.isSome = none)
      (outcome : receipt.status = args.status.status) :
      RowStep transaction clock row (settledRow args receipt row)

/-- A transaction treats every row, and inserts at most one: reserved and undispatched. -/
def RowsAdvance (transaction : Transaction) (clock : ClockReading)
    (before after : List LedgerRow) : Prop :=
  List.Forall₂ (RowStep transaction clock) before after ∨
    ∃ row, after = before ++ [row] ∧ row.status = .reserved ∧ row.dispatchStartedAt = none

theorem rowsAdvance_refl (transaction : Transaction) (clock : ClockReading)
    (ledger : List LedgerRow) : RowsAdvance transaction clock ledger ledger :=
  Or.inl (List.forall₂_same.mpr fun _ _ => .kept)

/-- An update of a found row treats that row and no other. -/
theorem updateRows_advance
    {ledger : List LedgerRow} (distinct : DistinctKeys LedgerRow.id ledger) {receiptId : String}
    (found : rowOf ledger receiptId = some row) {test : LedgerRow → Bool}
    {change : LedgerRow → LedgerRow}
    (treated : test row = true → RowStep transaction clock row (change row)) :
    RowsAdvance transaction clock ledger (updateRows ledger receiptId test change) := by
  left
  refine (updateWhere_rows LedgerRow.id ledger (canonicalUuid receiptId) test change).imp ?_
  rintro old updated (rfl | ⟨member, named, passes, rfl⟩)
  · exact .kept
  · obtain ⟨known, foundName⟩ := lookupRow_some found
    have same : old = row := distinct.same_row member known (named.trans foundName.symm)
    subst same
    exact treated passes

/-- What a transition does to the rows of the ledger. -/
theorem transition_rows (mirrored : Mirrored db)
    (transition : LedgerTransition sha256 flow db clock transaction next answer) :
    RowsAdvance transaction clock db.ledger next.ledger := by
  cases transition with
  | unchanged | callChanged | navigated => exact rowsAdvance_refl _ _ _
  | reserved => exact Or.inr ⟨_, rfl, rfl, rfl⟩
  | reclaimed replayed reserved found expired undispatched =>
    refine updateRows_advance mirrored.distinct found fun passes => ?_
    simp only [mayReclaim, Bool.and_eq_true, decide_eq_true_eq] at passes
    exact .reclaimed rfl passes.1.1 undispatched expired
  | ownerExpired held reserved found dispatched =>
    refine updateRows_advance mirrored.distinct found fun passes => ?_
    exact .ownerExpired (by simpa using passes) dispatched
  | dispatched held reserved undispatched found owner leased =>
    have agrees := mirrored.agrees_found held found
    exact updateRows_advance mirrored.distinct found fun _ =>
      .dispatched rfl (lookupRow_some found).2 owner leased (agrees.status.trans reserved)
        (agrees.dispatch.trans undispatched)
  | settled held reserved found owner delivery =>
    have agrees := mirrored.agrees_found held found
    exact updateRows_advance mirrored.distinct found fun _ =>
      .settled rfl (lookupRow_some found).2 owner (agrees.status.trans reserved) delivery rfl
  | recovered stale embedded =>
    left
    refine List.forall₂_map_right_iff.mpr (List.forall₂_same.mpr ?_)
    intro row known
    split
    · rename_i recovered
      obtain ⟨receipt, member, agrees⟩ := exists_before mirrored.agree known
      have dispatched :=
        (isRecovered_iff mirrored stale embedded member known agrees).1 recovered
      simp only [Bool.and_eq_true, decide_eq_true_eq] at recovered
      exact .ownerExpired recovered.2 dispatched
    · exact .kept

end CallCenter.LedgerAgreement
