import CallCenter.ActionProcesses
import CallCenter.LedgerSafety

/-!
# What was sent is what the receipt records

A process sends its own tool and arguments under the receipt that its reservation
handed it. A fresh receipt records exactly these. A receipt that is taken over was
found by a repeated identity, which compares the arguments, or by its deduplication
key. The keys of `per_arguments` and `per_call_arguments` fix the arguments and those
of `none` fix the receipt id, but the keys of `per_step` and `per_call` do not look at
the arguments: there a request may take over the receipt of other arguments.

`OwnArguments` excludes exactly that. Under it every effect of every interleaving is
recorded by its receipt.
-/

namespace CallCenter.EffectEvidence

open JsonValues FlowDefinition Timestamps FlowState FlowActions FlowTransitions FlowLedger
  LedgerTransitions LedgerAgreement CanonicalText ActionProcesses ListRewrites KeyedTables

/-- The fields that a deduplication key hashes. -/
def materialFields (scope : CapabilityScope) (tool : String) (mode : Idempotency)
    (argumentsHash receiptId : String) : List (String × Value) :=
  match idempotencyMaterial scope tool mode argumentsHash receiptId with
  | .object fields => normalFields fields
  | _ => []

section Keys

variable {sha256 : String → String} {scope otherScope : CapabilityScope}
  {tool otherTool : String} {mode otherMode : Idempotency}
  {argumentsHash otherHash receiptId otherId key : String}

theorem tool_mem_material (name : String) :
    ("tool", .string name) ∈ materialFields scope tool mode argumentsHash receiptId ↔
      name = tool := by
  cases mode <;> simp [materialFields, idempotencyMaterial, normalFields, Value.normal]

theorem argumentsHash_mem_material (hash : String) :
    ("argumentsHash", .string hash) ∈ materialFields scope tool mode argumentsHash receiptId ↔
      (mode = .perArguments ∨ mode = .perCallArguments) ∧ hash = argumentsHash := by
  cases mode <;> simp [materialFields, idempotencyMaterial, normalFields, Value.normal]

theorem receiptId_mem_material (id : String) :
    ("receiptId", .string id) ∈ materialFields scope tool mode argumentsHash receiptId ↔
      mode = .none ∧ id = receiptId := by
  cases mode <;> simp [materialFields, idempotencyMaterial, normalFields, Value.normal]

/-- Equal keys hash the same fields. -/
theorem same_material (collisionFree : CollisionFree sha256)
    (first : actionIdempotencyKey sha256 scope tool mode argumentsHash receiptId = .ok key)
    (second : actionIdempotencyKey sha256 otherScope otherTool otherMode otherHash otherId =
      .ok key) (field : String × Value) :
    field ∈ materialFields scope tool mode argumentsHash receiptId ↔
      field ∈ materialFields otherScope otherTool otherMode otherHash otherId := by
  have same := hashFlowValue_injective collisionFree first second
  have sorted (scope : CapabilityScope) (tool : String) (mode : Idempotency)
      (argumentsHash receiptId : String) :
      (idempotencyMaterial scope tool mode argumentsHash receiptId).normal =
        .object (sortFields (materialFields scope tool mode argumentsHash receiptId)) := by
    cases mode <;> rw [materialFields, idempotencyMaterial, Value.normal]
  rw [sorted, sorted] at same
  have listed : sortFields (materialFields scope tool mode argumentsHash receiptId) =
      sortFields (materialFields otherScope otherTool otherMode otherHash otherId) :=
    Value.object.inj same
  have members (fields : List (String × Value)) : field ∈ sortFields fields ↔ field ∈ fields :=
    (List.perm_insertionSort _ fields).mem_iff
  rw [← members, listed, members]

/-- A key fixes the tool; it fixes the arguments or the receipt id where its mode asks. -/
theorem key_determines (collisionFree : CollisionFree sha256)
    (first : actionIdempotencyKey sha256 scope tool mode argumentsHash receiptId = .ok key)
    (second : actionIdempotencyKey sha256 otherScope otherTool otherMode otherHash otherId =
      .ok key) :
    tool = otherTool ∧
      (mode = .perArguments ∨ mode = .perCallArguments → argumentsHash = otherHash) ∧
      (mode = .none → receiptId = otherId) := by
  have same := same_material collisionFree first second
  refine ⟨?_, ?_, ?_⟩
  · exact (tool_mem_material tool).mp ((same _).mp ((tool_mem_material tool).mpr rfl))
  · intro fixed
    exact ((argumentsHash_mem_material argumentsHash).mp
      ((same _).mp ((argumentsHash_mem_material argumentsHash).mpr ⟨fixed, rfl⟩))).2
  · intro unkeyed
    exact ((receiptId_mem_material receiptId).mp
      ((same _).mp ((receiptId_mem_material receiptId).mpr ⟨unkeyed, rfl⟩))).2

end Keys

/-- The receipt's key was derived from the receipt itself. -/
def KeyDerived (sha256 : String → String) (receipt : FlowActionReceipt) : Prop :=
  ∃ scope mode, actionIdempotencyKey sha256 scope receipt.tool mode receipt.argumentsHash
    receipt.id = .ok receipt.idempotencyKey

/-- A receipt of the state records the tool and the arguments. -/
def Recorded (sha256 : String → String) (state : FlowExecutionState) (receiptId tool : String)
    (arguments : List (String × Value)) : Prop :=
  ∃ receipt ∈ state.actionReceipts, receipt.id = receiptId ∧ receipt.tool = tool ∧
    hashFlowValue sha256 (.object arguments) = .ok receipt.argumentsHash

/-- A request under a mode whose key ignores the arguments meets no undispatched receipt
with its key, an expired lease and other arguments. -/
def OwnArguments (sha256 : String → String) (flow : AgentFlow) (db : Database)
    (args : FlowActionReservationArgs) (clock : ClockReading) : Prop :=
  (governingMode flow db.state args.tool = .perStep ∨
    governingMode flow db.state args.tool = .perCall) →
  ∀ receipt ∈ db.state.actionReceipts, receipt.status = .reserved →
    (governingMode flow db.state args.tool = .perCall ∨
      receipt.capabilityEpoch = db.state.capabilityEpoch) →
    (actionIdempotencyKey sha256 (flowCapabilityScope db.state) args.tool
      (governingMode flow db.state args.tool) receipt.argumentsHash receipt.id).toOption =
        some receipt.idempotencyKey →
    ∀ row ∈ db.ledger, row.id = canonicalUuid receipt.id → row.dispatchStartedAt = none →
      row.leaseExpired clock = true →
      (hashFlowValue sha256 (.object args.arguments)).toOption = some receipt.argumentsHash

instance decidableOwnArguments (sha256 : String → String) (flow : AgentFlow) (db : Database)
    (args : FlowActionReservationArgs) (clock : ClockReading) :
    Decidable (OwnArguments sha256 flow db args clock) := by
  unfold OwnArguments
  infer_instance

/-- The condition on one event of the system. -/
def OwnRequests (sha256 : String → String) (flow : AgentFlow) (system : System) : Event → Prop
  | .reserve _ args clock _ => OwnArguments sha256 flow system.db args clock
  | _ => True

instance decidableOwnRequests (sha256 : String → String) (flow : AgentFlow) (system : System)
    (event : Event) : Decidable (OwnRequests sha256 flow system event) := by
  cases event <;> unfold OwnRequests <;> infer_instance

section Reservations

variable {sha256 : String → String} {flow : AgentFlow} {db next : Database}
  {clock : ClockReading}

/-- The hash in the evidence of the arguments is their hash. -/
theorem hash_of_evidence {value : Value} {hash : String} {bytes : Nat}
    (evidence : valueEvidence sha256 value = .ok (hash, bytes)) :
    hashFlowValue sha256 value = .ok hash := by
  unfold valueEvidence at evidence
  split at evidence
  · cases evidence
  · rename_i known hashed
    obtain ⟨_, _, same⟩ := map_ok_iff.mp evidence
    cases same
    exact hashed

/-- The keys of these two modes do not look at the arguments or the receipt. -/
theorem key_ignores_arguments {scope : CapabilityScope} {tool : String} {mode : Idempotency}
    (coarse : mode = .perStep ∨ mode = .perCall)
    (argumentsHash receiptId otherHash otherId : String) :
    actionIdempotencyKey sha256 scope tool mode argumentsHash receiptId =
      actionIdempotencyKey sha256 scope tool mode otherHash otherId := by
  rcases coarse with rfl | rfl <;> rfl

variable {args : FlowActionReservationArgs}

/-- A taken-over receipt was reserved for the same tool and arguments. -/
theorem replayed_own_arguments (collisionFree : CollisionFree sha256)
    (derived : ∀ receipt ∈ db.state.actionReceipts, KeyDerived sha256 receipt)
    (own : OwnArguments sha256 flow db args clock) {reservation : FlowActionReservation}
    {hash : String} {row : LedgerRow}
    (replayed : ReservationReplayed sha256 flow db.state args.toReserveArgs reservation hash)
    (reserved : reservation.receipt.status = .reserved)
    (found : rowOf db.ledger reservation.receipt.id = some row) (expired : row.leaseExpired clock)
    (undispatched : row.dispatchStartedAt = none) :
    reservation.receipt.tool = args.tool ∧
      hashFlowValue sha256 (.object args.arguments) = .ok reservation.receipt.argumentsHash := by
  obtain ⟨bytes, evidence⟩ := replayed.evidence
  have hashed := hash_of_evidence evidence
  rcases replayed.identified with identical | shares
  · simp only [semanticIdentityMatches, Bool.and_eq_true, decide_eq_true_eq] at identical
    exact ⟨identical.1.1, by rw [identical.1.2]; exact hashed⟩
  obtain ⟨scope, otherMode, keyed⟩ := derived _ replayed.known
  obtain ⟨sameTool, sameHash, sameId⟩ := key_determines collisionFree shares.key keyed
  refine ⟨sameTool.symm, ?_⟩
  -- The mode decides what the shared key says about the arguments.
  by_cases coarse : governingMode flow db.state args.tool = .perStep ∨
      governingMode flow db.state args.tool = .perCall
  · obtain ⟨known, named⟩ := lookupRow_some found
    have inScope : governingMode flow db.state args.tool = .perCall ∨
        reservation.receipt.capabilityEpoch = db.state.capabilityEpoch := by
      rcases shares.inScope with wide | sameEpoch
      · rcases coarse with perStep | perCall
        · rw [perStep] at wide
          cases wide
        · exact Or.inl perCall
      · exact Or.inr sameEpoch
    have sharedKey := shares.key
    rw [key_ignores_arguments coarse _ _ reservation.receipt.argumentsHash
      reservation.receipt.id] at sharedKey
    have same := own coarse _ replayed.known reserved inScope (by rw [sharedKey]; rfl) row known
      named undispatched expired
    rw [hashed] at same ⊢
    exact congrArg Except.ok (Option.some.inj same)
  · cases mode : governingMode flow db.state args.tool with
    | perStep => exact absurd (Or.inl mode) coarse
    | perCall => exact absurd (Or.inr mode) coarse
    | perArguments =>
      rw [hashed, sameHash (Or.inl mode)]
    | perCallArguments =>
      rw [hashed, sameHash (Or.inr mode)]
    | none => exact absurd (sameId mode).symm (shares.freshId _ replayed.known)

/-- A reservation to execute is recorded for the tool and arguments of the request. -/
theorem execution_recorded (collisionFree : CollisionFree sha256)
    (derived : ∀ receipt ∈ db.state.actionReceipts, KeyDerived sha256 receipt)
    (own : OwnArguments sha256 flow db args clock) {now : Instant}
    {reservation : AtomicActionReservation}
    (transition : LedgerTransition sha256 flow db clock (.reserve args now) next
      (.reservation (.ok reservation))) (executes : reservation.execute) :
    Recorded sha256 next.state reservation.receipt.id args.tool args.arguments := by
  cases transition with
  | unchanged idle | ownerExpired held reserved found dispatched idle =>
    rw [permits, executes] at idle
    cases idle
  | reserved admitted =>
    exact ⟨_, List.mem_append_right _ List.mem_cons_self, rfl, rfl,
      hash_of_evidence admitted.evidence⟩
  | reclaimed replayed reserved found expired undispatched =>
    obtain ⟨sameTool, sameHash⟩ := replayed_own_arguments collisionFree derived own
      replayed reserved found expired undispatched
    exact ⟨_, replayed.known, rfl, sameTool, sameHash⟩

end Reservations

section Databases

variable {sha256 : String → String} {flow : AgentFlow} {db next : Database}

/-- What every later database keeps of the evidence. -/
structure KeepsEvidence (sha256 : String → String) (db next : Database) : Prop where
  mirrored : Mirrored next
  derived : (∀ receipt ∈ db.state.actionReceipts, KeyDerived sha256 receipt) →
    ∀ receipt ∈ next.state.actionReceipts, KeyDerived sha256 receipt
  recorded : ∀ receiptId tool arguments, Recorded sha256 db.state receiptId tool arguments →
    Recorded sha256 next.state receiptId tool arguments

theorem transition_keeps_evidence {clock : ClockReading} {transaction : Transaction}
    {answer : Answer} (mirrored : Mirrored db)
    (transition : LedgerTransition sha256 flow db clock transaction next answer) :
    KeepsEvidence sha256 db next := by
  refine ⟨transition_mirrored mirrored transition, ?_, ?_⟩
  · intro derived receipt member
    rcases ledger_receipts transition with evolved | ⟨args, key, hash, bytes, now, admitted, same⟩
    · obtain ⟨original, known, evolves⟩ := exists_before evolved member
      obtain ⟨scope, mode, keyed⟩ := derived original known
      refine ⟨scope, mode, ?_⟩
      rw [evolves.tool, evolves.argumentsHash, evolves.id, evolves.key]
      exact keyed
    · rw [same] at member
      rcases List.mem_append.mp member with known | fresh
      · exact derived receipt known
      · rw [List.mem_singleton.mp fresh]
        exact ⟨_, _, admitted.key⟩
  · rintro receiptId tool arguments ⟨receipt, known, named, ofTool, hashed⟩
    rcases ledger_receipts transition with evolved | ⟨args, key, hash, bytes, now, admitted, same⟩
    · obtain ⟨later, present, evolves⟩ := exists_after evolved known
      refine ⟨later, present, evolves.id.trans named, evolves.tool.trans ofTool, ?_⟩
      rw [evolves.argumentsHash]
      exact hashed
    · refine ⟨receipt, ?_, named, ofTool, hashed⟩
      rw [same]
      exact List.mem_append_left _ known

theorem serve_keeps_evidence (mirrored : Mirrored db) (request : Request) :
    KeepsEvidence sha256 db (serve sha256 flow db request) := by
  have served : serve sha256 flow db request = db ∨ _ := serve_transition request
  rcases served with kept | ⟨_, _, transition⟩
  · rw [kept]
    exact ⟨mirrored, id, fun _ _ _ => id⟩
  · exact transition_keeps_evidence mirrored transition

end Databases

/-- Every process and every effect is recorded by its receipt. -/
structure Sound (sha256 : String → String) (system : System) : Prop where
  mirrored : Mirrored system.db
  derived : ∀ receipt ∈ system.db.state.actionReceipts, KeyDerived sha256 receipt
  processes : ∀ pid process, system.processes pid = some process →
    Recorded sha256 system.db.state process.receipt.id process.args.tool process.args.arguments
  effects : ∀ effect ∈ system.effects,
    Recorded sha256 system.db.state effect.receiptId effect.tool effect.arguments

section Systems

variable {sha256 : String → String} {flow : AgentFlow} {system : System}

theorem newSystem_sound (call : Option CallRow) : Sound sha256 (newSystem call) where
  mirrored := newCall_mirrored call
  derived := by simp [newSystem, newCall, createFlowExecutionState]
  processes := by simp [newSystem]
  effects := by simp [newSystem]

section

variable (sound : Sound sha256 system)
include sound

/-- A later database keeps what is recorded. -/
theorem Sound.withDatabase {db : Database} (keeps : KeepsEvidence sha256 system.db db) :
    Sound sha256 { system with db } where
  mirrored := keeps.mirrored
  derived := keeps.derived sound.derived
  processes := fun pid process running => keeps.recorded _ _ _ (sound.processes pid process running)
  effects := fun effect member => keeps.recorded _ _ _ (sound.effects effect member)

/-- A process may start when its receipt records it, and end at any time. -/
theorem Sound.setProcess (pid : Nat) {process : Option Process}
    (recorded : ∀ started, process = some started → Recorded sha256 system.db.state
      started.receipt.id started.args.tool started.args.arguments) :
    Sound sha256 (system.setProcess pid process) := by
  refine ⟨sound.mirrored, sound.derived, ?_, sound.effects⟩
  intro other running isRunning
  by_cases own : other = pid
  · simp only [System.setProcess, own, if_true] at isRunning
    exact recorded running isRunning
  · simp only [System.setProcess, own, if_false] at isRunning
    exact sound.processes other running isRunning

theorem Sound.startProcess (pid : Nat) {process : Process}
    (recorded : Recorded sha256 system.db.state process.receipt.id process.args.tool
      process.args.arguments) : Sound sha256 (system.setProcess pid (some process)) := by
  refine sound.setProcess pid ?_
  intro started same
  cases same
  exact recorded

theorem Sound.endProcess (pid : Nat) : Sound sha256 (system.setProcess pid none) :=
  sound.setProcess pid (by simp)

end

theorem reserveEvent_sound (collisionFree : CollisionFree sha256) (sound : Sound sha256 system)
    (pid : Nat) {args : FlowActionReservationArgs} {clock : ClockReading}
    (own : OwnArguments sha256 flow system.db args clock) (now : Instant) :
    Sound sha256 (reserveEvent sha256 flow system pid args clock now) := by
  unfold reserveEvent
  split
  · rename_i db reservation answered
    have transition := respond_transition answered
    have later := sound.withDatabase (transition_keeps_evidence sound.mirrored transition)
    split
    · rename_i executes
      exact later.startProcess pid
        (execution_recorded collisionFree sound.derived own transition executes)
    · exact later
  · rename_i db answer _ answered
    exact sound.withDatabase
      (transition_keeps_evidence sound.mirrored (respond_transition answered))
  · exact sound

theorem permitEvent_sound (sound : Sound sha256 system) {pid : Nat} {process : Process}
    (running : system.processes pid = some process) (clock : ClockReading) :
    Sound sha256 (permitEvent sha256 flow system pid process clock) := by
  have own := sound.processes pid process running
  unfold permitEvent
  split
  · rename_i db update answered
    have keeps := transition_keeps_evidence sound.mirrored (respond_transition answered)
    exact (sound.withDatabase keeps).startProcess pid (keeps.recorded _ _ _ own)
  · rename_i db reason answered
    have keeps := transition_keeps_evidence sound.mirrored (respond_transition answered)
    split
    · exact (sound.withDatabase keeps).endProcess pid
    · exact (sound.withDatabase keeps).startProcess pid (keeps.recorded _ _ _ own)
  · rename_i db answer _ _ answered
    exact (sound.withDatabase
      (transition_keeps_evidence sound.mirrored (respond_transition answered))).endProcess pid
  · exact sound.endProcess pid

/-- Every event keeps the evidence, when requests take over only their own arguments. -/
theorem systemStep_sound (collisionFree : CollisionFree sha256) (system : System) (event : Event)
    (own : OwnRequests sha256 flow system event) (sound : Sound sha256 system) :
    Sound sha256 (systemStep sha256 flow system event) := by
  cases event with
  | reserve pid args clock now =>
    rw [systemStep]
    split
    · exact sound
    · exact reserveEvent_sound collisionFree sound pid own now
  | reject pid _ clock now | settle pid _ _ _ _ clock now =>
    rw [systemStep]
    split
    · split
      · exact (sound.withDatabase (serve_keeps_evidence sound.mirrored _)).endProcess pid
      · exact sound
    · exact sound
  | permit pid clock =>
    rw [systemStep]
    split
    · rename_i process running
      split
      · exact permitEvent_sound sound running clock
      · exact sound
    · exact sound
  | dispatch pid =>
    rw [systemStep]
    split
    · rename_i process running
      split
      · have own := sound.processes pid process running
        have extended : Sound sha256
            { system with effects := system.effects ++ [process.effect] } := by
          refine ⟨sound.mirrored, sound.derived, sound.processes, ?_⟩
          intro effect member
          rcases List.mem_append.mp member with earlier | last
          · exact sound.effects effect earlier
          · rw [List.mem_singleton.mp last]
            exact own
        exact extended.startProcess pid own
      · exact sound
    · exact sound
  | crash pid => exact sound.endProcess pid
  | ambient request => exact sound.withDatabase (serve_keeps_evidence sound.mirrored request)

end Systems

/-- Every effect of every interleaving was sent with the tool and the arguments that its
receipt records, in the embedded state and in the ledger. -/
theorem effects_match_receipts (sha256 : String → String) (collisionFree : CollisionFree sha256)
    (flow : AgentFlow) (call : Option CallRow) (events : List Event)
    (own : Runs.Meets (systemStep sha256 flow) (OwnRequests sha256 flow) (newSystem call) events) :
    ∀ effect ∈ (runSystem sha256 flow call events).effects,
      ∃ receipt ∈ (runSystem sha256 flow call events).db.state.actionReceipts,
        receipt.id = effect.receiptId ∧ receipt.tool = effect.tool ∧
        hashFlowValue sha256 (.object effect.arguments) = .ok receipt.argumentsHash ∧
        (∀ other ∈ (runSystem sha256 flow call events).db.state.actionReceipts,
          other.id = effect.receiptId → other = receipt) ∧
        ∃ row, rowOf (runSystem sha256 flow call events).db.ledger effect.receiptId = some row ∧
          row.tool = receipt.tool ∧ row.argumentsHash = receipt.argumentsHash := by
  have sound : Sound sha256 (runSystem sha256 flow call events) :=
    Runs.run_invariant_meets (Sound sha256) (newSystem_sound call)
      (systemStep_sound collisionFree) events own
  intro effect member
  obtain ⟨receipt, known, named, ofTool, hashed⟩ := sound.effects effect member
  refine ⟨receipt, known, named, ofTool, hashed, ?_, ?_⟩
  · intro other present same
    refine sound.mirrored.same_item agrees_keyed present known ?_
    exact congrArg canonicalUuid (same.trans named.symm)
  · obtain ⟨row, held, agrees⟩ := exists_after sound.mirrored.agree known
    refine ⟨row, ?_, agrees.tool, agrees.argumentsHash⟩
    rw [← named, rowOf, ← agrees.id]
    exact sound.mirrored.distinct.lookupRow_self held

/-- Digests of the texts that the support calls hash. -/
def supportDigest : String → String :=
  tableDigest [("\x7b\"reason\":\"billing\"\x7d",
        "453d644078f7efdedd84291750f98cfb78fc083a12eba6f6262541397bc8b50f"),
      ("\x7b\"reason\":\"refund\"\x7d",
        "cb0ac7d1ecf01b212c97ba532b60fa1d14126a2ef8cf43d7f584835ed2f2044a"),
      ("\x7b\"tool\":\"contact_support\"\x7d",
        "8af8fb8047aa6215aeaea1c1e7429b1854555e43fc38e49b402163d97913f204")]

def firstReceipt : String := "22222222-2222-4222-8222-222222222222"

/-- A first request for support, for billing. -/
def billingRequest : FlowActionReservationArgs where
  receiptId := firstReceipt
  invocationId := "q1w2e3r4t5y6u7i8o9p0a1s2"
  tool := "contact_support"
  arguments := [("reason", .string "billing")]
  capabilityEpoch := 0
  providerInvocationId := some "call-1"
  ownerToken := "11111111-1111-4111-8111-111111111111"
  runtimeDigest := "44136fa355b3678a1146ad16f7e8649e94fb4fc21fe77e8310c060f61caaff8a"

/-- A second request for support, with its own identity and the given reason. -/
def secondRequest (reason : String) : FlowActionReservationArgs where
  receiptId := "44444444-4444-4444-8444-444444444444"
  invocationId := "z1x2c3v4b5n6m7a8s9d0f1g2"
  tool := "contact_support"
  arguments := [("reason", .string reason)]
  capabilityEpoch := 0
  providerInvocationId := some "call-2"
  ownerToken := "33333333-3333-4333-8333-333333333333"
  runtimeDigest := "44136fa355b3678a1146ad16f7e8649e94fb4fc21fe77e8310c060f61caaff8a"

/-- The first process dies before it dispatches; a minute later the second request takes
its receipt over, crosses the boundary and sends. -/
def takeover (reason : String) : List Event :=
  [.reserve 1 billingRequest ⟨0, epoch⟩ epoch, .crash 1,
    .reserve 2 (secondRequest reason) ⟨60000, epoch⟩ epoch, .permit 2 ⟨60000, epoch⟩, .dispatch 2]

/-- What was sent, and what the receipts record. -/
def evidenceOf (system : System) :
    List (String × String × Option String) × List (String × String × Option String) :=
  (system.effects.map fun effect => (effect.receiptId, effect.tool,
      (hashFlowValue supportDigest (.object effect.arguments)).toOption),
    system.db.state.actionReceipts.map fun receipt => (receipt.id, receipt.tool,
      some receipt.argumentsHash))

/-- A refund request is sent under the receipt of the billing request. -/
theorem refund_sent_under_billing_receipt :
    ∃ effect ∈ (runSystem supportDigest FlowValidation.orderFlow LedgerSafety.liveCall
        (takeover "refund")).effects,
      ∃ receipt ∈ (runSystem supportDigest FlowValidation.orderFlow LedgerSafety.liveCall
          (takeover "refund")).db.state.actionReceipts,
        receipt.id = effect.receiptId ∧
        hashFlowValue supportDigest (.object effect.arguments) ≠ .ok receipt.argumentsHash := by
  have evidence : evidenceOf (runSystem supportDigest FlowValidation.orderFlow
      LedgerSafety.liveCall (takeover "refund")) =
      ([(firstReceipt, "contact_support",
          some "cb0ac7d1ecf01b212c97ba532b60fa1d14126a2ef8cf43d7f584835ed2f2044a")],
        [(firstReceipt, "contact_support",
          some "453d644078f7efdedd84291750f98cfb78fc083a12eba6f6262541397bc8b50f")]) := by
    decide +kernel
  obtain ⟨effect, sent, sentAs⟩ := List.mem_map.mp
    (show _ ∈ (evidenceOf _).1 by rw [evidence]; exact List.mem_singleton_self _)
  obtain ⟨receipt, known, recordedAs⟩ := List.mem_map.mp
    (show _ ∈ (evidenceOf _).2 by rw [evidence]; exact List.mem_singleton_self _)
  simp only [Prod.mk.injEq] at sentAs recordedAs
  refine ⟨effect, sent, receipt, known, recordedAs.1.trans sentAs.1.symm, ?_⟩
  intro same
  rw [same, Except.toOption] at sentAs
  exact absurd (sentAs.2.2.symm.trans recordedAs.2.2) (by decide)

/-- A second billing request takes the receipt over and sends what it records. -/
theorem billing_sent_under_own_receipt :
    ∃ effect ∈ (runSystem supportDigest FlowValidation.orderFlow LedgerSafety.liveCall
        (takeover "billing")).effects,
      ∃ receipt ∈ (runSystem supportDigest FlowValidation.orderFlow LedgerSafety.liveCall
          (takeover "billing")).db.state.actionReceipts,
        receipt.id = effect.receiptId ∧
        hashFlowValue supportDigest (.object effect.arguments) = .ok receipt.argumentsHash := by
  have collisionFree : CollisionFree supportDigest := by
    intro left right _ _ same
    exact tableDigest_injective _ (by decide) (by decide) _ _ same
  have sends : (runSystem supportDigest FlowValidation.orderFlow LedgerSafety.liveCall
      (takeover "billing")).effects.length = 1 := by decide +kernel
  obtain ⟨effect, only⟩ := List.length_eq_one_iff.mp sends
  have sent : effect ∈ (runSystem supportDigest FlowValidation.orderFlow LedgerSafety.liveCall
      (takeover "billing")).effects := by
    rw [only]
    exact List.mem_singleton_self _
  obtain ⟨receipt, known, named, _, hashed, _⟩ := effects_match_receipts supportDigest
    collisionFree FlowValidation.orderFlow LedgerSafety.liveCall (takeover "billing")
    (by decide +kernel) effect sent
  exact ⟨effect, sent, receipt, known, named, hashed⟩

end CallCenter.EffectEvidence
