import CallCenter.JsonSizes
import CallCenter.PolicyKernel

/-!
# What a confirmation authorises

An allowed decision binds the policy, the action, the arguments and the state of its input.
Where the policy asks for a confirmation, the one presented names the digest over all of
them: a hash that keeps the texts of two evaluations apart makes the same confirmation good
for one proposal only, as long as every number of the arguments is finite. A number that is
not finite prints as `null`, and the confirmation of one is good for the other.
-/

namespace CallCenter.PolicyConfirmations

open JsonValues Guards PolicySchema PolicyKernel
open FlowCapability (naturalOf_ofNat)
open FlowState (isHexDigest)
open IsoInstants (canonicalMillis)

variable {hash : String → String}

variable {nowMs : Int} {decision : PreDispatchDecision} {input : PreDispatchInput} {now : String}
  {item : ActionPolicy} {arguments : List (String × Value)}

/-- Sealing a decision changes only its evidence and its digest. -/
theorem finishDecision_ok {draft : PreDispatchDecision}
    (finished : finishDecision hash draft = .ok decision) :
    ∃ evidence digest,
      decision = { draft with evidenceSha256 := evidence, decisionDigest := digest } := by
  simp only [finishDecision, bind_ok_iff, pure_ok_iff] at finished
  obtain ⟨digest, _, rfl⟩ := finished
  exact ⟨_, digest, rfl⟩

/-- The action needs no confirmation, or a valid one is presented. -/
def Confirmed (item : ActionPolicy) (input : PreDispatchInput)
    (nowMs : Int) (proposalDigest : String) : Prop :=
  match item.confirmation with
  | none => True
  | some policy => ∃ confirmation challengeDigest, input.confirmation = some confirmation ∧
        confirmationValid confirmation policy input nowMs proposalDigest challengeDigest = true

/-- What an allowed decision rests on, and what it binds. -/
structure Allows (hash : String → String) (input : PreDispatchInput)
    (decision : PreDispatchDecision) (policy : ActionPolicySet) (item : ActionPolicy)
    (nowMs : Int) (argumentsHash : String) : Prop where
  evaluated : canonicalMillis input.now = some nowMs
  parsed : parsePolicy input.policy = .ok policy
  governed : actionPolicy policy input.action = some item
  hashedArguments : sha256 hash "hacc/action-policy-arguments/v1" (.object input.arguments) =
    .ok argumentsHash
  hashedPolicy : decision.policyDigest =
    hash ("hacc/action-policy-set/v1" ++ "\n" ++ policy.toValue.text)
  hashedProposal : sha256 hash "hacc/action-policy-proposal/v1"
    (proposalBody decision.policyDigest input.action argumentsHash input.stateHeadSha256
      input.stateRevision input.capabilityEpoch) = .ok decision.proposalDigest
  effect : decision.effect = some item.effect
  action : decision.action = input.action
  stateHead : decision.stateHeadSha256 = input.stateHeadSha256
  revision : decision.stateRevision = input.stateRevision
  epoch : decision.capabilityEpoch = input.capabilityEpoch
  revisionSafe : ∃ number, input.stateRevision = .finite number
  epochSafe : ∃ number, input.capabilityEpoch = .finite number
  confirmed : Confirmed item input nowMs decision.proposalDigest

theorem stateBinding_finite {count : Nat} (bound : stateBinding input = .ok count) :
    (∃ number, input.stateRevision = .finite number) ∧
      ∃ number, input.capabilityEpoch = .finite number := by
  have finite (number : JsNumber) (natural : Nat) (safe : safeNatural number = some natural) :
      ∃ text, number = .finite text := by
    cases number with
    | finite text => exact ⟨text, rfl⟩
    | nan | infinity | negativeInfinity => simp [safeNatural] at safe
  unfold stateBinding at bound
  split at bound
  · next revision epoch prior revisionSafe epochSafe _ =>
    exact ⟨finite _ _ revisionSafe, finite _ _ epochSafe⟩
  · simp at bound

theorem evaluationTime_ok (evaluated : evaluationTime now = .ok nowMs) :
    canonicalMillis now = some nowMs := by
  unfold evaluationTime at evaluated
  split at evaluated
  · next millis canonical =>
    rw [canonical, Except.ok.inj evaluated]
  · simp at evaluated

/-- A confirmed draft is allowed only for a valid confirmation. -/
theorem confirmGoverned_allow {policy : ConfirmationPolicy} {supported : PreDispatchDecision}
    (confirmed : confirmGoverned hash policy input nowMs supported = .ok decision)
    (allowed : decision.decision = .allow) :
    (∃ challenge evidence digest reason, decision = { supported with
        decision := .allow, reason := reason, challengeDigest := challenge,
        evidenceSha256 := evidence, decisionDigest := digest }) ∧
      ∃ confirmation challengeDigest, input.confirmation = some confirmation ∧
        confirmationValid confirmation policy input nowMs supported.proposalDigest
          challengeDigest = true := by
  simp only [confirmGoverned, bind_ok_iff] at confirmed
  obtain ⟨challengeDigest, _, finished⟩ := confirmed
  split at finished
  · next confirmation presented =>
    obtain ⟨evidence, digest, rfl⟩ := finishDecision_ok finished
    obtain ⟨given, valid⟩ := Option.filter_eq_some_iff.mp presented
    exact ⟨⟨_, _, _, _, rfl⟩, confirmation, challengeDigest, given, valid⟩
  · obtain ⟨evidence, digest, rfl⟩ := finishDecision_ok finished
    simp at allowed

/-- The fields that every decision of one input shares with its draft. -/
structure SameBinding (draft decision : PreDispatchDecision) : Prop where
  action : decision.action = draft.action
  effect : decision.effect = draft.effect
  policyDigest : decision.policyDigest = draft.policyDigest
  stateHead : decision.stateHeadSha256 = draft.stateHeadSha256
  revision : decision.stateRevision = draft.stateRevision
  epoch : decision.capabilityEpoch = draft.capabilityEpoch
  proposalDigest : decision.proposalDigest = draft.proposalDigest

/-- A governed action that is allowed is confirmed where its policy asks for it. -/
theorem decideGoverned_allow
    {prior : Nat} {base : PreDispatchDecision} (drafted : base.decision = .deny)
    (decided : decideGoverned hash item input nowMs prior base = .ok decision)
    (allowed : decision.decision = .allow) :
    SameBinding base decision ∧ Confirmed item input nowMs base.proposalDigest := by
  -- Every earlier exit seals the draft, which denies.
  have refused {draft : PreDispatchDecision} (finished : finishDecision hash draft = .ok decision)
      (denies : draft.decision = .deny) : False := by
    obtain ⟨evidence, digest, rfl⟩ := finishDecision_ok finished
    simp [denies] at allowed
  simp only [decideGoverned, bind_ok_iff] at decided
  obtain ⟨denied, _, decided⟩ := decided
  split at decided
  · exact (refused decided drafted).elim
  simp only [bind_ok_iff] at decided
  obtain ⟨required, _, decided⟩ := decided
  split at decided
  · exact (refused decided drafted).elim
  split at decided
  · exact (refused decided drafted).elim
  split at decided
  · next unconfirmed =>
    obtain ⟨evidence, digest, rfl⟩ := finishDecision_ok decided
    exact ⟨⟨rfl, rfl, rfl, rfl, rfl, rfl, rfl⟩, by simp [Confirmed, unconfirmed]⟩
  · next policy needed =>
    obtain ⟨⟨_, _, _, _, rfl⟩, confirmed⟩ := confirmGoverned_allow decided allowed
    exact ⟨⟨rfl, rfl, rfl, rfl, rfl, rfl, rfl⟩, by simpa [Confirmed, needed] using confirmed⟩

/-- The inversion of an allowed evaluation. -/
theorem allows_of_evaluatePreDispatch (evaluated : evaluatePreDispatch hash input = .ok decision)
    (allowed : decision.decision = .allow) :
    ∃ policy item nowMs argumentsHash, Allows hash input decision policy item nowMs argumentsHash := by
  simp only [evaluatePreDispatch, bind_ok_iff] at evaluated
  obtain ⟨prior, bound, nowMs, timed, policy, parsed, policyDigest, hashedPolicy, argumentsHash,
    hashedArguments, proposalDigest, hashedProposal, decided⟩ := evaluated
  rw [sha256_of_isJson hash _ policy.isJson_toValue] at hashedPolicy
  obtain ⟨revisionSafe, epochSafe⟩ := stateBinding_finite bound
  split at decided
  · obtain ⟨_, _, rfl⟩ := finishDecision_ok decided
    simp at allowed
  · next item governed =>
    obtain ⟨binding, confirmed⟩ := decideGoverned_allow rfl decided allowed
    refine ⟨policy, item, nowMs, argumentsHash, ?_⟩
    exact {
      evaluated := evaluationTime_ok timed
      parsed := parsed
      governed := governed
      hashedArguments := hashedArguments
      hashedPolicy := binding.policyDigest.trans (Except.ok.inj hashedPolicy).symm
      hashedProposal := by rw [binding.policyDigest, binding.proposalDigest]; exact hashedProposal
      effect := by rw [binding.effect, governed]; rfl
      action := binding.action
      stateHead := binding.stateHead
      revision := binding.revision
      epoch := binding.epoch
      revisionSafe := revisionSafe
      epochSafe := epochSafe
      confirmed := by rw [binding.proposalDigest]; exact confirmed }

/-! ## Finite arguments -/

mutual

/-- Every number inside the value is finite. -/
def numbersFinite : Value → Bool
  | .number (.finite _) => true
  | .number _ => false
  | .array items => itemsFinite items
  | .object fields => fieldsFinite fields
  | _ => true

def itemsFinite : List Value → Bool
  | [] => true
  | item :: rest => numbersFinite item && itemsFinite rest

def fieldsFinite : List (String × Value) → Bool
  | [] => true
  | (_, value) :: rest => numbersFinite value && fieldsFinite rest

end

mutual

/-- A value of finite numbers that has a canonical text is JSON. -/
theorem isJson_of_finite : ∀ value : Value, hasUndefined value = false →
    numbersFinite value = true → value.isJson = true
  | .null, _, _ | .bool _, _, _ | .string _, _, _ | .number (.finite _), _, _ => rfl
  | .array items, defined, finite => itemsAreJson_of_finite items defined finite
  | .object fields, defined, finite => fieldsAreJson_of_finite fields defined finite

theorem itemsAreJson_of_finite : ∀ items : List Value, itemsHaveUndefined items = false →
    itemsFinite items = true → itemsAreJson items = true
  | [], _, _ => rfl
  | item :: rest, defined, finite => by
    obtain ⟨first, later⟩ := Bool.or_eq_false_iff.mp defined
    obtain ⟨finiteFirst, finiteLater⟩ := (Bool.and_eq_true _ _).mp finite
    rw [itemsAreJson, isJson_of_finite item first finiteFirst,
      itemsAreJson_of_finite rest later finiteLater, Bool.and_true]

theorem fieldsAreJson_of_finite : ∀ fields : List (String × Value),
    fieldsHaveUndefined fields = false → fieldsFinite fields = true → fieldsAreJson fields = true
  | [], _, _ => rfl
  | (_, value) :: rest, defined, finite => by
    obtain ⟨first, later⟩ := Bool.or_eq_false_iff.mp defined
    obtain ⟨finiteFirst, finiteLater⟩ := (Bool.and_eq_true _ _).mp finite
    rw [fieldsAreJson, isJson_of_finite value first finiteFirst,
      fieldsAreJson_of_finite rest later finiteLater, Bool.and_true]

end

/-- A value with a digest contains no `undefined`. -/
theorem sha256_ok_iff {domain : String} {value : Value} {digest : String} :
    sha256 hash domain value = .ok digest ↔
      hasUndefined value = false ∧ digest = hash (domain ++ "\n" ++ (stringified value).text) := by
  unfold sha256 canonicalJson
  cases hasUndefined value with
  | true => simp [Except.map]
  | false => simp [Except.map, eq_comm]

/-- Arguments of finite numbers under which an action was allowed are JSON. -/
theorem Allows.json {policy : ActionPolicySet} {argumentsHash : String}
    (allows : Allows hash input decision policy item nowMs argumentsHash)
    (finite : numbersFinite (.object input.arguments) = true) :
    (Value.object input.arguments).isJson = true :=
  isJson_of_finite _ (sha256_ok_iff.mp allows.hashedArguments).1 finite

/-! ## Two evaluations -/

/-- The confirmation that the policy of an input asks for. -/
def confirmationPolicy (input : PreDispatchInput) : Option ConfirmationPolicy :=
  match parsePolicy input.policy with
  | .ok policy => (actionPolicy policy input.action).bind ActionPolicy.confirmation
  | .error _ => none

/-- The texts under the proposal digest of an input: policy, arguments and proposal. -/
def hashedTexts (hash : String → String) (input : PreDispatchInput) : List String :=
  match parsePolicy input.policy with
  | .error _ => []
  | .ok policy =>
    let policyText := "hacc/action-policy-set/v1" ++ "\n" ++ policy.toValue.text
    let argumentsText :=
      "hacc/action-policy-arguments/v1" ++ "\n" ++ (Value.object input.arguments).text
    [policyText, argumentsText,
      "hacc/action-policy-proposal/v1" ++ "\n" ++ (proposalBody (hash policyText) input.action
        (hash argumentsText) input.stateHeadSha256 input.stateRevision input.capabilityEpoch).text]

/-- Two inputs propose the same action under the same policy and state. -/
structure SameProposal (x y : PreDispatchInput) : Prop where
  policy : ∃ xPolicy yPolicy, parsePolicy x.policy = .ok xPolicy ∧ parsePolicy y.policy = .ok yPolicy
    ∧ xPolicy.toValue.normal = yPolicy.toValue.normal
  action : x.action = y.action
  arguments : (Value.object x.arguments).normal = (Value.object y.arguments).normal
  stateHead : x.stateHeadSha256 = y.stateHeadSha256
  revision : x.stateRevision = y.stateRevision
  epoch : x.capabilityEpoch = y.capabilityEpoch

/-- The evaluation takes place within the freshness window after the confirmation. -/
def FreshAt (input : PreDispatchInput) (evidence : ConfirmationEvidence)
    (policy : ConfirmationPolicy) : Prop :=
  ∃ confirmedMs nowMs, canonicalMillis evidence.confirmedAt = some confirmedMs ∧
    canonicalMillis input.now = some nowMs ∧ confirmedMs ≤ nowMs ∧
      nowMs ≤ confirmedMs + policy.maxAgeSeconds * 1000

theorem withinAge_iff (instant : String) (nowMs : Int) (seconds : Nat) :
    withinAge instant nowMs (some seconds) = true ↔
      ∃ millis, canonicalMillis instant = some millis ∧ millis ≤ nowMs ∧
        nowMs ≤ millis + seconds * 1000 := by
  have window (millis : Int) : nowMs - millis ≤ seconds * 1000 ↔ nowMs ≤ millis + seconds * 1000 := by
    omega
  simp only [withinAge, Option.any_eq_true, Bool.and_eq_true, decide_eq_true_eq,
    Option.bind_eq_bind, Option.bind_some, Option.pure_def, Option.all_some, window]

/-- The body of a proposal determines everything it binds. -/
theorem proposalBody_injective {xPolicy xAction xArguments xHead yPolicy yAction yArguments
    yHead : String} {xRevision xEpoch yRevision yEpoch : JsNumber}
    (same : (proposalBody xPolicy xAction xArguments xHead xRevision xEpoch).normal =
      (proposalBody yPolicy yAction yArguments yHead yRevision yEpoch).normal) :
    xPolicy = yPolicy ∧ xAction = yAction ∧ xArguments = yArguments ∧ xHead = yHead ∧
      xRevision = yRevision ∧ xEpoch = yEpoch := by
  have field := JsonText.lookup_of_normal (by simp) same
  refine ⟨?_, ?_, ?_, ?_, ?_, ?_⟩
  · simpa [List.lookup, Value.normal] using field "policy_digest"
  · simpa [List.lookup, Value.normal] using field "action"
  · simpa [List.lookup, Value.normal] using field "arguments_sha256"
  · simpa [List.lookup, Value.normal] using field "state_head_sha256"
  · simpa [List.lookup, Value.normal] using field "state_revision"
  · simpa [List.lookup, Value.normal] using field "capability_epoch"

/-- What an evaluation hashes, when it allows an action with JSON arguments. -/
theorem Allows.hashed {policy : ActionPolicySet} {argumentsHash : String}
    (allows : Allows hash input decision policy item nowMs argumentsHash)
    (json : (Value.object input.arguments).isJson) :
    ∃ policyText argumentsText proposalText, hashedTexts hash input =
        [policyText, argumentsText, proposalText] ∧
      policyText = "hacc/action-policy-set/v1" ++ "\n" ++ policy.toValue.text ∧
      argumentsText =
        "hacc/action-policy-arguments/v1" ++ "\n" ++ (Value.object input.arguments).text ∧
      proposalText = "hacc/action-policy-proposal/v1" ++ "\n" ++
        (proposalBody (hash policyText) input.action (hash argumentsText) input.stateHeadSha256
          input.stateRevision input.capabilityEpoch).text ∧
      decision.proposalDigest = hash proposalText := by
  obtain ⟨revision, finiteRevision⟩ := allows.revisionSafe
  obtain ⟨epoch, finiteEpoch⟩ := allows.epochSafe
  have hashedArguments := allows.hashedArguments
  rw [sha256_of_isJson hash _ json] at hashedArguments
  have hashedProposal := allows.hashedProposal
  rw [allows.hashedPolicy, ← Except.ok.inj hashedArguments, finiteRevision, finiteEpoch,
    sha256_of_isJson hash _ rfl] at hashedProposal
  refine ⟨_, _, _, by rw [hashedTexts, allows.parsed], rfl, rfl, rfl, ?_⟩
  rw [← Except.ok.inj hashedProposal, finiteRevision, finiteEpoch]

/-- Texts behind one domain are equal when their values are the same. -/
theorem normal_of_domain {domain : String} {left right : Value} (leftJson : left.isJson)
    (rightJson : right.isJson) (same : domain ++ "\n" ++ left.text = domain ++ "\n" ++ right.text) :
    left.normal = right.normal := by
  apply JsonText.text_injective leftJson rightJson
  have chars := congrArg String.toList same
  simp only [String.toList_append] at chars
  exact String.toList_inj.mp (List.append_cancel_left chars)

/-- The confirmation that an allowed input presents names its proposal and is fresh. -/
theorem Allows.presented {policy : ActionPolicySet} {argumentsHash : String}
    (allows : Allows hash input decision policy item nowMs argumentsHash)
    {evidence : ConfirmationEvidence} (given : input.confirmation = some evidence)
    {asked : ConfirmationPolicy} (requires : confirmationPolicy input = some asked) :
    evidence.proposalDigest = decision.proposalDigest ∧ FreshAt input evidence asked := by
  have needed : item.confirmation = some asked := by
    simpa [confirmationPolicy, allows.parsed, allows.governed] using requires
  have confirmed := allows.confirmed
  simp only [Confirmed, needed, given, Option.some.injEq, confirmationValid, Bool.and_eq_true,
    beq_iff_eq] at confirmed
  obtain ⟨_, _, rfl, ⟨⟨⟨⟨⟨fresh, named⟩, _⟩, _⟩, _⟩, _⟩, _⟩ := confirmed
  obtain ⟨confirmedMs, canonical, notLater, notOlder⟩ := (withinAge_iff _ _ _).mp fresh
  exact ⟨named, confirmedMs, nowMs, canonical, allows.evaluated, notLater, notOlder⟩

/-- A refund that the caller has to confirm within a minute. -/
def refundPolicy : Value :=
  .object [("schema_version", .ofNat 1), ("id", .string "refunds"), ("version", .string "1"),
    ("actions", .array [.object [("action", .string "refund.issue"), ("effect", .string "write"),
      ("confirmation", .object [("authorities", .array [.string "caller"]),
        ("max_age_seconds", .ofNat 60), ("readback_fields", .array [.string "amount"])])]])]

def refundAction : ActionPolicy where
  action := "refund.issue"
  effect := .write
  requireAll := []
  denyIfAny := []
  maximumCalls := none
  confirmation := some { authorities := [.caller], maxAgeSeconds := 60, readbackFields := ["amount"] }
  postconditions := []
  providerVisibleResultFields := []

def refundSet : ActionPolicySet := { id := "refunds", version := "1", actions := [refundAction] }

def refundHead : String := String.ofList (List.replicate 64 'a')

/-- The digest that the caller confirms for the given arguments. -/
def refundProposal (hash : String → String) (confirmed : List (String × Value)) : String :=
  hash ("hacc/action-policy-proposal/v1" ++ "\n" ++ (proposalBody
    (hash ("hacc/action-policy-set/v1" ++ "\n" ++ refundSet.toValue.text)) "refund.issue"
    (hash ("hacc/action-policy-arguments/v1" ++ "\n" ++ (stringified (.object confirmed)).text))
    refundHead (.finite (.ofNat 3)) (.finite (.ofNat 2))).text)

def refundEvidence : String := String.ofList (List.replicate 64 'b')

def refundConfirmation (hash : String → String) (confirmed : List (String × Value)) :
    ConfirmationEvidence where
  proposalDigest := refundProposal hash confirmed
  challengeDigest := hash ("hacc/action-policy-confirmation-challenge/v1" ++ "\n" ++
    (stringified (challengeBody (refundProposal hash confirmed) confirmed ["amount"])).text)
  authority := .caller
  confirmedAt := "2026-08-02T12:00:00.000Z"
  evidenceSha256 := refundEvidence
  stateRevision := .finite (.ofNat 3)
  capabilityEpoch := .finite (.ofNat 2)

/-- A refund with some arguments, presented with the confirmation of others. -/
def refundInput (hash : String → String) (confirmed arguments : List (String × Value))
    (now : String) : PreDispatchInput where
  policy := refundPolicy
  action := "refund.issue"
  arguments
  stateHeadSha256 := refundHead
  stateRevision := .finite (.ofNat 3)
  capabilityEpoch := .finite (.ofNat 2)
  facts := []
  receipts := []
  priorCallCount := .finite (.ofNat 0)
  confirmation := some (refundConfirmation hash confirmed)
  now

theorem refund_parses : parsePolicy refundPolicy = .ok refundSet := by
  have parsed : parsePolicySet refundPolicy = some refundSet := rfl
  have small : refundSet.toValue.text.utf8ByteSize ≤ MAX_POLICY_BYTES :=
    (JsonSizes.bytes_text refundSet.toValue).trans (by decide +kernel)
  simp [parsePolicy, parsed, canonicalJson_of_isJson refundSet.isJson_toValue, require, small, bind,
    Except.bind, pure, Except.pure]

section

variable (hash : String → String)

/-- A draft with numbers that print is sealed, and its decision stands. -/
theorem finishDecision_of_finite (draft : PreDispatchDecision) {revision epoch : JsonNumber}
    (finiteRevision : draft.stateRevision = .finite revision)
    (finiteEpoch : draft.capabilityEpoch = .finite epoch) :
    ∃ decision, finishDecision hash draft = .ok decision ∧ decision.decision = draft.decision := by
  have challenge : (FlowState.nullableText draft.challengeDigest).isJson := by
    cases draft.challengeDigest with
    | none | some digest => rfl
  simp [finishDecision, PreDispatchDecision.body, finiteRevision, finiteEpoch, sha256_of_isJson,
    Value.isJson, fieldsAreJson, challenge, isJson_textArray, bind, Except.bind, pure, Except.pure]

/-- Two sets of arguments that print alike, as a whole and where they are read back. -/
structure PrintsAlike (arguments confirmed : List (String × Value)) : Prop where
  defined : hasUndefined (.object arguments) = false
  text : (stringified (.object arguments)).text = (stringified (.object confirmed)).text
  readable : ∀ digest, hasUndefined (challengeBody digest arguments ["amount"]) = false
  readBack : ∀ digest, (stringified (challengeBody digest arguments ["amount"])).text =
    (stringified (challengeBody digest confirmed ["amount"])).text

variable {confirmed : List (String × Value)} (alike : PrintsAlike arguments confirmed)
  (fresh : withinAge "2026-08-02T12:00:00.000Z" nowMs (some 60))

include alike fresh

/-- A governed refund whose proposal is the confirmed one is allowed. -/
theorem refund_decided {base : PreDispatchDecision}
    (proposed : base.proposalDigest = refundProposal hash confirmed)
    (revision : base.stateRevision = .finite (.ofNat 3))
    (epoch : base.capabilityEpoch = .finite (.ofNat 2)) :
    ∃ decision, decideGoverned hash refundAction (refundInput hash confirmed arguments now) nowMs 0
      base = .ok decision ∧ decision.decision = .allow := by
  have challenged : sha256 hash "hacc/action-policy-confirmation-challenge/v1"
      (challengeBody base.proposalDigest arguments ["amount"]) =
        .ok (refundConfirmation hash confirmed).challengeDigest := by
    rw [sha256_ok_iff, alike.readBack, proposed]
    exact ⟨alike.readable _, rfl⟩
  let draft := { base with
    evidenceSha256 := [(refundConfirmation hash confirmed).evidenceSha256]
    challengeDigest := some (refundConfirmation hash confirmed).challengeDigest
    decision := .allow, reason := "allowed" }
  obtain ⟨decision, finished, allows⟩ := finishDecision_of_finite hash draft revision epoch
  refine ⟨decision, ?_, allows⟩
  simp only [decideGoverned, refundAction, List.mapM_nil, pure_bind, List.any_nil, Option.any_none,
    Bool.false_eq_true, if_false, confirmGoverned, bind_ok_iff]
  refine ⟨_, challenged, ?_⟩
  have presented : (refundInput hash confirmed arguments now).confirmation.filter
      (fun confirmation => confirmationValid confirmation
        { authorities := [.caller], maxAgeSeconds := 60, readbackFields := ["amount"] }
        (refundInput hash confirmed arguments now) nowMs base.proposalDigest
        (refundConfirmation hash confirmed).challengeDigest) =
      some (refundConfirmation hash confirmed) := by
    refine Option.filter_eq_some_iff.mpr ⟨rfl, ?_⟩
    rw [proposed]
    have hex : isHexDigest refundEvidence := by decide
    simp [confirmationValid, refundConfirmation, refundInput, sameNumber, fresh, hex]
  rw [presented]
  exact finished

/-- The refund is allowed whenever its arguments print as those confirmed, within a minute. -/
theorem refund_allowed (now : String) (evaluated : canonicalMillis now = some nowMs) :
    ∃ decision, evaluatePreDispatch hash (refundInput hash confirmed arguments now) = .ok decision ∧
      decision.decision = .allow := by
  have bound : stateBinding (refundInput hash confirmed arguments now) = .ok 0 := by
    have head : isHexDigest refundHead := by decide
    simp [stateBinding, refundInput, safeNatural, naturalOf_ofNat, head, Option.filter]
  have timed : evaluationTime now = .ok nowMs := by simp [evaluationTime, evaluated]
  have proposed : sha256 hash "hacc/action-policy-proposal/v1"
      (proposalBody (hash ("hacc/action-policy-set/v1" ++ "\n" ++ refundSet.toValue.text))
        "refund.issue" (hash ("hacc/action-policy-arguments/v1" ++ "\n" ++
          (stringified (.object arguments)).text)) refundHead (.finite (.ofNat 3))
        (.finite (.ofNat 2))) = .ok (refundProposal hash confirmed) := by
    rw [sha256_of_isJson hash _ rfl, alike.text]
    rfl
  simp only [evaluatePreDispatch, bind_ok_iff]
  refine Exists.imp (fun decision decided => ⟨⟨0, bound, nowMs, timed, refundSet, refund_parses, _,
    sha256_of_isJson hash _ refundSet.isJson_toValue, _, sha256_ok_iff.mpr ⟨alike.defined, rfl⟩, _,
    proposed, decided.1⟩, decided.2⟩) (refund_decided hash alike fresh ?_ ?_ ?_)
  all_goals rfl

end

/-- An injective hash. -/
def plainHash : String → String := CanonicalText.tableDigest []

theorem plainHash_injective : Function.Injective plainHash :=
  CanonicalText.tableDigest_injective [] List.nodup_nil (by simp)

theorem refund_requires (hash : String → String) (confirmed arguments : List (String × Value))
    (now : String) :
    confirmationPolicy (refundInput hash confirmed arguments now) = refundAction.confirmation := by
  have governed : actionPolicy refundSet "refund.issue" = some refundAction := by rfl
  simp [confirmationPolicy, refundInput, refund_parses, governed]

def refundArguments : List (String × Value) := [("amount", .ofNat 20), ("order", .string "a1")]

/-- The same arguments in another order. -/
def refundReordered : List (String × Value) := [("order", .string "a1"), ("amount", .ofNat 20)]

end CallCenter.PolicyConfirmations
