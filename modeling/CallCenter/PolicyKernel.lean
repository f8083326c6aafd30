import Mathlib
import CallCenter.Guards
import CallCenter.IsoInstants
import CallCenter.PolicySchema

/-!
# The action policy kernel

`evaluatePreDispatch` decides an action from the policy, the arguments, the state binding and
the evidence; `evaluatePostDispatch` judges a result under the authority that is current when
it arrives. Digests are domain separated hashes of canonical JSON, and the hash is a
parameter of the development.
-/

namespace CallCenter.PolicyKernel

open JsonValues DottedPaths FlowCapability Guards ObjectFields PolicySchema
open FlowDefinition (distinct)
open FlowState (isHexDigest nullableText)
open IsoInstants (canonicalMillis)
open MissionSchema (FactAuthority ConfirmationAuthority textArray)

/-! ## Canonical JSON -/

mutual

/-- The value contains `undefined`. -/
def hasUndefined : Value → Bool
  | .undefined => true
  | .array items => itemsHaveUndefined items
  | .object fields => fieldsHaveUndefined fields
  | _ => false

def itemsHaveUndefined : List Value → Bool
  | [] => false
  | item :: rest => hasUndefined item || itemsHaveUndefined rest

def fieldsHaveUndefined : List (String × Value) → Bool
  | [] => false
  | (_, value) :: rest => hasUndefined value || fieldsHaveUndefined rest

end

mutual

/-- What `JSON.stringify` makes of numbers that are not finite. -/
def stringified : Value → Value
  | .number (.finite number) => .number (.finite number)
  | .number _ => .null
  | .array items => .array (stringifiedItems items)
  | .object fields => .object (stringifiedFields fields)
  | other => other

def stringifiedItems : List Value → List Value
  | [] => []
  | item :: rest => stringified item :: stringifiedItems rest

def stringifiedFields : List (String × Value) → List (String × Value)
  | [] => []
  | (key, value) :: rest => (key, stringified value) :: stringifiedFields rest

end

def canonicalJson (value : Value) : Except String String :=
  if hasUndefined value then .error "undefined is not valid canonical JSON"
  else .ok (stringified value).text

/-- A domain separated digest. -/
def sha256 (hash : String → String) (domain : String) (value : Value) : Except String String :=
  (canonicalJson value).map fun text => hash (domain ++ "\n" ++ text)

mutual

/-- JSON contains no `undefined`, and its numbers are written as they are. -/
theorem defined_of_isJson : ∀ value : Value, value.isJson = true →
    hasUndefined value = false ∧ stringified value = value
  | .null, _ | .bool _, _ | .string _, _ | .number (.finite _), _ => ⟨rfl, rfl⟩
  | .array items, json => (itemsDefined_of_json items json).imp id (congrArg Value.array)
  | .object fields, json => (fieldsDefined_of_json fields json).imp id (congrArg Value.object)

theorem itemsDefined_of_json : ∀ items : List Value, itemsAreJson items = true →
    itemsHaveUndefined items = false ∧ stringifiedItems items = items
  | [], _ => ⟨rfl, rfl⟩
  | item :: rest, json => by
    obtain ⟨first, later⟩ := (Bool.and_eq_true _ _).mp json
    simp [itemsHaveUndefined, stringifiedItems, defined_of_isJson item first,
      itemsDefined_of_json rest later]

theorem fieldsDefined_of_json : ∀ fields : List (String × Value), fieldsAreJson fields = true →
    fieldsHaveUndefined fields = false ∧ stringifiedFields fields = fields
  | [], _ => ⟨rfl, rfl⟩
  | (_, value) :: rest, json => by
    obtain ⟨first, later⟩ := (Bool.and_eq_true _ _).mp json
    simp [fieldsHaveUndefined, stringifiedFields, defined_of_isJson value first,
      fieldsDefined_of_json rest later]

end

theorem canonicalJson_of_isJson {value : Value} (json : value.isJson) :
    canonicalJson value = .ok value.text := by
  obtain ⟨defined, same⟩ := defined_of_isJson value json
  rw [canonicalJson, defined, same]
  rfl

theorem sha256_of_isJson (hash : String → String) (domain : String) {value : Value}
    (json : value.isJson) :
    sha256 hash domain value = .ok (hash (domain ++ "\n" ++ value.text)) := by
  rw [sha256, canonicalJson_of_isJson json]
  rfl

/-! ## Evidence -/

structure PolicyFact where
  factId : String
  value : Value
  authority : FactAuthority
  observedAt : String
  evidenceSha256 : String

inductive ReceiptStatus where
  | succeeded
  | failed
  | indeterminate
deriving DecidableEq

structure PolicyReceipt where
  action : String
  status : ReceiptStatus
  receiptSha256 : String

structure ConfirmationEvidence where
  proposalDigest : String
  challengeDigest : String
  authority : ConfirmationAuthority
  confirmedAt : String
  evidenceSha256 : String
  stateRevision : JsNumber
  capabilityEpoch : JsNumber

structure PreDispatchInput where
  policy : Value
  action : String
  arguments : List (String × Value)
  stateHeadSha256 : String
  stateRevision : JsNumber
  capabilityEpoch : JsNumber
  facts : List PolicyFact
  receipts : List PolicyReceipt
  priorCallCount : JsNumber
  confirmation : Option ConfirmationEvidence
  now : String

inductive PreDecision where
  | allow
  | deny
  | requireConfirmation
deriving DecidableEq

def PreDecision.name : PreDecision → String
  | .allow => "allow"
  | .deny => "deny"
  | .requireConfirmation => "require_confirmation"

/-- The effect of an action that no policy governs is unknown. -/
def effectName (effect : Option EffectKind) : String := (effect.map EffectKind.name).getD "unknown"

structure PreDispatchDecision where
  decision : PreDecision
  reason : String
  action : String
  effect : Option EffectKind
  policyDigest : String
  stateHeadSha256 : String
  stateRevision : JsNumber
  capabilityEpoch : JsNumber
  argumentsSha256 : String
  proposalDigest : String
  challengeDigest : Option String
  evidenceSha256 : List String
  decisionDigest : String

/-! ## Predicates -/

/-- Equality of numbers: a number that is not one differs from itself. -/
def sameNumber (left right : JsNumber) : Bool := left != .nan && left == right

/-- A safe nonnegative integer. -/
def safeNatural : JsNumber → Option Nat
  | .finite number => (naturalOf number).filter fun natural => decide (natural < 2 ^ 53)
  | _ => none

def MAX_POLICY_BYTES : Nat := 512 * 1024

def parsePolicy (input : Value) : Except String ActionPolicySet := do
  let policy ← match parsePolicySet input with
    | some policy => .ok policy
    | none => .error "invalid action policy set"
  let text ← canonicalJson policy.toValue
  require (decide (text.utf8ByteSize ≤ MAX_POLICY_BYTES)) "action policy set exceeds 512KB"
  return policy

/-- An own property of an object that is not an array. -/
def ownProperty (value : Option Value) (segment : String) : Option Value :=
  match value with
  | some (.object fields) => fields.lookup segment
  | _ => none

/-- The value at a path; a property that holds `undefined` reads as an absent one. -/
def valueAtPath (root : Value) (path : String) : Option Value :=
  ((splitDots path).foldl ownProperty (some root)).filter fun value =>
    match value with
    | .undefined => false
    | _ => true

/-- The decimal that a number prints as: its digits, its fraction and its exponent. -/
def decimalOf (number : JsonNumber) : Rat :=
  let (negative, unsigned) := match number.text.toList with
    | '-' :: rest => (true, rest)
    | chars => (false, chars)
  let mantissa := unsigned.takeWhile (· != 'e')
  let exponent := (unsigned.dropWhile (· != 'e')).drop 1
  let whole := mantissa.takeWhile (· != '.')
  let fraction := (mantissa.dropWhile (· != '.')).drop 1
  let digits : Rat := Nat.ofDigitChars 10 (whole ++ fraction) 0 / 10 ^ fraction.length
  let scaled := match exponent with
    | '-' :: places => digits / 10 ^ Nat.ofDigitChars 10 places 0
    | '+' :: places => digits * 10 ^ Nat.ofDigitChars 10 places 0
    | places => digits * 10 ^ Nat.ofDigitChars 10 places 0
  if negative then -scaled else scaled

/-- Numbers compare as their shortest decimals do. -/
def compareOrdered (operator : ComparisonOperator) (actual expected : Rat) : Bool :=
  match operator with
  | .lessThan => decide (actual < expected)
  | .lessThanOrEqual => decide (actual ≤ expected)
  | .greaterThan => decide (expected < actual)
  | _ => decide (expected ≤ actual)

/-- The actual value has the canonical text of the candidate. -/
def sameText (actual : Option Value) (candidate : Value) : Except String Bool :=
  match actual with
  | none => .ok false
  | some present => do
      let left ← canonicalJson present
      let right ← canonicalJson candidate
      return left == right

/-- The first candidate with the same text decides. -/
def someSameText (actual : Option Value) : List Value → Except String Bool
  | [] => .ok false
  | candidate :: rest => do
      if ← sameText actual candidate then return true
      someSameText actual rest

def compare (actual : Option Value) (operator : ComparisonOperator) (expected : Option Value) :
    Except String Bool := do
  if operator = .present then return actual.isSome
  let same ← sameText actual (expected.getD .undefined)
  match operator, actual, expected with
  | .equals, _, _ => return same
  | .notEquals, _, _ => return actual.isSome && !same
  | .oneOf, _, some (.array candidates) => someSameText actual candidates
  | .oneOf, _, _ => return false
  | _, some (.number (.finite left)), some (.number (.finite right)) =>
    return compareOrdered operator (decimalOf left) (decimalOf right)
  | _, _, _ => return false

/-- Whether a predicate passed, and the evidence it rests on. -/
structure Evaluation where
  passed : Bool
  evidence : List String

def compareWith (actual : Option Value) (operator : ComparisonOperator) (expected : Option Json) :
    Except String Bool := compare actual operator (expected.map Json.value)

/-- The instant is canonical and not later than the evaluation, and not too old. -/
def withinAge (instant : String) (nowMs : Int) (maxAgeSeconds : Option Nat) : Bool :=
  (canonicalMillis instant).any fun millis =>
    decide (millis ≤ nowMs) && maxAgeSeconds.all fun seconds =>
      decide (nowMs - millis ≤ seconds * 1000)

def evaluatePredicate (predicate : ActionPolicyPredicate) (input : PreDispatchInput)
    (nowMs : Int) : Except String Evaluation :=
  match predicate with
  | .argument predicate => do
      let passed ← compareWith (valueAtPath (.object input.arguments) predicate.path)
        predicate.operator predicate.value
      return { passed, evidence := [] }
  | .receipt action =>
    let receipt := input.receipts.find? fun candidate =>
      candidate.action == action && candidate.status == .succeeded
    return { passed := receipt.isSome, evidence := receipt.toList.map PolicyReceipt.receiptSha256 }
  | .fact predicate =>
    match input.facts.find? fun candidate => candidate.factId == predicate.factId with
    | none => return { passed := false, evidence := [] }
    | some fact =>
      if !(predicate.authorities.all fun authorities => authorities.contains fact.authority) then
        return { passed := false, evidence := [] }
      else if !withinAge fact.observedAt nowMs predicate.maxAgeSeconds then
        return { passed := false, evidence := [fact.evidenceSha256] }
      else do
        let passed ← compareWith (some fact.value) predicate.operator predicate.value
        return { passed, evidence := [fact.evidenceSha256] }

/-! ## Decisions -/

/-- The decision's JSON, without the digest over it. -/
def PreDispatchDecision.body (decision : PreDispatchDecision) : Value :=
  .object [("action", .string decision.action), ("effect", .string (effectName decision.effect)),
    ("policy_digest", .string decision.policyDigest),
    ("state_head_sha256", .string decision.stateHeadSha256),
    ("state_revision", .number decision.stateRevision),
    ("capability_epoch", .number decision.capabilityEpoch),
    ("arguments_sha256", .string decision.argumentsSha256),
    ("proposal_digest", .string decision.proposalDigest),
    ("decision", .string decision.decision.name), ("reason", .string decision.reason),
    ("challenge_digest", nullableText decision.challengeDigest),
    ("evidence_sha256", textArray decision.evidenceSha256)]

/-- Evidence is listed once and sorted, and the decision is sealed by its digest. -/
def finishDecision (hash : String → String) (draft : PreDispatchDecision) :
    Except String PreDispatchDecision := do
  let evidence := (distinct draft.evidenceSha256).insertionSort fun left right =>
    unitsLe (utf16 left) (utf16 right) = true
  let normalized := { draft with evidenceSha256 := evidence }
  let digest ← sha256 hash "hacc/action-policy-decision/v1" normalized.body
  return { normalized with decisionDigest := digest }

/-- What the proposal digest binds. -/
def proposalBody (policyDigest action argumentsHash stateHead : String)
    (stateRevision capabilityEpoch : JsNumber) : Value :=
  .object [("policy_digest", .string policyDigest), ("action", .string action),
    ("arguments_sha256", .string argumentsHash), ("state_head_sha256", .string stateHead),
    ("state_revision", .number stateRevision), ("capability_epoch", .number capabilityEpoch)]

/-- What a caller is asked to confirm. -/
def challengeBody (proposalDigest : String) (arguments : List (String × Value))
    (readbackFields : List String) : Value :=
  .object [("proposal_digest", .string proposalDigest),
    ("readback", .object (readbackFields.foldl (fun fields path =>
      setField fields path ((valueAtPath (.object arguments) path).getD .null)) []))]

/-- A confirmation that is fresh and bound to this proposal, challenge and state. -/
def confirmationValid (confirmation : ConfirmationEvidence) (policy : ConfirmationPolicy)
    (input : PreDispatchInput) (nowMs : Int) (proposalDigest challengeDigest : String) : Bool :=
  withinAge confirmation.confirmedAt nowMs (some policy.maxAgeSeconds)
    && confirmation.proposalDigest == proposalDigest
    && confirmation.challengeDigest == challengeDigest
    && sameNumber confirmation.stateRevision input.stateRevision
    && sameNumber confirmation.capabilityEpoch input.capabilityEpoch
    && policy.authorities.contains confirmation.authority
    && isHexDigest confirmation.evidenceSha256

/-- The decision of an action that needs a confirmation, when all its evidence is there. -/
def confirmGoverned (hash : String → String) (policy : ConfirmationPolicy)
    (input : PreDispatchInput) (nowMs : Int) (supported : PreDispatchDecision) :
    Except String PreDispatchDecision := do
  let challengeDigest ← sha256 hash "hacc/action-policy-confirmation-challenge/v1"
    (challengeBody supported.proposalDigest input.arguments policy.readbackFields)
  let challenged := { supported with challengeDigest := some challengeDigest }
  match input.confirmation.filter fun confirmation =>
      confirmationValid confirmation policy input nowMs supported.proposalDigest challengeDigest with
  | some confirmation => finishDecision hash { challenged with
      decision := .allow, reason := "allowed",
      evidenceSha256 := supported.evidenceSha256 ++ [confirmation.evidenceSha256] }
  | none => finishDecision hash { challenged with
      decision := .requireConfirmation, reason := "fresh_confirmation_required" }

/-- The decision of a governed action, from the draft that holds its bindings. -/
def decideGoverned (hash : String → String) (item : ActionPolicy) (input : PreDispatchInput)
    (nowMs : Int) (priorCallCount : Nat) (base : PreDispatchDecision) :
    Except String PreDispatchDecision := do
  let denied ← item.denyIfAny.mapM fun predicate => evaluatePredicate predicate input nowMs
  if denied.any Evaluation.passed then
    finishDecision hash { base with
      reason := "deny_condition_matched", evidenceSha256 := denied.flatMap Evaluation.evidence }
  else
    let required ← item.requireAll.mapM fun predicate => evaluatePredicate predicate input nowMs
    let supported := { base with evidenceSha256 := required.flatMap Evaluation.evidence }
    if required.any fun result => !result.passed then
      finishDecision hash { supported with reason := "required_evidence_missing" }
    else if item.maximumCalls.any fun maximum => decide (maximum ≤ priorCallCount) then
      finishDecision hash { supported with reason := "call_limit_reached" }
    else match item.confirmation with
      | none => finishDecision hash { supported with decision := .allow, reason := "allowed" }
      | some policy => confirmGoverned hash policy input nowMs supported

/-- The call count of a well formed state binding. -/
def stateBinding (input : PreDispatchInput) : Except String Nat :=
  match safeNatural input.stateRevision, safeNatural input.capabilityEpoch,
      safeNatural input.priorCallCount with
  | some _, some _, some priorCallCount =>
    if isHexDigest input.stateHeadSha256 then .ok priorCallCount
    else .error "invalid action policy state binding"
  | _, _, _ => .error "invalid action policy state binding"

def evaluationTime (now : String) : Except String Int :=
  match canonicalMillis now with
  | some millis => .ok millis
  | none => .error "policy evaluation time must be canonical ISO-8601"

def actionPolicy (policy : ActionPolicySet) (action : String) : Option ActionPolicy :=
  policy.actions.find? fun candidate => candidate.action == action

def evaluatePreDispatch (hash : String → String) (input : PreDispatchInput) :
    Except String PreDispatchDecision := do
  let priorCallCount ← stateBinding input
  let nowMs ← evaluationTime input.now
  let policy ← parsePolicy input.policy
  let policyDigest ← sha256 hash "hacc/action-policy-set/v1" policy.toValue
  let argumentsHash ← sha256 hash "hacc/action-policy-arguments/v1" (.object input.arguments)
  let proposalDigest ← sha256 hash "hacc/action-policy-proposal/v1"
    (proposalBody policyDigest input.action argumentsHash input.stateHeadSha256
      input.stateRevision input.capabilityEpoch)
  let item := actionPolicy policy input.action
  let base : PreDispatchDecision :=
    { decision := .deny, reason := "action_not_governed", action := input.action
      effect := item.map ActionPolicy.effect, policyDigest
      stateHeadSha256 := input.stateHeadSha256, stateRevision := input.stateRevision
      capabilityEpoch := input.capabilityEpoch, argumentsSha256 := argumentsHash, proposalDigest
      challengeDigest := none, evidenceSha256 := [], decisionDigest := "" }
  match item with
  | none => finishDecision hash base
  | some item => decideGoverned hash item input nowMs priorCallCount base

/-! ## Results -/

inductive PostDecision where
  | accept
  | reject
  | quarantine
  | requireReconciliation
deriving DecidableEq

def PostDecision.name : PostDecision → String
  | .accept => "accept"
  | .reject => "reject"
  | .quarantine => "quarantine"
  | .requireReconciliation => "require_reconciliation"

structure PostDispatchDecision where
  decision : PostDecision
  reason : String
  rawResultSha256 : String
  providerResult : Option (List (String × Value))
  decisionDigest : String

structure PostDispatchInput where
  policy : Value
  preDispatch : PreDispatchDecision
  currentStateHeadSha256 : String
  currentStateRevision : JsNumber
  currentCapabilityEpoch : JsNumber
  result : List (String × Value)

def finishPostDecision (hash : String → String) (input : PostDispatchInput) (rawHash : String)
    (decision : PostDecision) (reason : String) (providerResult : Option (List (String × Value))) :
    Except String PostDispatchDecision := do
  let digest ← sha256 hash "hacc/action-policy-post-decision/v1"
    (.object [("decision", .string decision.name), ("reason", .string reason),
      ("raw_result_sha256", .string rawHash),
      ("pre_dispatch_digest", .string input.preDispatch.decisionDigest),
      ("current_state_head_sha256", .string input.currentStateHeadSha256),
      ("current_state_revision", .number input.currentStateRevision),
      ("current_capability_epoch", .number input.currentCapabilityEpoch)])
  return { decision, reason, rawResultSha256 := rawHash, providerResult, decisionDigest := digest }

/-- The first postcondition that does not hold decides. -/
def postconditionFails (result : List (String × Value)) : List ArgumentPredicate →
    Except String Bool
  | [] => .ok false
  | predicate :: rest => do
      let held ← compareWith (valueAtPath (.object result) predicate.path) predicate.operator
        predicate.value
      if !held then return true
      postconditionFails result rest

/-- The result fields that the provider may see. -/
def projection (result : List (String × Value)) (fields : List String) : List (String × Value) :=
  (fields.filter (hasField result)).foldl (fun projected field =>
    setField projected field ((result.lookup field).getD .undefined)) []

/-- The authority under which the result is judged is the one of the decision. -/
def sameBinding (input : PostDispatchInput) : Bool :=
  input.currentStateHeadSha256 == input.preDispatch.stateHeadSha256
    && sameNumber input.currentStateRevision input.preDispatch.stateRevision
    && sameNumber input.currentCapabilityEpoch input.preDispatch.capabilityEpoch

def evaluatePostDispatch (hash : String → String) (input : PostDispatchInput) :
    Except String PostDispatchDecision := do
  let policy ← parsePolicy input.policy
  let policyDigest ← sha256 hash "hacc/action-policy-set/v1" policy.toValue
  let rawHash ← sha256 hash "hacc/action-policy-result/v1" (.object input.result)
  let finish := finishPostDecision hash input rawHash
  match actionPolicy policy input.preDispatch.action with
  | none => finish .quarantine "dispatch_was_not_allowed" none
  | some item =>
    if input.preDispatch.decision ≠ .allow then
      finish .quarantine "dispatch_was_not_allowed" none
    else if input.preDispatch.policyDigest ≠ policyDigest then
      finish .quarantine "policy_changed_after_decision" none
    else if !sameBinding input then
      finish .quarantine "authority_advanced_after_decision" none
    else do
      let failed ← postconditionFails input.result item.postconditions
      if !failed then
        finish .accept "accepted" (some (projection input.result item.providerVisibleResultFields))
      else if item.effect = .read then
        finish .reject "read_result_failed_postcondition" none
      else finish .requireReconciliation "effect_result_failed_postcondition" none

end CallCenter.PolicyKernel
