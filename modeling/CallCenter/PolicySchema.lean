import CallCenter.FlowCapability
import CallCenter.MissionSchema

/-!
# Action policies

A policy set governs actions by name: predicates that must hold or must not, a limit on
calls, a confirmation, postconditions on the result and the result fields a provider may
see. `parsePolicySet` reads one from untrusted JSON as the schema does, with its defaults;
`toValue` gives the parsed set back as the JSON that is hashed.
-/

namespace CallCenter.PolicySchema

open JsonValues DottedPaths MissionSchema FlowCapability

/-- How a predicate compares a value with its own. -/
inductive ComparisonOperator where
  | present
  | equals
  | notEquals
  | oneOf
  | lessThan
  | lessThanOrEqual
  | greaterThan
  | greaterThanOrEqual
deriving DecidableEq

def ComparisonOperator.name : ComparisonOperator → String
  | .present => "exists"
  | .equals => "equals"
  | .notEquals => "not_equals"
  | .oneOf => "in"
  | .lessThan => "less_than"
  | .lessThanOrEqual => "less_than_or_equal"
  | .greaterThan => "greater_than"
  | .greaterThanOrEqual => "greater_than_or_equal"

def ComparisonOperator.all : List ComparisonOperator :=
  [.present, .equals, .notEquals, .oneOf, .lessThan, .lessThanOrEqual, .greaterThan,
    .greaterThanOrEqual]

/-- The operator orders numbers. -/
def ComparisonOperator.ordered : ComparisonOperator → Bool
  | .lessThan | .lessThanOrEqual | .greaterThan | .greaterThanOrEqual => true
  | _ => false

/-- What an action does to the world. -/
inductive EffectKind where
  | read
  | write
  | opaqueEffect
deriving DecidableEq

def EffectKind.name : EffectKind → String
  | .read => "read"
  | .write => "write"
  | .opaqueEffect => "opaque"

def EffectKind.all : List EffectKind := [.read, .write, .opaqueEffect]

/-- A value without `undefined` and without numbers that are not finite. -/
def Json := { value : Value // value.isJson = true }

def Json.value (json : Json) : Value := json.1

structure FactPredicate where
  factId : String
  operator : ComparisonOperator
  value : Option Json
  authorities : Option (List FactAuthority)
  maxAgeSeconds : Option Nat

structure ArgumentPredicate where
  path : String
  operator : ComparisonOperator
  value : Option Json

inductive ActionPolicyPredicate where
  | fact (predicate : FactPredicate)
  | argument (predicate : ArgumentPredicate)
  | receipt (action : String)

structure ConfirmationPolicy where
  authorities : List ConfirmationAuthority
  maxAgeSeconds : Nat
  readbackFields : List String

structure ActionPolicy where
  action : String
  effect : EffectKind
  requireAll : List ActionPolicyPredicate
  denyIfAny : List ActionPolicyPredicate
  maximumCalls : Option Nat
  confirmation : Option ConfirmationPolicy
  postconditions : List ArgumentPredicate
  providerVisibleResultFields : List String

structure ActionPolicySet where
  id : String
  version : String
  actions : List ActionPolicy

/-! ## JSON -/

def FactPredicate.toValue (predicate : FactPredicate) : Value :=
  .object ([("kind", .string "fact"), ("fact_id", .string predicate.factId),
      ("operator", .string predicate.operator.name)]
    ++ optionalField "value" (predicate.value.map Json.value)
    ++ optionalField "authorities" (predicate.authorities.map fun listed =>
      textArray (listed.map FactAuthority.name))
    ++ optionalField "max_age_seconds" (predicate.maxAgeSeconds.map Value.ofNat))

def ArgumentPredicate.toValue (predicate : ArgumentPredicate) : Value :=
  .object ([("kind", .string "argument"), ("path", .string predicate.path),
      ("operator", .string predicate.operator.name)]
    ++ optionalField "value" (predicate.value.map Json.value))

def ActionPolicyPredicate.toValue : ActionPolicyPredicate → Value
  | .fact predicate => predicate.toValue
  | .argument predicate => predicate.toValue
  | .receipt action =>
    .object [("kind", .string "receipt"), ("action", .string action),
      ("status", .string "succeeded")]

def ConfirmationPolicy.toValue (confirmation : ConfirmationPolicy) : Value :=
  .object [("authorities", textArray (confirmation.authorities.map ConfirmationAuthority.name)),
    ("max_age_seconds", .ofNat confirmation.maxAgeSeconds),
    ("readback_fields", textArray confirmation.readbackFields)]

def ActionPolicy.toValue (policy : ActionPolicy) : Value :=
  .object ([("action", .string policy.action), ("effect", .string policy.effect.name),
      ("require_all", .array (policy.requireAll.map ActionPolicyPredicate.toValue)),
      ("deny_if_any", .array (policy.denyIfAny.map ActionPolicyPredicate.toValue))]
    ++ optionalField "maximum_calls" (policy.maximumCalls.map Value.ofNat)
    ++ optionalField "confirmation" (policy.confirmation.map ConfirmationPolicy.toValue)
    ++ [("postconditions", .array (policy.postconditions.map ArgumentPredicate.toValue)),
      ("provider_visible_result_fields", textArray policy.providerVisibleResultFields)])

def ActionPolicySet.toValue (set : ActionPolicySet) : Value :=
  .object [("schema_version", .ofNat 1), ("id", .string set.id), ("version", .string set.version),
    ("actions", .array (set.actions.map ActionPolicy.toValue)),
    ("default_decision", .string "deny")]

/-! ## Reading -/

/-- A strict object: it has no key besides the known ones. -/
def strictObject (known : List String) : Value → Option (List (String × Value))
  | .object fields => if fields.all fun field => known.contains field.1 then some fields else none
  | _ => none

def textWhere (shape : String → Bool) : Value → Option String
  | .string text => if shape text then some text else none
  | _ => none

/-- A member of an enumeration, by its name. -/
def memberOf {α : Type} (all : List α) (name : α → String) : Value → Option α
  | .string text => all.find? fun member => name member == text
  | _ => none

def listOf {α : Type} (least most : Nat) (read : Value → Option α) : Value → Option (List α)
  | .array items => if countWithin least most items then items.mapM read else none
  | _ => none

/-- A positive integer up to a bound. -/
def positiveUpTo (most : Nat) : Value → Option Nat
  | .number (.finite number) =>
    (naturalOf number).filter fun natural => decide (0 < natural ∧ natural ≤ most)
  | _ => none

/-- `JsonSchema`. -/
def jsonSchema (value : Value) : Option Json :=
  if json : value.isJson then some ⟨value, json⟩ else none

def required {α : Type} (fields : List (String × Value)) (key : String) (read : Value → Option α) :
    Option α := (fields.lookup key).bind read

/-- A field that may be absent. A key that is present with the value `undefined` passes the
schema and stays, and the canonical text of the parsed set then throws: it is refused here. -/
def optional {α : Type} (fields : List (String × Value)) (key : String) (read : Value → Option α) :
    Option (Option α) :=
  match fields.lookup key with
  | none => some none
  | some value => (read value).map some

/-- A field with a default, which also stands for `undefined`. -/
def defaulted {α : Type} (fields : List (String × Value)) (key : String) (default : α)
    (read : Value → Option α) : Option α :=
  match fields.lookup key with
  | none => some default
  | some .undefined => some default
  | some value => read value

def isPathCharacter (c : Char) : Bool :=
  isUpper c || isLower c || c.isDigit || c == '_' || c == '-'

/-- One to eight names joined by dots. -/
def isArgumentPath (text : String) : Bool :=
  let segments := splitDots text
  countWithin 1 8 segments && segments.all fun segment =>
    !segment.toList.isEmpty && segment.toList.all isPathCharacter

def isResultField (text : String) : Bool :=
  text.toList.all isPathCharacter && countWithin 1 128 text.toList

def isNumber : Value → Bool
  | .number _ => true
  | _ => false

def validateComparison (operator : ComparisonOperator) (value : Option Json) : Bool :=
  (operator == .present || value.isSome)
    && (operator != .oneOf || value.any fun expected => isArray expected.value)
    && (!operator.ordered || value.any fun expected => isNumber expected.value)

def parseFactPredicate (value : Value) : Option FactPredicate := do
  let fields ← strictObject
    ["kind", "fact_id", "operator", "value", "authorities", "max_age_seconds"] value
  let factId ← required fields "fact_id" (textWhere isId)
  let operator ← required fields "operator" (memberOf ComparisonOperator.all ComparisonOperator.name)
  let compared ← optional fields "value" jsonSchema
  let authorities ← optional fields "authorities"
    (listOf 1 5 (memberOf [.caller, .tool, .policy, .operator, .system] FactAuthority.name))
  let maxAgeSeconds ← optional fields "max_age_seconds" (positiveUpTo 31536000)
  if validateComparison operator compared then
    some { factId, operator, value := compared, authorities, maxAgeSeconds }
  else none

def parseArgumentPredicate (value : Value) : Option ArgumentPredicate := do
  let fields ← strictObject ["kind", "path", "operator", "value"] value
  let _ ← required fields "kind" (textWhere (· == "argument"))
  let path ← required fields "path" (textWhere isArgumentPath)
  let operator ← required fields "operator" (memberOf ComparisonOperator.all ComparisonOperator.name)
  let compared ← optional fields "value" jsonSchema
  if validateComparison operator compared then some { path, operator, value := compared } else none

def parseReceiptPredicate (value : Value) : Option String := do
  let fields ← strictObject ["kind", "action", "status"] value
  let action ← required fields "action" (textWhere isId)
  let _ ← required fields "status" (textWhere (· == "succeeded"))
  some action

/-- The kind of a predicate selects its schema. -/
def parsePredicate (value : Value) : Option ActionPolicyPredicate :=
  match value with
  | .object fields =>
    match fields.lookup "kind" with
    | some (.string "fact") => (parseFactPredicate value).map .fact
    | some (.string "argument") => (parseArgumentPredicate value).map .argument
    | some (.string "receipt") => (parseReceiptPredicate value).map .receipt
    | _ => none
  | _ => none

def parseConfirmationPolicy (value : Value) : Option ConfirmationPolicy := do
  let fields ← strictObject ["authorities", "max_age_seconds", "readback_fields"] value
  let authorities ← required fields "authorities"
    (listOf 1 2 (memberOf [.caller, .operator] ConfirmationAuthority.name))
  let maxAgeSeconds ← required fields "max_age_seconds" (positiveUpTo 3600)
  let readbackFields ← defaulted fields "readback_fields" []
    (listOf 0 16 (textWhere isArgumentPath))
  some { authorities, maxAgeSeconds, readbackFields }

def parseActionPolicy (value : Value) : Option ActionPolicy := do
  let fields ← strictObject
    ["action", "effect", "require_all", "deny_if_any", "maximum_calls", "confirmation",
      "postconditions", "provider_visible_result_fields"] value
  let action ← required fields "action" (textWhere isId)
  let effect ← required fields "effect" (memberOf EffectKind.all EffectKind.name)
  let requireAll ← defaulted fields "require_all" [] (listOf 0 128 parsePredicate)
  let denyIfAny ← defaulted fields "deny_if_any" [] (listOf 0 128 parsePredicate)
  let maximumCalls ← optional fields "maximum_calls" (positiveUpTo 10000)
  let confirmation ← optional fields "confirmation" parseConfirmationPolicy
  let postconditions ← defaulted fields "postconditions" [] (listOf 0 128 parseArgumentPredicate)
  let providerVisibleResultFields ← defaulted fields "provider_visible_result_fields" []
    (listOf 0 128 (textWhere isResultField))
  some { action, effect, requireAll, denyIfAny, maximumCalls, confirmation, postconditions,
         providerVisibleResultFields }

/-- `ActionPolicySetSchema`. -/
def parsePolicySet (value : Value) : Option ActionPolicySet := do
  let fields ← strictObject ["schema_version", "id", "version", "actions", "default_decision"] value
  let _ ← (fields.lookup "schema_version").filter fun version =>
    match version with
    | .number (.finite number) => number.text == "1"
    | _ => false
  let id ← required fields "id" (textWhere isId)
  let version ← required fields "version" (textWhere (lengthWithin 1 128))
  let actions ← required fields "actions" (listOf 1 1024 parseActionPolicy)
  let _ ← defaulted fields "default_decision" "deny" (textWhere (· == "deny"))
  if (actions.map ActionPolicy.action).Nodup then some { id, version, actions } else none

/-! ## What was parsed is JSON -/

theorem isJson_optionalField {key : String} {value : Option Value}
    (json : ∀ present ∈ value, present.isJson = true) :
    fieldsAreJson (optionalField key value) := by
  cases value with
  | none => rfl
  | some present => simp [optionalField, fieldsAreJson, json present rfl]

theorem isJson_textArray (texts : List String) : (textArray texts).isJson := by
  simp [textArray, Value.isJson, itemsAreJson_iff]

theorem itemsAreJson_map {α : Type} {encode : α → Value}
    (each : ∀ item, (encode item).isJson = true) (items : List α) :
    itemsAreJson (items.map encode) := by
  simp [itemsAreJson_iff, each]

theorem fieldsAreJson_append (left right : List (String × Value)) :
    fieldsAreJson (left ++ right) = (fieldsAreJson left && fieldsAreJson right) := by
  rw [Bool.eq_iff_iff]
  simp [fieldsAreJson_iff, or_imp, forall_and]

theorem isJson_comparison (key : String) (value : Option Json) :
    fieldsAreJson (optionalField key (value.map Json.value)) := by
  apply isJson_optionalField
  rintro present member
  obtain ⟨json, _, rfl⟩ := Option.mem_map.mp member
  exact json.2

theorem isJson_count (key : String) (count : Option Nat) :
    fieldsAreJson (optionalField key (count.map Value.ofNat)) := by
  apply isJson_optionalField
  rintro present member
  obtain ⟨number, _, rfl⟩ := Option.mem_map.mp member
  rfl

theorem ArgumentPredicate.isJson_toValue (predicate : ArgumentPredicate) :
    predicate.toValue.isJson := by
  simp [ArgumentPredicate.toValue, Value.isJson, fieldsAreJson, isJson_comparison]

theorem ActionPolicyPredicate.isJson_toValue (predicate : ActionPolicyPredicate) :
    predicate.toValue.isJson := by
  cases predicate with
  | fact predicate =>
    have listed : fieldsAreJson (optionalField "authorities" (predicate.authorities.map fun listed =>
        textArray (listed.map FactAuthority.name))) = true := by
      apply isJson_optionalField
      rintro present member
      obtain ⟨authorities, _, rfl⟩ := Option.mem_map.mp member
      exact isJson_textArray _
    simp [ActionPolicyPredicate.toValue, FactPredicate.toValue, Value.isJson, fieldsAreJson,
      fieldsAreJson_append, isJson_comparison, isJson_count, listed]
  | argument predicate => exact predicate.isJson_toValue
  | receipt => rfl

theorem ActionPolicy.isJson_toValue (policy : ActionPolicy) : policy.toValue.isJson := by
  have confirmation : fieldsAreJson (optionalField "confirmation"
      (policy.confirmation.map ConfirmationPolicy.toValue)) = true := by
    apply isJson_optionalField
    rintro present member
    obtain ⟨confirmed, _, rfl⟩ := Option.mem_map.mp member
    simp [ConfirmationPolicy.toValue, Value.isJson, fieldsAreJson, isJson_textArray, Value.ofNat]
  simp [ActionPolicy.toValue, Value.isJson, fieldsAreJson, fieldsAreJson_append, isJson_count,
    isJson_textArray, confirmation, itemsAreJson_map ActionPolicyPredicate.isJson_toValue,
    itemsAreJson_map ArgumentPredicate.isJson_toValue]

theorem ActionPolicySet.isJson_toValue (set : ActionPolicySet) : set.toValue.isJson := by
  simp [ActionPolicySet.toValue, Value.isJson, fieldsAreJson, Value.ofNat,
    itemsAreJson_map ActionPolicy.isJson_toValue]

end CallCenter.PolicySchema
