import Mathlib
import CallCenter.FlowCapability
import CallCenter.MissionSchema
import CallCenter.StrictJson

/-!
# What the bridge accepts around an authority call

The bridge reaches the tool authority through `tools/call` posts of an MCP endpoint. This module
has the checks on both sides of a post: the gateway call handed to the client, and the JSON that
comes back. Each check throws a client error, which says whether the tool may have run.
-/

namespace CallCenter.AuthorityProtocol

open Guards JsonValues ObjectFields
open FlowCapability (integerNumber integerOf)
open FlowState (isHexDigest)
open MissionSchema (isLower isUpper matchesShape)

def MAX_RPC_RESPONSE_BYTES : Nat := 2 * 1024 * 1024
def MAX_RPC_REQUEST_BYTES : Nat := 256 * 1024
def MAX_INPUT_DEPTH : Nat := 32
def MAX_INPUT_NODES : Nat := 16384
def MAX_INPUT_OBJECT_KEYS : Nat := 256
def MAX_INPUT_ARRAY_LENGTH : Nat := 4096
def MAX_INPUT_STRING_BYTES : Nat := 256 * 1024
def MAX_INPUT_KEY_BYTES : Nat := 256
def MCP_MAX_PROVIDER_TOOL_CALL_ID_BYTES : Nat := 256
def MCP_PROVIDER_TOOL_CALL_ID_META_KEY : String := "hacc/provider_tool_call_id"
def MCP_ACTIVE_CATALOG_META_KEY : String := "com.harsha.callcenter/active-catalog"

inductive ErrorCode where
  | authorityClosed | providerCallIdentityConflict | replayResultEvicted | identityLimit
  | inFlightLimit | transportError | requestTooLarge | timeout | invalidResponse
  | redirectRefused | invalidContentType | invalidJson | mcpSessionExpired | httpError
  | responseTooLarge | responseReadFailed | rpcIdentityMismatch | invalidRpcResponse
  | invalidRpcError | rpcError | invalidToolResult | invalidActiveCatalogResult
  | jsonTooComplex | jsonTooDeep | unsafeJsonKey | invalidCall | toolNotAllowed
  | invalidArguments | invalidActiveCatalogAuthority | invalidCallIdentity
deriving DecidableEq

/-- `AuthorityClientError`. -/
structure ClientError where
  code : ErrorCode
  message : String
  retryable : Bool := false
  indeterminate : Bool := false
  status : Option Nat := none
  executionStarted : Option Bool := none

def localError (code : ErrorCode) (message : String) : ClientError where
  code := code
  message := message
  executionStarted := some false

/-! ### Values -/

def isRecord : Value → Bool
  | .object _ => true
  | _ => false

/-- The fields of a record; nothing else has any. -/
def recordFields : Value → List (String × Value)
  | .object fields => fields
  | _ => []

/-- A property as the language reads it: `undefined` when there is none. -/
def property (value : Value) (key : String) : Value :=
  ((recordFields value).lookup key).getD .undefined

/-- `Object.keys`. -/
def keysOf (value : Value) : List String := (recordFields value).map Prod.fst

/-- `Number.isSafeInteger`. -/
def safeInteger : Value → Option Int
  | .number (.finite number) => (integerOf number).filter fun integer => integer.natAbs < 2 ^ 53
  | _ => none

def isSafeNatural (value : Value) : Bool :=
  match safeInteger value with
  | some integer => 0 ≤ integer
  | none => false

def isText (test : String → Bool) : Value → Bool
  | .string text => test text
  | _ => false

def isOne : Value → Bool
  | .number (.finite number) => number.text = "1"
  | _ => false

def isBoolean : Value → Bool
  | .bool _ => true
  | _ => false

def isUndefined : Value → Bool
  | .undefined => true
  | _ => false

def isToolName : String → Bool :=
  matchesShape isLower (fun c => isLower c || c.isDigit || ['_', '.', '-'].contains c) 1 63

def isIdentityChar (c : Char) : Bool :=
  isLower c || isUpper c || c.isDigit || ['.', '_', ':', '-'].contains c

def isIdentityStart (c : Char) : Bool := isLower c || isUpper c || c.isDigit

/-- `PROVIDER_CALL_ID`. -/
def isProviderCallId : String → Bool := matchesShape isIdentityStart isIdentityChar 0 255

/-- `PROVIDER_ITEM_ID`. -/
def isProviderItemId : String → Bool := matchesShape isIdentityStart isIdentityChar 0 511

/-- The same keys, in any order. -/
def exactKeys (value : Value) (keys : List String) : Bool :=
  isRecord value && (keysOf value).length = keys.length && keys.all (hasField (recordFields value))

/-! ### Bounded JSON -/

structure Budget where
  nodes : Nat := 0
  bytes : Nat := 0

def addInputBytes (budget : Budget) (bytes : Nat) (path : String) : Except ClientError Budget := do
  require (budget.bytes + bytes ≤ MAX_RPC_REQUEST_BYTES)
    (localError .requestTooLarge (path ++ " exceeds the bounded request budget"))
  pure { budget with bytes := budget.bytes + bytes }

/-- The budget of one more value at this depth. -/
def addInputNode (budget : Budget) (depth : Nat) (path : String) : Except ClientError Budget := do
  require (budget.nodes + 1 ≤ MAX_INPUT_NODES)
    (localError .jsonTooComplex (path ++ " exceeds 16384 values"))
  require (depth ≤ MAX_INPUT_DEPTH) (localError .jsonTooDeep (path ++ " exceeds 32 levels"))
  pure { budget with nodes := budget.nodes + 1 }

mutual

def assertStrictJson (path : String) (depth : Nat) (budget : Budget) :
    Value → Except ClientError Budget
  | .null => do
      let budget ← addInputNode budget depth path
      addInputBytes budget 4 path
  | .bool value => do
      let budget ← addInputNode budget depth path
      addInputBytes budget (if value then 4 else 5) path
  | .string text => do
      let budget ← addInputNode budget depth path
      require (text.utf8ByteSize ≤ MAX_INPUT_STRING_BYTES)
        (localError .requestTooLarge (path ++ " contains an oversized string"))
      addInputBytes budget (jsonString text).utf8ByteSize path
  | .number (.finite number) => do
      let budget ← addInputNode budget depth path
      addInputBytes budget number.text.utf8ByteSize path
  | .number _ => do
      let _ ← addInputNode budget depth path
      .error (localError .invalidJson (path ++ " contains a non-finite number"))
  | .undefined => do
      let _ ← addInputNode budget depth path
      .error (localError .invalidJson (path ++ " contains a non-JSON value"))
  | .array items => do
      let budget ← addInputNode budget depth path
      require (items.length ≤ MAX_INPUT_ARRAY_LENGTH)
        (localError .jsonTooComplex (path ++ " array is too long"))
      let budget ← addInputBytes budget (2 + (items.length - 1)) path
      assertStrictItems path (depth + 1) 0 budget items
  | .object fields => do
      let budget ← addInputNode budget depth path
      require (fields.length ≤ MAX_INPUT_OBJECT_KEYS)
        (localError .jsonTooComplex (path ++ " object has too many keys"))
      let budget ← addInputBytes budget (2 + (fields.length - 1)) path
      assertStrictFields path (depth + 1) budget fields

/-- The items of an array from an index on. -/
def assertStrictItems (path : String) (depth index : Nat) (budget : Budget) :
    List Value → Except ClientError Budget
  | [] => .ok budget
  | item :: rest => do
      let budget ← assertStrictJson (path ++ "[" ++ toString index ++ "]") depth budget item
      assertStrictItems path depth (index + 1) budget rest

/-- The members of an object. -/
def assertStrictFields (path : String) (depth : Nat) (budget : Budget) :
    List (String × Value) → Except ClientError Budget
  | [] => .ok budget
  | (key, value) :: rest => do
      require (!(["__proto__", "prototype", "constructor"].contains key))
        (localError .unsafeJsonKey (path ++ " contains unsafe key " ++ key))
      require (key.utf8ByteSize ≤ MAX_INPUT_KEY_BYTES)
        (localError .invalidJson (path ++ " contains an oversized key"))
      let budget ← addInputBytes budget ((jsonString key).utf8ByteSize + 1) path
      let budget ← assertStrictJson (path ++ "." ++ key) depth budget value
      assertStrictFields path depth budget rest

end

/-! ### The gateway call -/

inductive Provider where
  | openai | xai
deriving DecidableEq

def Provider.text : Provider → String
  | .openai => "openai"
  | .xai => "xai"

structure CallIdentity where
  provider : Provider
  responseId : String
  callId : String
  itemId : Option String

structure CatalogAuthority where
  catalogDigest : String
  capabilityEpoch : Int

structure GatewayRequest where
  identity : CallIdentity
  toolName : String
  arguments : Value
  activeCatalogAuthority : CatalogAuthority

def normalizeActiveCatalogAuthority (value : Value) : Except ClientError CatalogAuthority :=
  let refused := localError .invalidActiveCatalogAuthority "Active catalog authority is invalid"
  if isRecord value && (keysOf value).length = 2 then
    match property value "catalogDigest", safeInteger (property value "capabilityEpoch") with
    | .string digest, some epoch =>
      if isHexDigest digest && 0 ≤ epoch then .ok ⟨digest, epoch⟩ else .error refused
    | _, _ => .error refused
  else .error refused

def normalizeProviderCallIdentity (identity : Value) : Except ClientError CallIdentity := do
  require (isRecord identity)
    (localError .invalidCallIdentity "Provider call identity must be an object")
  let provider ← if isText (· = "openai") (property identity "provider") then .ok Provider.openai
    else if isText (· = "xai") (property identity "provider") then .ok Provider.xai
    else .error (localError .invalidCallIdentity "Provider call identity needs openai or xai")
  let callId ← match property identity "callId" with
    | .string callId =>
      if callId.utf8ByteSize ≤ MCP_MAX_PROVIDER_TOOL_CALL_ID_BYTES && isProviderCallId callId then
        .ok callId
      else .error (localError .invalidCallIdentity "Provider callId is invalid")
    | _ => .error (localError .invalidCallIdentity "Provider callId is invalid")
  let responseId ← match property identity "responseId" with
    | .string responseId =>
      if isProviderItemId responseId then .ok responseId
      else .error (localError .invalidCallIdentity "Provider responseId is required and invalid")
    | _ => .error (localError .invalidCallIdentity "Provider responseId is required and invalid")
  let itemId ← match property identity "itemId" with
    | .undefined => .ok none
    | .string itemId =>
      if isProviderItemId itemId then .ok (some itemId)
      else .error (localError .invalidCallIdentity "Provider itemId is invalid")
    | _ => .error (localError .invalidCallIdentity "Provider itemId is invalid")
  pure { provider, responseId, callId, itemId }

def gatewayCallKeys : List String :=
  ["provider", "responseId", "itemId", "callId", "name", "arguments", "activeCatalogAuthority"]

def normalizeGatewayCall (input : Value) : Except ClientError GatewayRequest := do
  require (isRecord input) (localError .invalidCall "Gateway call must be an object")
  require ((keysOf input).all gatewayCallKeys.contains)
    (localError .invalidCall "Gateway call contains an unsupported field")
  require (isUndefined (property input "name") ||
      isText (· = "capability_gateway") (property input "name"))
    (localError .toolNotAllowed "Authority client allows only capability_gateway")
  let gatewayArguments := property input "arguments"
  require (isRecord gatewayArguments)
    (localError .invalidArguments "capability_gateway arguments must be an object")
  let _ ← assertStrictJson "capability_gateway arguments" 0 {} gatewayArguments
  require (exactKeys gatewayArguments ["arguments", "tool_name"]) (localError .invalidArguments
      "capability_gateway requires exactly tool_name and arguments; provenance is bridge-owned")
  let toolName ← match property gatewayArguments "tool_name" with
    | .string name =>
      if isToolName name then .ok name
      else .error (localError .invalidArguments "capability_gateway tool_name is invalid")
    | _ => .error (localError .invalidArguments "capability_gateway tool_name is invalid")
  let targetArguments := property gatewayArguments "arguments"
  require (isRecord targetArguments)
    (localError .invalidArguments "capability_gateway target arguments must be an object")
  let identity ← normalizeProviderCallIdentity input
  let activeCatalogAuthority ←
    normalizeActiveCatalogAuthority (property input "activeCatalogAuthority")
  pure { identity, toolName, arguments := targetArguments, activeCatalogAuthority }

/-! ### The JSON-RPC answer -/

/-- The error of a response that is read but not as the protocol has it. -/
def invalidAnswer (code : ErrorCode) (message : String) (possible : Bool) : ClientError where
  code := code
  message := message
  indeterminate := possible
  executionStarted := some possible

def boundTo (requestId : String) (candidate : Value) : Bool :=
  isRecord candidate && isText (· = "2.0") (property candidate "jsonrpc") &&
    isText (· = requestId) (property candidate "id")

/-- An error object of the protocol. -/
def isRpcErrorObject (error : Value) : Bool :=
  isRecord error && (safeInteger (property error "code")).isSome &&
    isText (fun _ => true) (property error "message")

def parseRpcResponse (candidate : Value) (requestId : String) (possible : Bool) :
    Except ClientError Value := do
  require (boundTo requestId candidate)
    (invalidAnswer .rpcIdentityMismatch "MCP response identity did not match the request" possible)
  let hasResult := hasField (recordFields candidate) "result"
  let hasError := hasField (recordFields candidate) "error"
  require (hasResult != hasError)
    (invalidAnswer .invalidRpcResponse "MCP response must contain exactly one of result or error"
      possible)
  require ((keysOf candidate).all
      ["jsonrpc", "id", if hasResult then "result" else "error"].contains)
    (invalidAnswer .invalidRpcResponse "MCP response contains unexpected fields" possible)
  if hasError then
    let error := property candidate "error"
    require (isRpcErrorObject error)
      (invalidAnswer .invalidRpcError "MCP response contained an invalid JSON-RPC error" possible)
    require ((keysOf error).all ["code", "message"].contains)
      (invalidAnswer .invalidRpcError "MCP JSON-RPC error contains unexpected fields" possible)
    .error
      { code := .rpcError
        message := "MCP authority returned JSON-RPC error " ++ (property error "code").print
        status := some 200
        executionStarted := some false }
  else
    let result := property candidate "result"
    let _ ← assertStrictJson "MCP result" 0 {} result
    pure result

def isMcpSessionExpiredResponse (candidate : Value) (requestId : String) : Bool :=
  boundTo requestId candidate && (keysOf candidate).length = 3 &&
    hasField (recordFields candidate) "error" && isRecord (property candidate "error") &&
    (keysOf (property candidate "error")).length = 2 &&
    (safeInteger (property (property candidate "error") "code")) == some (-32002) &&
    isText (· = "invalid MCP session") (property (property candidate "error") "message")

/-! ### The tool result -/

inductive Availability where
  | active | blocked
deriving DecidableEq

def Availability.text : Availability → String
  | .active => "active"
  | .blocked => "blocked"

/-- What a gateway envelope reports about the catalog. -/
structure CatalogReport where
  catalogDigest : String
  capabilityEpoch : Value
  availability : Availability

structure ToolResult where
  output : Value
  isError : Bool
  activeCatalogAuthority : CatalogReport

def invalidToolResult (message : String) : ClientError where
  code := .invalidToolResult
  message := message
  indeterminate := true

def invalidActiveCatalogResult : ClientError where
  code := .invalidActiveCatalogResult
  message := "MCP tools/call result omitted a valid active capability catalog envelope"
  indeterminate := true
  executionStarted := some true

def isArray : Value → Bool
  | .array _ => true
  | _ => false

def arrayItems : Value → List Value
  | .array items => items
  | _ => []

def isOneOf (choices : List String) : Value → Bool := isText choices.contains

def validInvocationPolicy (policy : Value) : Bool :=
  isRecord policy && (keysOf policy).all ["idempotency", "max_calls"].contains &&
    isOneOf ["none", "per_step", "per_arguments", "per_call", "per_call_arguments"]
      (property policy "idempotency") &&
    (isUndefined (property policy "max_calls") ||
      match safeInteger (property policy "max_calls") with
      | some most => 1 ≤ most && most ≤ 100
      | none => false)

def validInvocation (logicalName : Value) (invocation : Value) : Bool :=
  isRecord invocation && isText (· = "$MODEL_ARGUMENTS") (property invocation "arguments_from") &&
    if isText (· = "direct") (property invocation "mode") then
      exactKeys invocation ["mode", "tool_name", "arguments_from"] &&
        isText isToolName (property invocation "tool_name")
    else
      isText (· = "host_bound_action") (property invocation "mode") && exactKeys invocation
          ["mode", "tool_name", "arguments_from", "lease_scope_digest", "policy"] &&
        (match logicalName with
        | .string name => isText (· = name) (property invocation "tool_name")
        | _ => false) &&
        isText isHexDigest (property invocation "lease_scope_digest") &&
        validInvocationPolicy (property invocation "policy")

/-- Outcome names of a tool, each at most once. -/
def validOutcomes (outcomes : Value) : Bool :=
  isArray outcomes && 1 ≤ (arrayItems outcomes).length &&
    (arrayItems outcomes).all (isOneOf ["completed", "pending", "rejected", "indeterminate"]) &&
    decide ((arrayItems outcomes).map Value.print).Nodup

def validateActiveCatalogTool (tool : Value) : Bool :=
  isRecord tool &&
    (keysOf tool).all ["logical_name", "description", "input_schema", "output_schema", "effect",
      "invocation", "allowed_outcomes"].contains &&
    isText isToolName (property tool "logical_name") &&
    isText (fun text => text ≠ "" && text.utf8ByteSize ≤ 2 * 1024) (property tool "description") &&
    isRecord (property tool "input_schema") &&
    (isUndefined (property tool "output_schema") || isRecord (property tool "output_schema")) &&
    (isUndefined (property tool "effect") ||
      isOneOf ["read", "write", "opaque"] (property tool "effect")) &&
    validOutcomes (property tool "allowed_outcomes") &&
    validInvocation (property tool "logical_name") (property tool "invocation")

def validCatalogScope (scope : Value) : Bool :=
  exactKeys scope ["status", "topic", "step", "attempt"] &&
    isOneOf ["routing", "active", "completed", "failed", "direct"] (property scope "status") &&
    (match property scope "topic" with
    | .null => true
    | .string topic => topic.utf8ByteSize ≤ 256
    | _ => false) &&
    isText (fun step => step ≠ "" && step.utf8ByteSize ≤ 512) (property scope "step") &&
    isSafeNatural (property scope "attempt")

def availabilityOf (value : Value) : Option Availability :=
  if isText (· = "active") value then some .active
  else if isText (· = "blocked") value then some .blocked
  else none

def validateActiveCatalogEnvelope (output : Value) : Except ClientError CatalogReport := do
  require (exactKeys output ["schema_version", "outcome", "active_capability_catalog"] &&
    isOne (property output "schema_version")) invalidActiveCatalogResult
  let catalog := property output "active_capability_catalog"
  require (exactKeys catalog ["schema_version", "availability", "runtime_digest",
      "capability_epoch", "state_revision", "scope", "active_context", "catalog_digest", "tools"] &&
    isOne (property catalog "schema_version") &&
    isText isHexDigest (property catalog "runtime_digest") &&
    isSafeNatural (property catalog "capability_epoch") &&
    isSafeNatural (property catalog "state_revision") &&
    isRecord (property catalog "active_context") && isArray (property catalog "tools") &&
    (arrayItems (property catalog "tools")).length ≤ 64 &&
    catalog.print.utf8ByteSize ≤ 96 * 1024 &&
    validCatalogScope (property catalog "scope") &&
    (arrayItems (property catalog "tools")).all validateActiveCatalogTool)
    invalidActiveCatalogResult
  match property catalog "catalog_digest", availabilityOf (property catalog "availability") with
  | .string digest, some availability => do
      require (isHexDigest digest &&
        (availability = .active || (arrayItems (property catalog "tools")).length = 0))
        invalidActiveCatalogResult
      pure ⟨digest, property catalog "capability_epoch", availability⟩
  | _, _ => .error invalidActiveCatalogResult

/-- Limits on the JSON of a response or of the text within a result. -/
def responseLimits (maximumBytes : Nat) : StrictJson.Limits where
  maxBytes := maximumBytes
  maxDepth := 32
  maxNodes := 16384
  maxObjectKeys := 256
  maxArrayLength := 4096
  maxStringBytes := maximumBytes
  maxKeyBytes := 256
  maxNumberChars := 128

def parseToolCallResult (readNumber : String → Option JsonNumber) (maximumBytes : Nat)
    (result : Value) : Except ClientError ToolResult :=
  match property result "content", property result "isError" with
  | .array [item], .bool isError =>
    match property item "text" with
    | .string text => do
        require (isText (· = "text") (property item "type") &&
            (keysOf item).all ["type", "text"].contains)
          (invalidToolResult "MCP tools/call content must contain bounded text items")
        require ((keysOf result).all ["content", "isError"].contains)
          (invalidToolResult "MCP tools/call result contains unexpected fields")
        match StrictJson.parseCappedJson readNumber (responseLimits maximumBytes) (.text text) with
        | .error _ =>
          .error (invalidToolResult "MCP tools/call text item must contain one strict JSON value")
        | .ok output => do
            let activeCatalogAuthority ← validateActiveCatalogEnvelope output
            pure { output, isError, activeCatalogAuthority }
    | _ => .error (invalidToolResult "MCP tools/call content must contain bounded text items")
  | _, _ => .error (invalidToolResult "MCP tools/call result has an invalid shape")

/-! ### What is printed of them -/

def CallIdentity.toValue (identity : CallIdentity) : Value :=
  .object ([("provider", .string identity.provider.text), ("responseId", .string identity.responseId),
    ("callId", .string identity.callId)] ++
    (identity.itemId.map fun itemId => ("itemId", Value.string itemId)).toList)

def CatalogAuthority.toValue (authority : CatalogAuthority) : Value :=
  .object [("catalogDigest", .string authority.catalogDigest),
    ("capabilityEpoch", .number (.finite (integerNumber authority.capabilityEpoch)))]

def ToolResult.toValue (result : ToolResult) : Value :=
  .object [("output", result.output), ("isError", .bool result.isError),
    ("activeCatalogAuthority", .object
      [("catalogDigest", .string result.activeCatalogAuthority.catalogDigest),
        ("capabilityEpoch", result.activeCatalogAuthority.capabilityEpoch),
        ("availability", .string result.activeCatalogAuthority.availability.text)])]

end CallCenter.AuthorityProtocol
