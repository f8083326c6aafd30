import CallCenter.AuthorityProtocol
import CallCenter.Interactions
import CallCenter.Utf16Texts

/-!
# The bridge's authority client

One gateway call is an operation that may post several times: a lost or refused attempt is
repeated, and one expired MCP session is renewed on the way. The operation is written as a
program that asks its surroundings for everything it awaits and for every flag it reads, since
other calls, timers and `close` run between any two of its steps.

The client keeps one table entry for each JSON-RPC id. Equal calls join the pending operation or
replay its outcome, and old outcomes are evicted. The handshake that opens a session is shared by
all calls; here a call only waits for it.
-/

namespace CallCenter.AuthorityClient

open AuthorityProtocol Guards Interactions JsonValues ObjectFields

def MAX_TRACKED_CALLS : Nat := 10000
def MAX_IN_FLIGHT_CALLS : Nat := 128
def RETRYABLE_HTTP_STATUS : List Nat := [408, 425, 429, 500, 502, 503, 504]

structure ClientOptions where
  timeoutMs : Nat := 12000
  maximumResponseBytes : Nat := MAX_RPC_RESPONSE_BYTES
  maximumAttempts : Nat := 2
  maximumRetainedResultBytes : Nat := 8 * 1024 * 1024

/-- The language's number conversion and the hexadecimal SHA-256 of a text. -/
structure ClientHost where
  readNumber : String → Option JsonNumber
  hash : String → String

/-- What can be thrown: a client error or anything else. -/
inductive Failure where
  | typed (error : ClientError)
  | raw

/-! ### Answers of the transport -/

/-- A response body as its reader yields it; `none` is a chunk that is not bytes. -/
structure BodyScript where
  chunks : List (Option (List UInt8))
  failed : Bool

structure Response where
  status : Nat
  redirected : Bool := false
  contentType : Option String
  contentLength : Option String := none
  body : Option BodyScript

/-- `Response.ok`. -/
def Response.ok (response : Response) : Bool := 200 ≤ response.status && response.status ≤ 299

inductive FetchResult where
  | notResponse
  | response (response : Response)

def isTrimmed (c : Char) : Bool :=
  (9 ≤ c.toNat && c.toNat ≤ 13) || (0x2000 ≤ c.toNat && c.toNat ≤ 0x200a) ||
    [0x20, 0xa0, 0x1680, 0x2028, 0x2029, 0x202f, 0x205f, 0x3000, 0xfeff].contains c.toNat

/-- The media type of a content-type header. -/
def mediaType (header : String) : String :=
  let first := header.toList.takeWhile (· ≠ ';')
  let trimmed := ((first.dropWhile isTrimmed).reverse.dropWhile isTrimmed).reverse
  String.ofList (trimmed.map Char.toLower)

/-- Bytes of the chunks up to the first that fails: `none` for a failed read, and the error of a
body that is too large. -/
def readChunks (maximumBytes : Nat) (tooLarge : ClientError) :
    List (Option (List UInt8)) → Bool → List UInt8 → Except (Option ClientError) (List UInt8)
  | [], failed, bytes => if failed then .error none else .ok bytes
  | none :: _, _, _ => .error none
  | some chunk :: rest, failed, bytes =>
    if (bytes ++ chunk).length ≤ maximumBytes then
      readChunks maximumBytes tooLarge rest failed (bytes ++ chunk)
    else .error (some tooLarge)

section Operation

variable (host : ClientHost) (options : ClientOptions)

/-- An advertised length that the client reads on. -/
def acceptableLength (maximumBytes : Nat) : Option String → Bool
  | none => true
  | some text => text.toList ≠ [] && text.toList.all Char.isDigit &&
      Nat.ofDigitChars 10 text.toList 0 ≤ maximumBytes

/-- A body that stopped before its end. -/
def readFailure (possible aborted : Bool) : ClientError where
  code := if aborted then .timeout else .responseReadFailed
  message :=
    if aborted then "MCP request timed out after " ++ toString options.timeoutMs ++ " ms"
    else "MCP response failed while reading"
  retryable := true
  indeterminate := possible
  executionStarted := some possible

def readBodyCapped (possible aborted : Bool) (response : Response) :
    Except ClientError (List UInt8) := do
  let tooLarge := invalidAnswer .responseTooLarge
    ("MCP response exceeds " ++ toString options.maximumResponseBytes ++ " bytes") possible
  require (acceptableLength options.maximumResponseBytes response.contentLength) tooLarge
  match response.body with
  | none => .error (invalidAnswer .invalidResponse "MCP response has no readable body" possible)
  | some body =>
    match readChunks options.maximumResponseBytes tooLarge body.chunks body.failed [] with
    | .ok bytes => .ok bytes
    | .error (some tooLarge) => .error tooLarge
    | .error none => .error (readFailure options possible aborted)

/-- Whether the tool started, when only the answer is missing. -/
def startedUnknown (possible : Bool) : Option Bool := if possible then none else some false

def sessionExpired : ClientError where
  code := .mcpSessionExpired
  message := "MCP transport session expired before tool dispatch"
  status := some 404
  executionStarted := some false

def httpError (status : Nat) (possible : Bool) : ClientError where
  code := .httpError
  message := "MCP authority returned HTTP " ++ toString status
  status := some status
  retryable := RETRYABLE_HTTP_STATUS.contains status
  indeterminate := possible && (500 ≤ status || status = 408 || status = 429)
  executionStarted := some possible

/-- A response whose status may still ask for another attempt, but which is not JSON. -/
def unreadable (code : ErrorCode) (message : String) (status : Nat) (possible : Bool) :
    ClientError where
  code := code
  message := message
  status := some status
  retryable := RETRYABLE_HTTP_STATUS.contains status
  indeterminate := possible
  executionStarted := some possible

/-- An answer that is not taken at all. -/
def refusedAnswer (code : ErrorCode) (message : String) (possible : Bool) : ClientError where
  code := code
  message := message
  indeterminate := possible
  executionStarted := startedUnknown possible

/-- What an answer to the request means; `aborted` is the attempt's own signal while its body is
read. -/
def readAnswer (requestId : String) (possible aborted : Bool) :
    FetchResult → Except ClientError Value
  | .notResponse =>
    .error (refusedAnswer .invalidResponse "MCP transport returned a non-Response value" possible)
  | .response response => do
      require (!response.redirected)
        (refusedAnswer .redirectRefused "MCP authority redirects are not allowed" possible)
      let body ← readBodyCapped options possible aborted response
      require (response.contentType.map mediaType == some "application/json")
        (unreadable .invalidContentType "MCP response was not application/json" response.status
          possible)
      match StrictJson.parseCappedJson host.readNumber
          (responseLimits options.maximumResponseBytes) (.binary [some body]) with
      | .error _ =>
        .error (unreadable .invalidJson "MCP response was not valid bounded UTF-8 JSON"
          response.status possible)
      | .ok candidate =>
        if response.ok then parseRpcResponse candidate requestId possible
        else if response.status = 404 && isMcpSessionExpiredResponse candidate requestId then
          .error sessionExpired
        else .error (httpError response.status possible)

/-! ### The operation of one call -/

/-- Flags that are read between awaits: the client is closed, the operation's deadline has
passed, the attempt's own controller has aborted. -/
structure Signals where
  closed : Bool := false
  operationAborted : Bool := false
  attemptAborted : Bool := false

def Signals.stopped (signals : Signals) : Bool := signals.closed || signals.operationAborted

structure McpSession where
  sessionId : String
  protocolVersion : String

inductive CallAsk where
  | signals
  | session
  | invalidateSession (stale : Option McpSession)
  | initialization
  | post (body : String) (session : Option McpSession)
  | sleep (milliseconds : Nat)

@[reducible] def CallAnswer : CallAsk → Type
  | .signals => Signals
  | .session => Option McpSession
  | .invalidateSession _ => Unit
  | .initialization => Unit
  | .post _ _ => FetchResult
  | .sleep _ => Unit

abbrev CallProgram (α : Type) := Program CallAsk CallAnswer Failure α

/-- Reading a flag does not throw. -/
def readSignals : CallProgram Signals := do
  match ← (Program.ask CallAsk.signals).attempt with
  | .ok signals => pure signals
  | .error _ => pure {}

/-- Neither does reading the session that calls share. -/
def currentSession : CallProgram (Option McpSession) := do
  match ← (Program.ask CallAsk.session).attempt with
  | .ok session => pure session
  | .error _ => pure none

def invalidateSession (stale : Option McpSession) : CallProgram Unit := do
  let _ ← (Program.ask (CallAsk.invalidateSession stale)).attempt
  pure ()

def abortFailure (signals : Signals) (possible : Bool) (prior : Option Failure) : ClientError :=
  let priorError := match prior with
    | some (.typed error) => some error
    | _ => none
  let indeterminate := possible && (match priorError with
    | some error => error.indeterminate
    | none => true)
  { code := if signals.closed then .authorityClosed else .timeout
    message :=
      if signals.closed then "Authority client closed before the operation settled"
      else "MCP operation timed out after " ++ toString options.timeoutMs ++ " ms"
    indeterminate
    executionStarted :=
      if indeterminate then priorError.bind ClientError.executionStarted else some false }

def ensureInitialized : CallProgram Unit := do
  let signals ← readSignals
  if signals.stopped then Program.throws (.typed (abortFailure options signals false none))
  else
    match ← currentSession with
    | some _ => pure ()
    | none => Program.ask CallAsk.initialization

def rpcAttempt (requestId body : String) (session : Option McpSession) (possible : Bool) :
    CallProgram Value := do
  let signals ← readSignals
  if signals.stopped then Program.throws (.typed (abortFailure options signals false none))
  else
    match ← (Program.ask (CallAsk.post body session)).attempt with
    | .error _ => do
        let signals ← readSignals
        if signals.stopped then
          Program.throws (.typed (abortFailure options signals possible (some .raw)))
        else
          Program.throws (.typed
            { code := if signals.attemptAborted then .timeout else .transportError
              message :=
                if signals.attemptAborted then
                  "MCP request timed out after " ++ toString options.timeoutMs ++ " ms"
                else "MCP transport failed after dispatch began"
              retryable := true
              indeterminate := possible
              executionStarted := startedUnknown possible })
    | .ok answer => do
        let reading ← readSignals
        match readAnswer host options requestId possible reading.attemptAborted answer with
        | .ok result => pure result
        | .error error => do
            let signals ← readSignals
            if signals.stopped then
              Program.throws (.typed (abortFailure options signals possible (some (.typed error))))
            else Program.throws (.typed error)

def retryDelay (milliseconds : Nat) (possible : Bool) (prior : ClientError) : CallProgram Unit := do
  let signals ← readSignals
  if signals.stopped then
    Program.throws (.typed (abortFailure options signals possible (some (.typed prior))))
  else
    match ← (Program.ask (CallAsk.sleep milliseconds)).attempt with
    | .ok _ => pure ()
    | .error _ => do
        let signals ← readSignals
        if signals.stopped then
          Program.throws (.typed (abortFailure options signals possible (some (.typed prior))))
        else Program.throws .raw

/-- An operation's failures as the client reports them. -/
def transportFailure : ClientError where
  code := .transportError
  message := "MCP transport failed"
  retryable := true
  indeterminate := true

def typedFailure : Failure → ClientError
  | .typed error => error
  | .raw => transportFailure

/-- One pass of the loop over attempts. `recover` is the pass after a renewed session, as long as
no recovery was tried; `retry` is the next attempt, when there is one. -/
def callPass (rpcId body : String) (attempt : Nat) (recover retry : Option (CallProgram ToolResult)) :
    CallProgram ToolResult := do
  let session ← currentSession
  let answered ← (do
    let result ← rpcAttempt host options rpcId body session true
    Program.lift ((parseToolCallResult host.readNumber options.maximumResponseBytes result).mapError
      Failure.typed)).attempt
  match answered with
  | .ok result => pure result
  | .error failure =>
    let typed := typedFailure failure
    match recover with
    | some recovered =>
      if typed.code = .mcpSessionExpired then do
        invalidateSession session
        match ← (ensureInitialized options).attempt with
        | .ok _ => recovered
        | .error initializationError => do
            let signals ← readSignals
            if signals.stopped then
              Program.throws (.typed (abortFailure options signals true (some (.typed typed))))
            else Program.throws initializationError
      else repeatCall typed
    | none => repeatCall typed
where
  repeatCall (typed : ClientError) : CallProgram ToolResult :=
    match retry with
    | none => Program.throws (.typed typed)
    | some next =>
      if typed.retryable then do
        retryDelay options (min 500 (50 * 2 ^ (attempt - 1))) true typed
        next
      else Program.throws (.typed typed)

/-- The attempts that are left after a recovered session; at least one. -/
def attemptsRecovered (rpcId body : String) : Nat → CallProgram ToolResult
  | 0 => callPass host options rpcId body options.maximumAttempts none none
  | left + 1 => callPass host options rpcId body (options.maximumAttempts - (left + 1)) none
      (some (attemptsRecovered rpcId body left))

/-- The attempts of a call that has not renewed its session. -/
def attemptsFresh (rpcId body : String) : Nat → CallProgram ToolResult
  | 0 => callPass host options rpcId body options.maximumAttempts
      (some (attemptsRecovered host options rpcId body 0)) none
  | left + 1 => callPass host options rpcId body (options.maximumAttempts - (left + 1))
      (some (attemptsRecovered host options rpcId body (left + 1)))
      (some (attemptsFresh rpcId body left))

/-- The JSON-RPC request of a call. -/
def callEnvelope (rpcId : String) (request : GatewayRequest) : Value :=
  .object [("jsonrpc", .string "2.0"), ("id", .string rpcId), ("method", .string "tools/call"),
      ("params", .object [("name", .string request.toolName), ("arguments", request.arguments),
          ("_meta", .object [(MCP_PROVIDER_TOOL_CALL_ID_META_KEY, .string request.identity.callId),
              (MCP_ACTIVE_CATALOG_META_KEY, .object
                [("catalog_digest", .string request.activeCatalogAuthority.catalogDigest),
                  ("capability_epoch", .number (.finite (FlowCapability.integerNumber
                    request.activeCatalogAuthority.capabilityEpoch)))])])])]

def performCall (rpcId : String) (request : GatewayRequest) : CallProgram ToolResult := do
  match ← (ensureInitialized options).attempt with
  | .error error => do
      let signals ← readSignals
      if signals.stopped then
        Program.throws (.typed (abortFailure options signals false (some error)))
      else Program.throws error
  | .ok _ =>
    let body := (callEnvelope rpcId request).print
    if body.utf8ByteSize ≤ MAX_RPC_REQUEST_BYTES then
      attemptsFresh host options rpcId body (options.maximumAttempts - 1)
    else Program.throws (.typed (localError .requestTooLarge "MCP request exceeds 262144 bytes"))

end Operation

/-! ### The client's tables -/

/-- What a post came back with. -/
abbrev PostReply := Except Failure FetchResult

abbrev CallExchange := Exchange CallAsk CallAnswer Failure

/-- The replies to the posts among an operation's exchanges. -/
def postReplies : List CallExchange → List PostReply
  | [] => []
  | ⟨.post _ _, reply⟩ :: rest => reply :: postReplies rest
  | _ :: rest => postReplies rest

/-- A post with the JSON-RPC id that it carried. -/
structure Posted where
  rpcId : String
  reply : PostReply

def postsOf (rpcId : String) (exchanges : List CallExchange) : List Posted :=
  (postReplies exchanges).map (Posted.mk rpcId)

inductive EntryState where
  | pending (request : GatewayRequest)
  | result (result : ToolResult)
  | error (error : ClientError)
  | evicted (indeterminate : Bool) (executionStarted : Option Bool)

/-- A tracked call. Its posts are kept for the statements only. -/
structure Entry where
  fingerprint : String
  state : EntryState
  retainedBytes : Nat := 0
  posts : List Posted := []

/-- How one invocation ended, and the posts that were made for its call. -/
structure Delivery where
  outcome : Except ClientError ToolResult
  posts : List Posted

structure Client where
  calls : List (String × Entry) := []
  callIdentityByProviderId : List (String × String) := []
  settledOrder : List String := []
  retainedResultBytes : Nat := 0
  inFlightCalls : Nat := 0
  closed : Bool := false
  deliveries : List Delivery := []

def Client.deliver (client : Client) (outcome : Except ClientError ToolResult)
    (posts : List Posted) : Client :=
  { client with deliveries := client.deliveries ++ [⟨outcome, posts⟩] }

def providerCallRpcId (host : ClientHost) (identity : CallIdentity) : String :=
  "bridge-call:v1:" ++ host.hash ("hacc/bridge-provider-call/v1\x00" ++ identity.toValue.text)

def providerCallKey (identity : CallIdentity) : String :=
  identity.provider.text ++ "\x00" ++ identity.callId

def callFingerprint (host : ClientHost) (request : GatewayRequest) : String :=
  host.hash ("hacc/authority-call/v1\x00" ++ (Value.object
    [("rpcId", .string (providerCallRpcId host request.identity)),
      ("name", .string request.toolName), ("arguments", request.arguments),
      ("activeCatalogAuthority", request.activeCatalogAuthority.toValue)]).text)

def identityConflict (message : String) : ClientError :=
  localError .providerCallIdentityConflict message

def closedError : ClientError where
  code := .authorityClosed
  message := "Authority client is closed"
  executionStarted := some false

def evictedError (indeterminate : Bool) (executionStarted : Option Bool) : ClientError where
  code := .replayResultEvicted
  message := "The authority outcome is settled but no longer retained in this bridge process"
  indeterminate := indeterminate
  executionStarted := executionStarted

/-- An equal call: it joins the operation or replays what is kept of its outcome. -/
def Client.replay (client : Client) (prior : Entry) : Client :=
  match prior.state with
  | .pending _ => client
  | .result result => client.deliver (.ok result) prior.posts
  | .error error => client.deliver (.error error) prior.posts
  | .evicted indeterminate executionStarted =>
    client.deliver (.error (evictedError indeterminate executionStarted)) prior.posts

def Client.start (host : ClientHost) (client : Client) (request : GatewayRequest) : Client :=
  { client with
    callIdentityByProviderId := setField client.callIdentityByProviderId
      (providerCallKey request.identity) request.identity.toValue.text
    calls := setField client.calls (providerCallRpcId host request.identity)
      { fingerprint := callFingerprint host request, state := .pending request }
    inFlightCalls := client.inFlightCalls + 1 }

def callCapabilityGateway (host : ClientHost) (client : Client) (input : Value) : Client :=
  if client.closed then client.deliver (.error closedError) []
  else
    match normalizeGatewayCall input with
    | .error error => client.deliver (.error error) []
    | .ok request =>
      let priorIdentity := client.callIdentityByProviderId.lookup (providerCallKey request.identity)
      if priorIdentity.any (· ≠ request.identity.toValue.text) then
        client.deliver (.error (identityConflict
          "Provider callId was reused with different response or item provenance")) []
      else
        match client.calls.lookup (providerCallRpcId host request.identity) with
        | some prior =>
          if prior.fingerprint = callFingerprint host request then client.replay prior
          else client.deliver (.error (identityConflict
            "Provider call identity was reused with different gateway arguments")) []
        | none =>
          if MAX_TRACKED_CALLS ≤ client.calls.length then
            client.deliver (.error (localError .identityLimit
              "Authority client exceeded 10000 provider calls")) []
          else if MAX_IN_FLIGHT_CALLS ≤ client.inFlightCalls then
            client.deliver (.error (localError .inFlightLimit
              "Authority client exceeded 128 concurrent calls")) []
          else client.start host request

def compactAuthorityError (error : ClientError) : ClientError :=
  { error with
    message := String.ofList (Utf16Texts.decodeUnits ((utf16 error.message).take 2000)) }

/-- Forget an outcome, except whether the tool may have run. -/
def Client.evict (client : Client) (rpcId : String) (entry : Entry) (indeterminate : Bool)
    (executionStarted : Option Bool) : Client :=
  { client with
    retainedResultBytes := client.retainedResultBytes - entry.retainedBytes
    calls := setField client.calls rpcId
      { entry with state := .evicted indeterminate executionStarted, retainedBytes := 0 } }

/-- Evict the oldest outcomes until the rest fits. -/
def evictSettled (options : ClientOptions) : Client → List String → Client
  | client, [] => { client with settledOrder := [] }
  | client, oldestId :: order =>
    if client.retainedResultBytes ≤ options.maximumRetainedResultBytes then
      { client with settledOrder := oldestId :: order }
    else
      match client.calls.lookup oldestId with
      | none => evictSettled options client order
      | some oldest =>
        match oldest.state with
        | .result _ =>
          evictSettled options (client.evict oldestId oldest true (some true)) order
        | .error error =>
          evictSettled options
            (client.evict oldestId oldest error.indeterminate error.executionStarted) order
        | _ => evictSettled options client order

/-- Keep a settled entry. -/
def retainSettled (options : ClientOptions) (client : Client) (rpcId : String) (entry : Entry) :
    Client :=
  let retained :=
    { client with
      calls := setField client.calls rpcId entry
      inFlightCalls := client.inFlightCalls - 1
      retainedResultBytes := client.retainedResultBytes + entry.retainedBytes }
  evictSettled options retained (client.settledOrder ++ [rpcId])

def settledEntry (entry : Entry) (posts : List Posted) : Except Failure ToolResult → Entry
  | .ok result =>
    { entry with
      state := .result result
      retainedBytes := result.toValue.print.utf8ByteSize
      posts }
  | .error failure =>
    let error := compactAuthorityError (typedFailure failure)
    { entry with
      state := .error error
      retainedBytes := error.message.utf8ByteSize + 256
      posts }

/-- A pending operation ran against its surroundings and ended; everyone who joined it learns
the outcome. -/
def settleCall (host : ClientHost) (options : ClientOptions) (client : Client) (rpcId : String)
    (environment : Environment CallAsk CallAnswer Failure) : Client :=
  match client.calls.lookup rpcId with
  | some entry =>
    match entry.state with
    | .pending request =>
      let (exchanges, outcome) := Interactions.run environment
        (performCall host options rpcId request)
      let posts := postsOf rpcId exchanges
      (retainSettled options client rpcId (settledEntry entry posts outcome)).deliver
        (outcome.mapError typedFailure) posts
    | _ => client
  | none => client

/-- What happens to a client: it is called, an operation ends, it is closed. -/
inductive ClientEvent where
  | call (input : Value)
  | settles (rpcId : String) (environment : Environment CallAsk CallAnswer Failure)
  | close

def step (host : ClientHost) (options : ClientOptions) (client : Client) : ClientEvent → Client
  | .call input => callCapabilityGateway host client input
  | .settles rpcId environment => settleCall host options client rpcId environment
  | .close => { client with closed := true }

end CallCenter.AuthorityClient
