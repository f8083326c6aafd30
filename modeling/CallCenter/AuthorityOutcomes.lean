import CallCenter.AuthorityClient
import CallCenter.Sha256

/-!
# What a rejected authority call says about its posts

A rejection that is not indeterminate tells the session that the tool did not run. Whether that
is so depends on every post of the call. A post is refused when its answer shows that the
authority did not execute it. The operation takes its verdict from the last attempt alone, so an
earlier attempt that was left open is forgotten once a later one ends the call, and a result that
exceeds the local limits is reported as if nothing had run. These two are the only ways in which
the verdict can be wrong.
-/

namespace CallCenter.AuthorityOutcomes

open AuthorityClient AuthorityProtocol Guards Interactions JsonValues ObjectFields

/-! ### The meaning of an answer -/

/-- The bytes of a body that arrived whole. -/
def completeBody (response : Response) : Option (List UInt8) :=
  match response.body with
  | some ⟨chunks, false⟩ => (chunks.mapM id).map List.flatten
  | _ => none

section Answers

variable (host : ClientHost) (options : ClientOptions) (rpcId : String)

/-- The JSON of a complete response. -/
def candidateOf (response : Response) : Option Value :=
  match completeBody response with
  | none => none
  | some body =>
    (StrictJson.parseCappedJson host.readNumber (responseLimits options.maximumResponseBytes)
      (.binary [some body])).toOption

/-- A JSON-RPC error bound to the request. -/
def AnsweredByRpcError (response : Response) : Prop :=
  ∃ candidate, candidateOf host options response = some candidate ∧ boundTo rpcId candidate = true ∧
    hasField (recordFields candidate) "result" = false ∧
    hasField (recordFields candidate) "error" = true ∧
    isRpcErrorObject (property candidate "error") = true

/-- The exact answer to a session that the authority does not know. -/
def AnsweredByExpiry (response : Response) : Prop :=
  response.status = 404 ∧ ∃ candidate, candidateOf host options response = some candidate ∧
    isMcpSessionExpiredResponse candidate rpcId = true

/-- A status that no executed request has. -/
def RefusingStatus (status : Nat) : Prop :=
  ¬(200 ≤ status ∧ status ≤ 299) ∧ status ≠ 408 ∧ status ≠ 429 ∧ ¬(500 ≤ status ∧ status ≤ 599)

/-- The complete answer shows that the authority did not execute the post. -/
def Refused : PostReply → Prop
  | .ok (.response response) => (completeBody response).isSome = true ∧
      (AnsweredByRpcError host options rpcId response ∨ AnsweredByExpiry host options rpcId response ∨
        RefusingStatus response.status)
  | _ => False

/-- The post may have been executed, but another attempt follows: no answer came, its body broke
off, or its status is one on which the client repeats the request. -/
def LeftOpen : PostReply → Prop
  | .error _ => True
  | .ok .notResponse => False
  | .ok (.response response) =>
    (∃ body, response.body = some body ∧ completeBody response = none) ∨
      (response.status ∈ [408, 429, 500, 502, 503, 504] ∧
        ¬AnsweredByRpcError host options rpcId response)

/-- The post was answered by a JSON-RPC result for the request which the client's own limits on
JSON reject. -/
def ResultOverLimits : PostReply → Prop
  | .ok (.response response) => response.ok = true ∧
      ∃ candidate error, candidateOf host options response = some candidate ∧
        boundTo rpcId candidate = true ∧ hasField (recordFields candidate) "result" = true ∧
        hasField (recordFields candidate) "error" = false ∧
        assertStrictJson "MCP result" 0 {} (property candidate "result") = .error error
  | _ => False

def Accounted (reply : PostReply) : Prop :=
  Refused host options rpcId reply ∨ LeftOpen host options rpcId reply ∨
    ResultOverLimits host options rpcId reply

end Answers

section Classification

variable {host : ClientHost} {options : ClientOptions} {rpcId : String}

/-- A refused post was neither left open nor answered by a result. -/
theorem not_leftOpen_of_refused {reply : PostReply} (refused : Refused host options rpcId reply) :
    ¬LeftOpen host options rpcId reply ∧ ¬ResultOverLimits host options rpcId reply := by
  rcases reply with failure | answer
  · exact refused.elim
  cases answer with
  | notResponse => exact refused.elim
  | response =>
    obtain ⟨complete, reason⟩ := refused
    constructor
    · rintro (⟨body, _, broken⟩ | ⟨status, notError⟩)
      · simp [broken] at complete
      · rcases reason with rpcError | ⟨missing, _⟩ | outside
        · exact notError rpcError
        · simp [missing] at status
        · simp only [List.mem_cons, List.not_mem_nil, or_false] at status
          have := outside.2
          omega
    · rintro ⟨ok, candidate, error, read, _, _, noError, _⟩
      simp only [Response.ok, Bool.and_eq_true, decide_eq_true_eq] at ok
      rcases reason with ⟨other, readOther, _, _, hasError, _⟩ | ⟨missing, _⟩ | outside
      · obtain rfl : candidate = other := Option.some.inj (read.symm.trans readOther)
        rw [noError] at hasError
        cases hasError
      · omega
      · exact outside.1 ok

/-- What the chunks after some bytes amount to. -/
def ChunksAre (tooLarge : ClientError) (chunks : List (Option (List UInt8))) (failed : Bool)
    (bytes : List UInt8) : Except (Option ClientError) (List UInt8) → Prop
  | .ok whole => failed = false ∧ ∃ parts, chunks.mapM id = some parts ∧ whole = bytes ++ parts.flatten
  | .error none => failed = true ∨ chunks.mapM id = none
  | .error (some error) => error = tooLarge

theorem readChunks_spec {maximumBytes : Nat} {tooLarge : ClientError}
    {chunks : List (Option (List UInt8))} {failed : Bool} {bytes : List UInt8}
    {result : Except (Option ClientError) (List UInt8)}
    (read : readChunks maximumBytes tooLarge chunks failed bytes = result) :
    ChunksAre tooLarge chunks failed bytes result := by
  induction chunks generalizing bytes with
  | nil =>
    subst read
    cases failed with
    | false | true => simp [readChunks, ChunksAre]
  | cons chunk rest ih =>
    cases chunk with
    | none =>
      subst read
      simp [readChunks, ChunksAre]
    | some chunk =>
      rw [readChunks] at read
      split_ifs at read
      · have later := ih read
        rcases result with ((_ | error) | whole)
        · rcases later with broken | missing
          · exact Or.inl broken
          · exact Or.inr (by simp [missing])
        · exact later
        · obtain ⟨unbroken, parts, collected, same⟩ := later
          exact ⟨unbroken, chunk :: parts, by simp [collected], by simp [same]⟩
      · subst read
        rfl

/-- An error with which the loop over attempts may go on, or end the call as not executed. -/
def Continues (error : ClientError) : Prop :=
  error.indeterminate = false ∨ error.retryable = true ∨ error.code = .mcpSessionExpired

variable {response : Response} {code : ErrorCode} {aborted : Bool} {error : ClientError}

variable {message : String}

theorem not_continues_invalidAnswer (other : code ≠ .mcpSessionExpired) :
    ¬Continues (invalidAnswer code message true) := by
  simp [Continues, invalidAnswer, other]

theorem not_continues_refusedAnswer (other : code ≠ .mcpSessionExpired) :
    ¬Continues (refusedAnswer code message true) := by
  simp [Continues, refusedAnswer, other]

theorem completeBody_of_readBodyCapped {body : List UInt8}
    (read : readBodyCapped options true aborted response = .ok body) :
    completeBody response = some body := by
  simp only [readBodyCapped, bind_ok_iff] at read
  obtain ⟨_, _, read⟩ := read
  split at read
  · cases read
  next script found =>
    split at read
    next bytes chunks =>
      obtain ⟨unbroken, parts, collected, same⟩ := readChunks_spec chunks
      obtain ⟨pieces, failed⟩ := script
      obtain rfl : failed = false := unbroken
      rw [completeBody, found, ← Except.ok.inj read, same]
      simp only [collected]
      rfl
    · cases read
    · cases read

/-- The only failure of reading a body that is repeated is a body that broke off. -/
theorem leftOpen_of_readBodyCapped
    (read : readBodyCapped options true aborted response = .error error)
    (continues : Continues error) : LeftOpen host options rpcId (.ok (.response response)) := by
  simp only [readBodyCapped, bind_error_iff, require_error_iff] at read
  rcases read with ⟨_, rfl⟩ | ⟨_, _, read⟩
  · exact absurd continues (not_continues_invalidAnswer (by decide))
  split at read
  · obtain rfl := Except.error.inj read
    exact absurd continues (not_continues_invalidAnswer (by decide))
  next script found =>
    split at read
    · cases read
    next tooLarge chunks =>
      obtain rfl := Except.error.inj read
      obtain rfl : tooLarge = _ := readChunks_spec chunks
      exact absurd continues (not_continues_invalidAnswer (by decide))
    next chunks =>
      refine Or.inl ⟨script, found, ?_⟩
      obtain ⟨pieces, failed⟩ := script
      rw [completeBody, found]
      cases failed with
      | true => rfl
      | false =>
        have missing : pieces.mapM id = none := by simpa [ChunksAre] using readChunks_spec chunks
        simp [missing]

section

variable (complete : (completeBody response).isSome = true)
include complete

/-- A complete response on whose status the client repeats the request. -/
theorem accounted_of_retryable (retryable : RETRYABLE_HTTP_STATUS.contains response.status) :
    Accounted host options rpcId (.ok (.response response)) := by
  by_cases rpcError : AnsweredByRpcError host options rpcId response
  · exact Or.inl ⟨complete, Or.inl rpcError⟩
  by_cases early : response.status = 425
  · exact Or.inl ⟨complete, Or.inr (Or.inr (by simp [RefusingStatus, early]))⟩
  · have status : response.status ∈ [408, 429, 500, 502, 503, 504] := by
      simp [RETRYABLE_HTTP_STATUS] at retryable ⊢
      omega
    exact Or.inr (Or.inl (Or.inr ⟨status, rpcError⟩))

theorem accounted_of_unreadable (other : code ≠ .mcpSessionExpired)
    (continues : Continues (unreadable code message response.status true)) :
    Accounted host options rpcId (.ok (.response response)) := by
  rcases continues with determinate | retryable | expired
  · cases determinate
  · exact accounted_of_retryable complete retryable
  · exact absurd expired other

theorem accounted_of_httpError (failed : response.ok = false)
    (continues : Continues (httpError response.status true)) :
    Accounted host options rpcId (.ok (.response response)) := by
  rcases continues with determinate | retryable | expired
  · refine Or.inl ⟨complete, Or.inr (Or.inr ?_)⟩
    simp [httpError, Response.ok] at determinate failed
    simp only [RefusingStatus]
    omega
  · exact accounted_of_retryable complete retryable
  · cases expired

/-- A JSON-RPC error ends the call; a result does so only where it exceeds the limits. -/
theorem accounted_of_parseRpcResponse {candidate : Value} (ok : response.ok)
    (candidateRead : candidateOf host options response = some candidate)
    (read : parseRpcResponse candidate rpcId true = .error error) (continues : Continues error) :
    Accounted host options rpcId (.ok (.response response)) := by
  simp only [parseRpcResponse, bind_error_iff, require_error_iff, require_ok_iff] at read
  rcases read with ⟨_, rfl⟩ | ⟨_, bound, ⟨_, rfl⟩ | ⟨_, one, ⟨_, rfl⟩ | ⟨_, _, read⟩⟩⟩
  iterate 3 exact absurd continues (not_continues_invalidAnswer (by decide))
  cases hasError : hasField (recordFields candidate) "error" with
  | true =>
    have noResult : hasField (recordFields candidate) "result" = false := by
      simpa [hasError] using one
    simp only [hasError, if_true, bind_error_iff, require_error_iff, require_ok_iff] at read
    rcases read with ⟨_, rfl⟩ | ⟨_, shaped, _⟩
    · exact absurd continues (not_continues_invalidAnswer (by decide))
    · exact Or.inl ⟨complete, Or.inl ⟨candidate, candidateRead, bound, noResult, hasError, shaped⟩⟩
  | false =>
    have hasResult : hasField (recordFields candidate) "result" := by
      simpa [hasError] using one
    simp only [hasError, Bool.false_eq_true, if_false, bind_error_iff] at read
    rcases read with strict | ⟨_, _, impossible⟩
    · exact Or.inr (Or.inr ⟨ok, candidate, error, candidateRead, bound, hasResult, hasError, strict⟩)
    · cases impossible

end

/-- Every answer with which the operation goes on, or calls the request not executed. -/
theorem accounted_of_readAnswer {answer : FetchResult}
    (read : readAnswer host options rpcId true aborted answer = .error error)
    (continues : Continues error) : Accounted host options rpcId (.ok answer) := by
  cases answer with
  | notResponse =>
    obtain rfl := Except.error.inj read
    exact absurd continues (not_continues_refusedAnswer (by decide))
  | response response =>
    simp only [readAnswer, bind_error_iff, require_error_iff] at read
    rcases read with ⟨_, rfl⟩ | ⟨_, _, broken | ⟨body, whole, read⟩⟩
    · exact absurd continues (not_continues_refusedAnswer (by decide))
    · exact Or.inr (Or.inl (leftOpen_of_readBodyCapped broken continues))
    have arrived := completeBody_of_readBodyCapped whole
    have complete : (completeBody response).isSome := by simp [arrived]
    rcases read with ⟨_, rfl⟩ | ⟨_, _, read⟩
    · exact accounted_of_unreadable complete (by decide) continues
    split at read
    · obtain rfl := Except.error.inj read
      exact accounted_of_unreadable complete (by decide) continues
    next candidate parsed =>
      have candidateRead : candidateOf host options response = some candidate := by
        simp [candidateOf, arrived, parsed, Except.toOption]
      split_ifs at read with ok expired
      · exact accounted_of_parseRpcResponse complete ok candidateRead read continues
      · have missing : response.status = 404 := by simp at expired; exact expired.1
        exact Or.inl ⟨complete, Or.inr (Or.inr (by simp [RefusingStatus, missing]))⟩
      · obtain rfl := Except.error.inj read
        exact accounted_of_httpError complete (by simpa using ok) continues

end Classification

/-! ### The operation -/

@[simp] theorem postReplies_append (front back : List CallExchange) :
    postReplies (front ++ back) = postReplies front ++ postReplies back := by
  induction front with
  | nil => rfl
  | cons exchange rest ih =>
    obtain ⟨question, reply⟩ := exchange
    cases question with
    | post => simp [postReplies, ih]
    | _ => exact ih

/-- A program that posts nothing. -/
abbrev Silent {α : Type} (program : CallProgram α) : Prop :=
  Always program fun exchanges _ => postReplies exchanges = []

section Programs

variable {host : ClientHost} {options : ClientOptions} {rpcId : String}
variable {α β : Type}

variable {Post : List CallExchange → Except Failure β → Prop}

/-- Flags are read without a post, whatever they say. -/
theorem always_readSignals_bind {next : Signals → CallProgram β}
    (each : ∀ reply signals, Always (next signals) fun rest outcome =>
      Post (⟨.signals, reply⟩ :: rest) outcome) : Always (readSignals >>= next) Post := by
  intro reply
  cases reply with
  | error failure => exact each (.error failure) {}
  | ok signals => exact each (.ok signals) signals

theorem always_currentSession_bind {next : Option McpSession → CallProgram β}
    (each : ∀ reply session, Always (next session) fun rest outcome =>
      Post (⟨.session, reply⟩ :: rest) outcome) : Always (currentSession >>= next) Post := by
  intro reply
  cases reply with
  | error failure => exact each (.error failure) none
  | ok session => exact each (.ok session) session

theorem silent_ensureInitialized : Silent (ensureInitialized options) := by
  refine always_readSignals_bind fun reply signals => ?_
  split_ifs
  · rfl
  refine always_currentSession_bind fun reply session => ?_
  cases session with
  | some => rfl
  | none =>
    intro reply
    rfl

/-- A block that posts nothing, before one that may. -/
theorem Silent.attempt_bind {program : CallProgram α} {next : Except Failure α → CallProgram β}
    (silent : Silent program) (Post : List PostReply → Except Failure β → Prop)
    (each : ∀ outcome, Always (next outcome) fun rest result => Post (postReplies rest) result) :
    Always (program.attempt >>= next) fun exchanges result => Post (postReplies exchanges) result := by
  apply Always.attempt_bind silent
  intro exchanges outcome noPost
  apply (each outcome).mono
  intro later result post
  rwa [postReplies_append, noPost]

/-- The call ends as not executed. -/
def Determinate (outcome : Except Failure α) : Prop :=
  ∃ failure, outcome = .error failure ∧ (typedFailure failure).indeterminate = false

/-- Every post of an operation that ends as not executed is accounted for. -/
def Sound (host : ClientHost) (options : ClientOptions) (rpcId : String)
    (program : CallProgram α) : Prop :=
  Always program fun exchanges outcome => Determinate outcome →
    ∀ reply ∈ postReplies exchanges, Accounted host options rpcId reply

/-- One attempt: it posts at most once, and an error with which the loop goes on accounts for
that post. -/
theorem rpcAttempt_accounted (body : String) (session : Option McpSession) :
    Always (rpcAttempt host options rpcId body session true) fun exchanges outcome =>
      ∀ failure, outcome = .error failure → Continues (typedFailure failure) →
        ∀ reply ∈ postReplies exchanges, Accounted host options rpcId reply := by
  refine always_readSignals_bind fun reply signals => ?_
  split_ifs
  · intro failure _ _ reply member
    cases member
  refine always_ask_attempt_bind fun reply => ?_
  cases reply with
  | error thrown =>
    -- Whatever is thrown next, the post was left open.
    have lost : ∀ reply ∈ postReplies [⟨.signals, .ok signals⟩, ⟨.post body session, .error thrown⟩],
        Accounted host options rpcId reply := by
      intro reply member
      obtain rfl : reply = .error thrown := by simpa [postReplies] using member
      exact Or.inr (Or.inl trivial)
    refine always_readSignals_bind fun reply signals => ?_
    split
    · intro failure _ _
      exact lost
    · intro failure _ _
      exact lost
  | ok answer =>
    refine always_readSignals_bind fun reply reading => ?_
    split
    · intro failure impossible
      cases impossible
    next error read =>
      have answered : Continues error → ∀ reply ∈ ([.ok answer] : List PostReply),
          Accounted host options rpcId reply := by
        intro continues reply member
        rw [List.mem_singleton.mp member]
        exact accounted_of_readAnswer read continues
      refine always_readSignals_bind fun reply stop => ?_
      split_ifs
      · rintro failure ⟨⟩ continues
        -- Stopping keeps the verdict of the error that it covers.
        refine answered (Or.inl ?_)
        rcases continues with determinate | retryable | expired
        · simpa [typedFailure, abortFailure] using determinate
        · cases retryable
        · simp only [typedFailure, abortFailure] at expired
          split_ifs at expired
      · rintro failure ⟨⟩ continues
        exact answered continues

theorem sound_throws (failure : Failure) :
    Sound host options rpcId (Program.throws failure : CallProgram α) := by
  intro _ reply member
  cases member

/-- The delay between two attempts, and the next one. -/
theorem sound_retryDelay_bind {milliseconds : Nat} {prior : ClientError}
    {next : CallProgram α} (sound : Sound host options rpcId next) :
    Sound host options rpcId (do retryDelay options milliseconds true prior; next) := by
  have silent : Silent (retryDelay options milliseconds true prior) := by
    refine always_readSignals_bind fun reply signals => ?_
    split
    · rfl
    refine always_ask_attempt_bind fun slept => ?_
    cases slept with
    | ok => rfl
    | error =>
      refine always_readSignals_bind fun reply signals => ?_
      split
      · rfl
      · rfl
  refine Always.bind silent ?_ ?_
  · intro exchanges failure noPost _ reply member
    rw [noPost] at member
    cases member
  · intro exchanges _ noPost
    apply sound.mono
    intro rest outcome accounted
    rwa [postReplies_append, noPost]

/-- The renewed session, and the attempt with it. -/
theorem sound_recovery {session : Option McpSession} {typed : ClientError}
    {recovered : CallProgram ToolResult} (sound : Sound host options rpcId recovered) :
    Sound host options rpcId (do
      invalidateSession session
      match ← (ensureInitialized options).attempt with
      | .ok _ => recovered
      | .error initializationError => do
          let signals ← readSignals
          if signals.stopped then
            Program.throws (.typed (abortFailure options signals true (some (.typed typed))))
          else Program.throws initializationError) := by
  intro invalidated
  refine silent_ensureInitialized.attempt_bind (fun replies outcome => Determinate outcome →
    ∀ reply ∈ replies, Accounted host options rpcId reply) fun outcome => ?_
  cases outcome with
  | ok => exact sound
  | error =>
    refine always_readSignals_bind fun reply signals => ?_
    split
    · exact sound_throws _
    · exact sound_throws _

/-- What follows exchanges whose posts are accounted for. -/
theorem Sound.after {program : CallProgram α} (sound : Sound host options rpcId program)
    {exchanges : List CallExchange}
    (accounted : ∀ reply ∈ postReplies exchanges, Accounted host options rpcId reply) :
    Always program fun rest outcome => Determinate outcome →
      ∀ reply ∈ postReplies (exchanges ++ rest), Accounted host options rpcId reply := by
  apply sound.mono
  intro rest outcome later determinate reply member
  rw [postReplies_append] at member
  rcases List.mem_append.mp member with early | late
  · exact accounted reply early
  · exact later determinate reply late

theorem validateActiveCatalogEnvelope_error {output : Value} {error : ClientError}
    (read : validateActiveCatalogEnvelope output = .error error) :
    error = invalidActiveCatalogResult := by
  simp only [validateActiveCatalogEnvelope, bind_error_iff, require_error_iff] at read
  rcases read with ⟨_, rfl⟩ | ⟨_, _, ⟨_, rfl⟩ | ⟨_, _, read⟩⟩
  · rfl
  · rfl
  split at read
  · simp only [bind_error_iff, require_error_iff] at read
    rcases read with ⟨_, rfl⟩ | ⟨_, _, impossible⟩
    · rfl
    · cases impossible
  · exact (Except.error.inj read).symm

/-- A result of the wrong shape leaves the outcome open. -/
theorem not_continues_parseToolCallResult {readNumber : String → Option JsonNumber}
    {maximumBytes : Nat} {result : Value} {error : ClientError}
    (read : parseToolCallResult readNumber maximumBytes result = .error error) :
    ¬Continues error := by
  have shape : ∀ message, ¬Continues (invalidToolResult message) := by
    simp [Continues, invalidToolResult]
  have catalog : ¬Continues invalidActiveCatalogResult := by
    simp [Continues, invalidActiveCatalogResult]
  unfold parseToolCallResult at read
  split at read
  swap
  · exact Except.error.inj read ▸ shape _
  split at read
  swap
  · exact Except.error.inj read ▸ shape _
  simp only [bind_error_iff, require_error_iff] at read
  rcases read with ⟨_, rfl⟩ | ⟨_, _, ⟨_, rfl⟩ | ⟨_, _, read⟩⟩
  · exact shape _
  · exact shape _
  split at read
  · exact Except.error.inj read ▸ shape _
  simp only [bind_error_iff] at read
  rcases read with refused | ⟨_, _, impossible⟩
  · exact validateActiveCatalogEnvelope_error refused ▸ catalog
  · cases impossible

/-- One attempt and the reading of its result. -/
theorem attempt_accounted (body : String) (session : Option McpSession) : Always (do
      let result ← rpcAttempt host options rpcId body session true
      Program.lift ((parseToolCallResult host.readNumber options.maximumResponseBytes
        result).mapError Failure.typed)) fun exchanges outcome =>
      ∀ failure, outcome = .error failure → Continues (typedFailure failure) →
        ∀ reply ∈ postReplies exchanges, Accounted host options rpcId reply := by
  refine Always.bind (rpcAttempt_accounted body session) ?_ ?_
  · rintro exchanges failure accounted _ ⟨⟩
    exact accounted failure rfl
  · intro exchanges value _ failure outcome continues
    cases parsed : parseToolCallResult host.readNumber options.maximumResponseBytes value with
    | ok =>
      rw [parsed] at outcome
      cases outcome
    | error =>
      rw [parsed] at outcome
      cases outcome
      exact absurd continues (not_continues_parseToolCallResult parsed)

variable {body : String}

/-- One pass of the loop, from the passes that may follow it. -/
theorem sound_callPass {attempt : Nat} {recover retry : Option (CallProgram ToolResult)}
    (recovers : ∀ program ∈ recover, Sound host options rpcId program)
    (retries : ∀ program ∈ retry, Sound host options rpcId program) :
    Sound host options rpcId (callPass host options rpcId body attempt recover retry) := by
  refine always_currentSession_bind fun reply session => ?_
  refine Always.attempt_bind (attempt_accounted body session) fun exchanges outcome accounted => ?_
  cases outcome with
  | ok =>
    rintro ⟨failure, impossible, _⟩
    cases impossible
  | error failure =>
    have open_ := accounted failure rfl
    have repeats : Always (callPass.repeatCall options attempt retry (typedFailure failure))
        fun rest result => Determinate result →
          ∀ reply ∈ postReplies (exchanges ++ rest), Accounted host options rpcId reply := by
      have ends : Always (Program.throws (.typed (typedFailure failure)) : CallProgram ToolResult)
          fun rest result => Determinate result →
            ∀ reply ∈ postReplies (exchanges ++ rest), Accounted host options rpcId reply := by
        rintro ⟨_, ⟨⟩, determinate⟩
        rw [List.append_nil]
        exact open_ (Or.inl determinate)
      unfold callPass.repeatCall
      cases retry with
      | none => exact ends
      | some next =>
        simp only
        split_ifs with retryable
        · exact (sound_retryDelay_bind (retries next rfl)).after (open_ (Or.inr (Or.inl retryable)))
        · exact ends
    cases recover with
    | none => exact repeats
    | some recovered =>
      simp only
      split_ifs with expired
      · exact (sound_recovery (recovers recovered rfl)).after (open_ (Or.inr (Or.inr expired)))
      · exact repeats

theorem sound_attemptsRecovered (left : Nat) :
    Sound host options rpcId (attemptsRecovered host options rpcId body left) := by
  induction left with
  | zero => exact sound_callPass (by simp) (by simp)
  | succ left ih => exact sound_callPass (by simp) (by simpa using ih)

theorem sound_attemptsFresh (left : Nat) :
    Sound host options rpcId (attemptsFresh host options rpcId body left) := by
  induction left with
  | zero => exact sound_callPass (by simpa using sound_attemptsRecovered 0) (by simp)
  | succ left ih =>
    exact sound_callPass (by simpa using sound_attemptsRecovered (left + 1)) (by simpa using ih)

theorem sound_performCall (request : GatewayRequest) :
    Sound host options rpcId (performCall host options rpcId request) := by
  refine silent_ensureInitialized.attempt_bind (fun replies outcome => Determinate outcome →
    ∀ reply ∈ replies, Accounted host options rpcId reply) fun outcome => ?_
  cases outcome with
  | error =>
    refine always_readSignals_bind fun reply signals => ?_
    split
    · exact sound_throws _
    · exact sound_throws _
  | ok =>
    generalize (callEnvelope rpcId request).print = body
    by_cases fits : body.utf8ByteSize ≤ MAX_RPC_REQUEST_BYTES
    · rw [if_pos fits]
      exact sound_attemptsFresh (options.maximumAttempts - 1)
    · rw [if_neg fits]
      exact sound_throws _

end Programs

/-! ### Runs of the client -/

section Runs

variable {host : ClientHost} {options : ClientOptions}

def AllAccounted (host : ClientHost) (options : ClientOptions) (posts : List Posted) : Prop :=
  ∀ post ∈ posts, Accounted host options post.rpcId post.reply

/-- An entry that says that its call was not executed accounts for the call's posts. -/
def EntrySound (host : ClientHost) (options : ClientOptions) (entry : Entry) : Prop :=
  match entry.state with
  | .error error => error.indeterminate = false → AllAccounted host options entry.posts
  | .evicted indeterminate _ => indeterminate = false → AllAccounted host options entry.posts
  | _ => True

def DeliverySound (host : ClientHost) (options : ClientOptions) (delivery : Delivery) : Prop :=
  ∀ error, delivery.outcome = .error error → error.indeterminate = false →
    AllAccounted host options delivery.posts

structure ClientSound (host : ClientHost) (options : ClientOptions) (client : Client) : Prop where
  entries : ∀ field ∈ client.calls, EntrySound host options field.2
  deliveries : ∀ delivery ∈ client.deliveries, DeliverySound host options delivery

variable {client : Client}

theorem ClientSound.deliver (sound : ClientSound host options client)
    {outcome : Except ClientError ToolResult} {posts : List Posted}
    (delivered : DeliverySound host options ⟨outcome, posts⟩) :
    ClientSound host options (client.deliver outcome posts) := by
  refine ⟨sound.entries, ?_⟩
  intro delivery member
  rcases List.mem_append.mp member with early | last
  · exact sound.deliveries delivery early
  · rw [List.mem_singleton.mp last]
    exact delivered

/-- A rejection before any operation has no post. -/
theorem deliverySound_local (outcome : Except ClientError ToolResult) :
    DeliverySound host options ⟨outcome, []⟩ := by
  intro error _ _ post member
  cases member

section

variable (sound : ClientSound host options client)
include sound

/-- A table with one entry written anew. -/
theorem ClientSound.written {changed : Client} {rpcId : String} {entry : Entry}
    (entrySound : EntrySound host options entry)
    (calls : changed.calls = setField client.calls rpcId entry)
    (deliveries : changed.deliveries = client.deliveries) : ClientSound host options changed := by
  constructor
  · rw [calls]
    exact forall_setField sound.entries entrySound
  · rw [deliveries]
    exact sound.deliveries

theorem ClientSound.replay {prior : Entry} (entrySound : EntrySound host options prior) :
    ClientSound host options (client.replay prior) := by
  unfold Client.replay
  unfold EntrySound at entrySound
  split
  · exact sound
  · apply sound.deliver
    intro error impossible
    cases impossible
  next error state =>
    rw [state] at entrySound
    apply sound.deliver
    rintro _ ⟨⟩ determinate
    exact entrySound determinate
  next indeterminate started state =>
    rw [state] at entrySound
    apply sound.deliver
    rintro _ ⟨⟩ determinate
    exact entrySound determinate

theorem ClientSound.call (input : Value) :
    ClientSound host options (callCapabilityGateway host client input) := by
  unfold callCapabilityGateway
  split
  · exact sound.deliver (deliverySound_local _)
  cases normalizeGatewayCall input with
  | error => exact sound.deliver (deliverySound_local _)
  | ok request =>
    simp only
    split
    · exact sound.deliver (deliverySound_local _)
    cases found : client.calls.lookup (providerCallRpcId host request.identity) with
    | some =>
      simp only
      split_ifs
      · exact sound.replay (sound.entries _ (mem_of_lookup _ _ _ found))
      · exact sound.deliver (deliverySound_local _)
    | none =>
      simp only
      split_ifs
      · exact sound.deliver (deliverySound_local _)
      · exact sound.deliver (deliverySound_local _)
      · refine sound.written ?_ rfl rfl
        trivial

/-- Eviction keeps whether the tool may have run. -/
theorem ClientSound.evictSettled (order : List String) :
    ClientSound host options (evictSettled options client order) := by
  induction order generalizing client with
  | nil => exact ⟨sound.entries, sound.deliveries⟩
  | cons oldestId order ih =>
    rw [AuthorityClient.evictSettled]
    split_ifs
    · exact ⟨sound.entries, sound.deliveries⟩
    cases found : client.calls.lookup oldestId with
    | none => exact ih sound
    | some oldest =>
      have entrySound := sound.entries _ (mem_of_lookup _ _ _ found)
      unfold EntrySound at entrySound
      cases state : oldest.state with
      | pending request | evicted indeterminate started => simpa only [state] using ih sound
      | result =>
        simp only [state]
        apply ih
        refine sound.written ?_ rfl rfl
        intro impossible
        cases impossible
      | error =>
        rw [state] at entrySound
        simp only [state]
        apply ih
        refine sound.written ?_ rfl rfl
        exact entrySound

end

/-- An operation that ended keeps what its run showed. -/
theorem settled_accounted {rpcId : String} {request : GatewayRequest}
    (environment : Environment CallAsk CallAnswer Failure)
    {exchanges : List CallExchange} {failure : Failure}
    (ran : Interactions.run environment (performCall host options rpcId request) =
      (exchanges, .error failure))
    (determinate : (typedFailure failure).indeterminate = false) :
    AllAccounted host options (postsOf rpcId exchanges) := by
  have sound : Sound host options rpcId (performCall host options rpcId request) :=
    sound_performCall request
  have accounted := sound.run environment
  rw [ran] at accounted
  intro post member
  obtain ⟨reply, replied, rfl⟩ := List.mem_map.mp member
  exact accounted ⟨failure, rfl, determinate⟩ reply replied

theorem ClientSound.settle (sound : ClientSound host options client)
    (rpcId : String) (environment : Environment CallAsk CallAnswer Failure) :
    ClientSound host options (settleCall host options client rpcId environment) := by
  unfold settleCall
  cases found : client.calls.lookup rpcId with
  | none => exact sound
  | some entry =>
    cases state : entry.state with
    | result result | error error | evicted indeterminate started => simpa only [state] using sound
    | pending request =>
      simp only [state]
      cases ran : Interactions.run environment (performCall host options rpcId request) with
      | mk exchanges outcome =>
        cases outcome with
        | ok =>
          apply ClientSound.deliver
          · apply ClientSound.evictSettled
            refine sound.written ?_ rfl rfl
            trivial
          · intro error impossible
            cases impossible
        | error =>
          have accounted := settled_accounted environment ran
          apply ClientSound.deliver
          · apply ClientSound.evictSettled
            refine sound.written ?_ rfl rfl
            exact accounted
          · rintro _ ⟨⟩ determinate
            exact accounted determinate

theorem clientSound_run (events : List ClientEvent) :
    ClientSound host options (Runs.run (step host options) {} events) := by
  apply Runs.run_invariant (ClientSound host options)
  · exact ⟨by simp, by simp⟩
  · intro client event sound
    cases event with
    | call input => exact sound.call input
    | settles rpcId environment => exact sound.settle rpcId environment
    | close => exact ⟨sound.entries, sound.deliveries⟩

/-- A rejection that says that the tool did not run is right about every post of its call exactly
when none of them was left open and none was answered by a result over the local limits. -/
theorem determinate_rejection_iff (host : ClientHost) (options : ClientOptions)
    (events : List ClientEvent) (delivery : Delivery) (error : ClientError)
    (delivered : delivery ∈ (Runs.run (step host options) {} events).deliveries)
    (rejected : delivery.outcome = .error error) (determinate : error.indeterminate = false) :
    (∀ post ∈ delivery.posts, Refused host options post.rpcId post.reply) ↔
      ∀ post ∈ delivery.posts, ¬LeftOpen host options post.rpcId post.reply ∧
        ¬ResultOverLimits host options post.rpcId post.reply := by
  constructor
  · intro refused post member
    exact not_leftOpen_of_refused (refused post member)
  · intro answered post member
    have accounted := (clientSound_run events).deliveries delivery delivered error rejected determinate
    obtain ⟨notOpen, withinLimits⟩ := answered post member
    rcases accounted post member with refused | leftOpen | overLimits
    · exact refused
    · exact absurd leftOpen notOpen
    · exact absurd overLimits withinLimits

/-! ### Two calls -/

def exampleHost : ClientHost where
  readNumber := StrictJson.readPrinted
  hash := Sha256.digest

def exampleCall : Value :=
  .object [("provider", .string "openai"), ("responseId", .string "r1"), ("callId", .string "c1"),
      ("arguments", .object [("tool_name", .string "notes.add"), ("arguments", .object [])]),
      ("activeCatalogAuthority", .object
        [("catalogDigest", .string "0000000000000000000000000000000000000000000000000000000000000000"),
          ("capabilityEpoch", .ofNat 1)])]

/-- The JSON-RPC id of the example. -/
def exampleId : String :=
  providerCallRpcId exampleHost { provider := .openai, responseId := "r1", callId := "c1", itemId := none }

/-- HTTP 403 with an empty JSON object. -/
def forbidden : FetchResult :=
  .response { status := 403, contentType := some "application/json"
              body := some ⟨[some [123, 125]], false⟩ }

/-- Surroundings in which an open session answers the posts in turn. -/
def answering (first later : PostReply) : Environment CallAsk CallAnswer Failure
  | _, .signals => .ok {}
  | _, .session => .ok (some ⟨"session", "2025-11-25"⟩)
  | _, .invalidateSession _ => .ok ()
  | _, .initialization => .ok ()
  | past, .post _ _ => if (postReplies past).length = 0 then first else later
  | _, .sleep _ => .ok ()

def oneCall (first later : PostReply) : Client :=
  Runs.run (step exampleHost {}) {} [.call exampleCall, .settles exampleId (answering first later)]

def saysNotExecuted (delivery : Delivery) : Bool :=
  match delivery.outcome with
  | .error error => !error.indeterminate
  | .ok _ => false

theorem saysNotExecuted_iff (delivery : Delivery) : saysNotExecuted delivery = true ↔
    ∃ error, delivery.outcome = .error error ∧ error.indeterminate = false := by
  obtain ⟨outcome, posts⟩ := delivery
  cases outcome with
  | error error | ok result => simp [saysNotExecuted]

def unanswered (post : Posted) : Bool :=
  match post.reply with
  | .error _ => true
  | .ok _ => false

/-- The first post is lost on the way back and the second is refused: the call is reported as not
executed. -/
theorem lost_then_forbidden :
    ∃ delivery ∈ (oneCall (.error .raw) (.ok forbidden)).deliveries, ∃ error,
      delivery.outcome = .error error ∧ error.indeterminate = false ∧
        ∃ post ∈ delivery.posts, ¬Refused exampleHost {} post.rpcId post.reply := by
  have evaluated : (oneCall (.error .raw) (.ok forbidden)).deliveries.any (fun delivery =>
      saysNotExecuted delivery && delivery.posts.any unanswered) = true := by decide +kernel
  obtain ⟨delivery, delivered, tested⟩ := List.any_eq_true.mp evaluated
  obtain ⟨verdict, lost⟩ := Bool.and_eq_true_iff.mp tested
  obtain ⟨error, rejected, determinate⟩ := (saysNotExecuted_iff delivery).mp verdict
  obtain ⟨⟨rpcId, reply⟩, member, missing⟩ := List.any_eq_true.mp lost
  refine ⟨delivery, delivered, error, rejected, determinate, ⟨rpcId, reply⟩, member, ?_⟩
  cases reply with
  | error => exact not_false
  | ok => simp [unanswered] at missing

/-- A call whose only post is refused. -/
theorem forbidden_not_executed :
    ∃ delivery ∈ (oneCall (.ok forbidden) (.ok forbidden)).deliveries, delivery.posts.length = 1 ∧
      ((∀ post ∈ delivery.posts, Refused exampleHost {} post.rpcId post.reply) ↔
        ∀ post ∈ delivery.posts, ¬LeftOpen exampleHost {} post.rpcId post.reply ∧
          ¬ResultOverLimits exampleHost {} post.rpcId post.reply) := by
  have evaluated : (oneCall (.ok forbidden) (.ok forbidden)).deliveries.any (fun delivery =>
      saysNotExecuted delivery && decide (delivery.posts.length = 1)) = true := by decide +kernel
  obtain ⟨delivery, delivered, tested⟩ := List.any_eq_true.mp evaluated
  obtain ⟨verdict, single⟩ := Bool.and_eq_true_iff.mp tested
  obtain ⟨error, rejected, determinate⟩ := (saysNotExecuted_iff delivery).mp verdict
  exact ⟨delivery, delivered, of_decide_eq_true single,
    determinate_rejection_iff exampleHost {} _ delivery error delivered rejected determinate⟩

end Runs

end CallCenter.AuthorityOutcomes
