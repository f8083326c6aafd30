import CallCenter.AuthorityProtocol
import CallCenter.MissionRuntime

/-!
# What a provider acknowledges

The bridge asks a realtime provider for a session and starts only when the acknowledged session
passes three checks: some fields are compared exactly, the acknowledgement cut down to the requested
shape has to be the request, and authority that was never requested has to be absent. The second
check ignores what the acknowledgement adds, and the prompt is only under the second check.
-/

namespace CallCenter.SessionAcknowledgements

open AuthorityProtocol JsonValues ObjectFields
open MissionRuntime (isTrimmed)
open MissionSchema (isLower isUpper matchesShape)

mutual

/-- No object in the value has a key twice. -/
def keysDistinct : Value → Bool
  | .array items => itemsDistinct items
  | .object fields => decide (fields.map Prod.fst).Nodup && fieldsDistinct fields
  | _ => true

def itemsDistinct : List Value → Bool
  | [] => true
  | item :: rest => keysDistinct item && itemsDistinct rest

def fieldsDistinct : List (String × Value) → Bool
  | [] => true
  | (_, value) :: rest => keysDistinct value && fieldsDistinct rest

end

/-- `assertStrictJson` without its limits and without its refusal of unsafe keys. -/
def isStrictJson (value : Value) : Bool := value.isJson && keysDistinct value

/-- The part of a provider configuration that a session depends on. -/
structure ProviderConfig where
  provider : Provider
  model : String
  session : Value

/-! ### The request -/

/-- `TOOL_NAME`. -/
def isFunctionName : String → Bool :=
  matchesShape (fun c => isLower c || isUpper c || c = '_') isIdentityChar 0 127

def isUnset (test : Value → Bool) (value : Value) : Bool := isUndefined value || test value

def validTool (allowedClientTools : List String) (tool : Value) : Bool :=
  isRecord tool && isText (· = "function") (property tool "type") &&
    isText isFunctionName (property tool "name") &&
    isText allowedClientTools.contains (property tool "name") &&
    isUnset (isText fun _ => true) (property tool "description") &&
    isUnset isRecord (property tool "parameters") && isUnset isBoolean (property tool "strict") &&
    (keysOf tool).all ["type", "name", "description", "parameters", "strict"].contains

def validateTelephonySession (config : ProviderConfig) (allowedClientTools : List String) : Bool :=
  let audio := property config.session "audio"
  let valid (side : Value) : Bool :=
    isText (· = "audio/pcmu") (property (property side "format") "type") &&
      (config.provider ≠ .xai || isUnset (isText (· = "json")) (property side "transport") &&
        isUnset (fun rate => safeInteger rate = some 8000) (property (property side "format") "rate"))
  let tools := property config.session "tools"
  isUnset (isText (· = config.model)) (property config.session "model") &&
    valid (property audio "input") && valid (property audio "output") &&
    isUnset (fun tools => isArray tools && (arrayItems tools).length ≤ 64) tools &&
    (arrayItems tools).all (validTool allowedClientTools) &&
    decide ((arrayItems tools).map fun tool => (property tool "name").text).Nodup

/-- The checks of `validateProviderConfig` on the requested session. -/
def validateProviderConfig (config : ProviderConfig) (allowedClientTools : List String) : Bool :=
  isRecord config.session && isStrictJson config.session &&
    validateTelephonySession config allowedClientTools

/-! ### The acknowledgement -/

def coalesce : Value → Value → Value
  | .undefined, second => second
  | .null, second => second
  | first, _ => first

/-- The fields of a session that are compared exactly. -/
def sessionProjection (provider : Provider) (fallbackModel session : Value) : List (String × Value) :=
  let audio := property session "audio"
  let voiced := fun (openai : Value) (key : String) =>
    if provider = .openai then property openai key else property session key
  [("model", coalesce (property session "model") fallbackModel),
    ("voice", voiced (property audio "output") "voice"),
    ("instructions", property session "instructions"), ("tools", property session "tools"),
    ("tool_choice", property session "tool_choice"),
    ("input_audio", property (property audio "input") "format"),
    ("output_audio", property (property audio "output") "format"),
    ("turn_detection", voiced (property audio "input") "turn_detection")].filter
      fun field => !isUndefined field.2

mutual

/-- The acknowledged value cut down to what was requested; `none` where something is missing. -/
def projectOntoRequestedShape : Value → Value → Option Value
  | .array requested, .array items => (projectItems requested items).map .array
  | .array _, _ => none
  | .object requested, .object fields => (projectFields requested fields).map .object
  | .object _, _ => none
  | _, acknowledged => if isUndefined acknowledged then none else some acknowledged

def projectItems : List Value → List Value → Option (List Value)
  | [], [] => some []
  | item :: rest, other :: others =>
    match projectOntoRequestedShape item other, projectItems rest others with
    | some projected, some remaining => some (projected :: remaining)
    | _, _ => none
  | _, _ => none

def projectFields : List (String × Value) → List (String × Value) → Option (List (String × Value))
  | [], _ => some []
  | (key, entry) :: rest, fields =>
    match fields.lookup key with
    | none => none
    | some value =>
      match projectOntoRequestedShape entry value, projectFields rest fields with
      | some projected, some remaining => some ((key, projected) :: remaining)
      | _, _ => none

end

/-- Authority that was acknowledged and never requested. -/
def unexpectedAuthorityConfiguration (requested acknowledged : Value) : Bool :=
  let unexpected (key : String) : Bool :=
    isUndefined (property requested key) && !isUndefined (property acknowledged key)
  let tools := property acknowledged "tools"
  unexpected "instructions" || unexpected "prompt" ||
    unexpected "tools" && (!isArray tools || !(arrayItems tools).isEmpty) ||
    unexpected "tool_choice" && (!(arrayItems tools).isEmpty ||
      !isOneOf ["auto", "none"] (property acknowledged "tool_choice"))

/-- `strictParityVerified`. -/
def strictParityVerified (config : ProviderConfig) (acknowledged : Value) : Bool :=
  let wanted := sessionProjection config.provider (.string config.model) config.session
  let got := sessionProjection config.provider
    (if config.provider = .xai then .string config.model else .undefined) acknowledged
  (projectOntoRequestedShape config.session acknowledged).any
      (fun projected => config.session.text = projected.text) &&
    (wanted.all fun field => (got.lookup field.1).any fun value => field.2.text = value.text) &&
    !unexpectedAuthorityConfiguration config.session acknowledged

/-- What the adapter knows of its session. -/
structure AdapterSession where
  sessionAckFingerprint : Option String := none
  sessionReady : Bool := false

/-- `optionalIdentity`. -/
def isOptionalIdentity (maximum : Nat) : Value → Bool :=
  isUnset (isText fun text => text ≠ "" && (utf16 text).length ≤ maximum &&
    !(text.toList.head?.any isTrimmed || text.toList.getLast?.any isTrimmed) &&
    text.toList.all fun c => 32 ≤ c.toNat && c.toNat ≠ 127)

/-- A `session.updated`; every refusal is fatal to the adapter. -/
def sessionAcknowledgement (config : ProviderConfig) (fingerprint : Value → String)
    (adapter : AdapterSession) (session : Value) : AdapterSession :=
  if isRecord session && isStrictJson session && isOptionalIdentity 256 (property session "model") &&
      isUnset (isText (· = config.model)) (property session "model") &&
      isOptionalIdentity 512 (property session "id") && adapter.sessionAckFingerprint.isNone then
    { sessionAckFingerprint := some (fingerprint session)
      sessionReady := adapter.sessionReady || strictParityVerified config session }
  else adapter

/-! ### What readiness establishes -/

inductive PathStep where
  | key (name : String)
  | index (position : Nat)

def child : Value → PathStep → Option Value
  | .object fields, .key name => fields.lookup name
  | .array items, .index position => items[position]?
  | _, _ => none

/-- What a value is, apart from its fields or items. -/
inductive Outline where
  | object
  | array (length : Nat)
  | scalar (value : Value)

def outline : Value → Outline
  | .object _ => .object
  | .array items => .array items.length
  | value => .scalar value

/-- What stands at a path. -/
def outlineAt : Value → List PathStep → Option Outline
  | value, [] => some (outline value)
  | value, step :: path => (child value step).bind (outlineAt · path)

/-- Every requested value is there, at any depth. -/
def Present (requested acknowledged : Value) : Prop :=
  ∀ path shape, outlineAt requested path = some shape → outlineAt acknowledged path = some shape

/-- The acknowledged value has no key, at any depth, that the requested one lacks. -/
def Unextended (requested acknowledged : Value) : Prop :=
  ∀ path, (outlineAt acknowledged path).isSome → (outlineAt requested path).isSome

/-- Acknowledged authority is deeply equal to the requested one, or none where nothing was
requested. -/
def Kept (requested acknowledged : Value) (key : String) : Prop :=
  if isUndefined (property requested key) then
    isUndefined (property acknowledged key) = true ∨
      key = "tools" ∧ property acknowledged key = .array [] ∨
      key = "tool_choice" ∧ isOneOf ["auto", "none"] (property acknowledged key) = true ∧
        arrayItems (property acknowledged "tools") = []
  else
    Present (property requested key) (property acknowledged key) ∧
      Present (property acknowledged key) (property requested key)

variable {fields : List (String × Value)}

/-- Each kept field was requested and is cut from the one acknowledged. -/
theorem projectFields_mem {requested projected : List (String × Value)}
    (cut : projectFields requested fields = some projected) :
    ∀ part ∈ projected, ∃ entry, (part.1, entry) ∈ requested ∧ ∃ value,
      fields.lookup part.1 = some value ∧ projectOntoRequestedShape entry value = some part.2 := by
  induction requested generalizing projected with
  | nil =>
    cases cut
    simp
  | cons field rest ih =>
    unfold projectFields at cut
    split at cut
    · cases cut
    rename_i value found
    split at cut
    · rename_i remaining parted others
      cases cut
      refine List.forall_mem_cons.mpr ⟨⟨_, List.mem_cons_self, value, found, parted⟩, ?_⟩
      intro part member
      obtain ⟨entry, asked, given⟩ := ih others part member
      exact ⟨entry, List.mem_cons_of_mem _ asked, given⟩
    · cases cut

/-- So is each kept item. -/
theorem projectItems_get {requested items projected : List Value}
    (cut : projectItems requested items = some projected) :
    items.length = projected.length ∧ ∀ (position : Nat) part, projected[position]? = some part →
      ∃ entry ∈ requested, ∃ item, items[position]? = some item ∧
        projectOntoRequestedShape entry item = some part := by
  induction requested generalizing items projected with
  | nil => cases items <;> simp_all [projectItems]
  | cons first rest ih =>
    cases items with
    | nil => simp [projectItems] at cut
    | cons item =>
      unfold projectItems at cut
      split at cut
      · rename_i remaining parted later
        cases cut
        obtain ⟨length, found⟩ := ih later
        refine ⟨by simp [length], fun position part kept => ?_⟩
        cases position with
        | zero =>
          obtain rfl := Option.some.inj kept
          exact ⟨first, List.mem_cons_self, item, rfl, parted⟩
        | succ position =>
          obtain ⟨entry, asked, given⟩ := found position part kept
          exact ⟨entry, List.mem_cons_of_mem _ asked, given⟩
      · cases cut

variable {acknowledged projected : Value}

theorem projected_object
    (cut : projectOntoRequestedShape (.object fields) acknowledged = some projected) :
    ∃ others parts, acknowledged = .object others ∧ projectFields fields others = some parts ∧
      projected = .object parts := by
  cases acknowledged with
  | object others =>
    obtain ⟨parts, cutFields, rfl⟩ := Option.map_eq_some_iff.mp
      (by simpa [projectOntoRequestedShape] using cut)
    exact ⟨others, parts, rfl, cutFields, rfl⟩
  | _ => simp [projectOntoRequestedShape] at cut

theorem projected_array {items : List Value}
    (cut : projectOntoRequestedShape (.array items) acknowledged = some projected) :
    ∃ others parts, acknowledged = .array others ∧ projectItems items others = some parts ∧
      projected = .array parts := by
  cases acknowledged with
  | array others =>
    obtain ⟨parts, cutItems, rfl⟩ := Option.map_eq_some_iff.mp
      (by simpa [projectOntoRequestedShape] using cut)
    exact ⟨others, parts, rfl, cutItems, rfl⟩
  | _ => simp [projectOntoRequestedShape] at cut

theorem projected_isJson {requested : Value}
    (cut : projectOntoRequestedShape requested acknowledged = some projected)
    (json : acknowledged.isJson) : projected.isJson := by
  induction requested using Value.induct generalizing acknowledged projected with
  | array requested each =>
    obtain ⟨items, parts, rfl, cutItems, rfl⟩ := projected_array cut
    refine (itemsAreJson_iff parts).mpr fun part member => ?_
    obtain ⟨position, kept⟩ := List.mem_iff_getElem?.mp member
    obtain ⟨entry, asked, item, there, cutEntry⟩ := (projectItems_get cutItems).2 position part kept
    exact each entry asked cutEntry ((itemsAreJson_iff items).mp json item (List.mem_of_getElem? there))
  | object requested each =>
    obtain ⟨fields, parts, rfl, cutFields, rfl⟩ := projected_object cut
    refine (fieldsAreJson_iff parts).mpr fun part member => ?_
    obtain ⟨entry, asked, value, there, cutEntry⟩ := projectFields_mem cutFields part member
    exact each _ asked cutEntry ((fieldsAreJson_iff fields).mp json _ (mem_of_lookup _ _ _ there))
  | _ =>
    simp only [projectOntoRequestedShape, Option.ite_none_left_eq_some] at cut
    exact Option.some.inj cut.2 ▸ json

theorem distinct_items {items : List Value} (distinct : itemsDistinct items) :
    ∀ item ∈ items, keysDistinct item := by
  induction items with
  | nil => simp
  | cons first rest ih =>
    simp only [itemsDistinct, Bool.and_eq_true] at distinct
    exact List.forall_mem_cons.mpr ⟨distinct.1, ih distinct.2⟩

theorem distinct_fields (distinct : fieldsDistinct fields) :
    ∀ field ∈ fields, keysDistinct field.2 := by
  induction fields with
  | nil => simp
  | cons first rest ih =>
    simp only [fieldsDistinct, Bool.and_eq_true] at distinct
    exact List.forall_mem_cons.mpr ⟨distinct.1, ih distinct.2⟩

/-- A relation under which values look the same and have related children. -/
theorem present_of_children (Related : Value → Value → Prop)
    (alike : ∀ left right, Related left right → outline left = outline right)
    (children : ∀ left right, Related left right → ∀ step entry, child left step = some entry →
      ∃ other, child right step = some other ∧ Related entry other)
    {left right : Value} (related : Related left right) : Present left right := by
  intro path
  induction path generalizing left right with
  | nil => simp [outlineAt, alike _ _ related]
  | cons step path ih =>
    intro shape found
    obtain ⟨entry, listed, below⟩ := Option.bind_eq_some_iff.mp found
    obtain ⟨other, there, next⟩ := children _ _ related step entry listed
    exact Option.bind_eq_some_iff.mpr ⟨other, there, ih next shape below⟩

/-- Values that differ in the order of fields hold each other. -/
theorem present_of_normal {left right : Value} (same : left.normal = right.normal)
    (distinct : keysDistinct left) : Present left right := by
  refine present_of_children (fun left right => left.normal = right.normal ∧ keysDistinct left)
    ?_ ?_ ⟨same, distinct⟩
  · rintro left right ⟨same, -⟩
    cases left <;> cases right <;> simp [Value.normal, normalItems_eq_map] at same
    case array.array => simpa [outline] using congrArg List.length same
    all_goals simp [outline, *]
  · rintro left right ⟨same, distinct⟩ step entry found
    cases left <;> cases step <;> simp only [child, reduceCtorEq] at found
    case object.key fields name =>
      cases right <;> simp only [Value.normal, reduceCtorEq] at same
      simp only [keysDistinct, Bool.and_eq_true, decide_eq_true_eq] at distinct
      have normal := JsonText.lookup_of_normal distinct.1 same name
      rw [found] at normal
      obtain ⟨other, there, alike⟩ := Option.map_eq_some_iff.mp normal.symm
      exact ⟨other, there, alike.symm, distinct_fields distinct.2 _ (mem_of_lookup _ _ _ found)⟩
    case array.index items position =>
      cases right <;> simp only [Value.normal, reduceCtorEq] at same
      simp only [normalItems_eq_map, Value.array.injEq] at same
      have normal := congrArg (fun list => list[position]?) same
      simp only [List.getElem?_map, found, Option.map_some] at normal
      obtain ⟨other, there, alike⟩ := Option.map_eq_some_iff.mp normal.symm
      exact ⟨other, there, alike.symm, distinct_items distinct _ (List.mem_of_getElem? found)⟩

/-- What is left of the acknowledgement is in it. -/
theorem present_of_cut {requested : Value}
    (cut : projectOntoRequestedShape requested acknowledged = some projected) :
    Present projected acknowledged := by
  refine present_of_children (fun projected acknowledged => projected = acknowledged ∨
    ∃ requested, projectOntoRequestedShape requested acknowledged = some projected) ?_ ?_ (.inr ⟨_, cut⟩)
  · rintro projected acknowledged (rfl | ⟨requested, cut⟩)
    · rfl
    cases requested with
    | object =>
      obtain ⟨others, parts, rfl, -, rfl⟩ := projected_object cut
      rfl
    | array =>
      obtain ⟨others, parts, rfl, cutItems, rfl⟩ := projected_array cut
      simp [outline, (projectItems_get cutItems).1]
    | _ =>
      simp only [projectOntoRequestedShape, Option.ite_none_left_eq_some] at cut
      rw [Option.some.inj cut.2]
  · rintro projected acknowledged (rfl | ⟨requested, cut⟩) step part found
    · exact ⟨part, found, .inl rfl⟩
    cases requested with
    | object =>
      obtain ⟨others, parts, rfl, cutFields, rfl⟩ := projected_object cut
      cases step with
      | index => cases found
      | key =>
        obtain ⟨entry, -, given, there, cutEntry⟩ :=
          projectFields_mem cutFields _ (mem_of_lookup _ _ _ found)
        exact ⟨given, there, .inr ⟨entry, cutEntry⟩⟩
    | array =>
      obtain ⟨others, parts, rfl, cutItems, rfl⟩ := projected_array cut
      cases step with
      | key => cases found
      | index position =>
        obtain ⟨entry, -, given, there, cutEntry⟩ := (projectItems_get cutItems).2 position part found
        exact ⟨given, there, .inr ⟨entry, cutEntry⟩⟩
    | _ =>
      simp only [projectOntoRequestedShape, Option.ite_none_left_eq_some] at cut
      exact ⟨part, Option.some.inj cut.2 ▸ found, .inl rfl⟩

/-- A property that is not `undefined` is a field. -/
theorem property_found {value : Value} {key : String}
    (given : ¬ isUndefined (property value key) = true) :
    ∃ fields, value = .object fields ∧ fields.lookup key = some (property value key) := by
  unfold property at given ⊢
  cases value with
  | object fields =>
    refine ⟨fields, rfl, ?_⟩
    cases found : fields.lookup key with
    | none => simp [recordFields, found, isUndefined] at given
    | some => simp [recordFields, found]
  | _ => simp [recordFields, isUndefined] at given

theorem property_strict {value : Value} {key : String} (strict : isStrictJson value)
    (given : ¬ isUndefined (property value key) = true) :
    (property value key).isJson ∧ keysDistinct (property value key) := by
  obtain ⟨fields, rfl, found⟩ := property_found given
  simp only [isStrictJson, keysDistinct, Bool.and_eq_true] at strict
  have member := mem_of_lookup _ _ _ found
  exact ⟨(fieldsAreJson_iff fields).mp strict.1 _ member, distinct_fields strict.2.2 _ member⟩

/-- Presence passes to a requested property. -/
theorem present_property {requested : Value} {key : String} (present : Present requested acknowledged)
    (asked : ¬ isUndefined (property requested key) = true) :
    Present (property requested key) (property acknowledged key) := by
  obtain ⟨fields, rfl, found⟩ := property_found asked
  intro path shape located
  obtain ⟨other, there, below⟩ := Option.bind_eq_some_iff.mp
    (present (.key key :: path) shape (Option.bind_eq_some_iff.mpr ⟨_, found, located⟩))
  cases acknowledged <;> simp only [child, reduceCtorEq] at there
  rwa [property, recordFields, there]

/-- What holds the request is held by it exactly if nothing was added. -/
theorem present_iff_unextended {requested : Value} (present : Present requested acknowledged) :
    Present acknowledged requested ↔ Unextended requested acknowledged := by
  constructor
  · intro held path found
    obtain ⟨shape, located⟩ := Option.isSome_iff_exists.mp found
    exact Option.isSome_iff_exists.mpr ⟨shape, held path shape located⟩
  · intro unextended path shape located
    obtain ⟨wanted, there⟩ := Option.isSome_iff_exists.mp (unextended path (by simp [located]))
    rwa [← located, present path wanted there]

/-- What the exact comparison covers: of the authority everything but the prompt. -/
theorem kept_of_verified {config : ProviderConfig} {session : Value}
    (verified : strictParityVerified config session) (requestedStrict : isStrictJson config.session)
    (strict : isStrictJson session) {key : String}
    (compared : key ∈ ["instructions", "tools", "tool_choice"]) :
    Kept config.session session key := by
  simp only [strictParityVerified, Bool.and_eq_true, List.all_eq_true, Bool.not_eq_true'] at verified
  obtain ⟨⟨-, fields⟩, expected⟩ := verified
  unfold Kept
  split
  · rename_i omitted
    simp only [unexpectedAuthorityConfiguration, Bool.or_eq_false_iff] at expected
    simp only [List.mem_cons, List.not_mem_nil, or_false] at compared
    rcases compared with rfl | rfl | rfl
    · simp_all
    · cases tools : property session "tools" <;> simp_all [isUndefined, isArray, arrayItems]
    · by_cases absent : isUndefined (property session "tool_choice") = true <;> simp_all
  · rename_i asked
    have wanted := fields (key, property config.session key) (by
      simp only [List.mem_cons, List.not_mem_nil, or_false] at compared
      rcases compared with rfl | rfl | rfl <;> simpa [sessionProjection] using asked)
    obtain ⟨value, found, same⟩ := Option.any_eq_true _ _ |>.mp wanted
    have read : value = property session key ∧ isUndefined value = false := by
      have there := mem_of_lookup _ _ _ found
      simp only [List.mem_cons, List.not_mem_nil, or_false] at compared
      rcases compared with rfl | rfl | rfl <;> simpa [sessionProjection] using there
    obtain ⟨rfl, given⟩ := read
    have asks := property_strict requestedStrict asked
    have gives := property_strict strict (by simpa using given)
    have normal := JsonText.text_injective asks.1 gives.1 (by simpa using same)
    exact ⟨present_of_normal normal asks.2, present_of_normal normal.symm gives.2⟩

/-- The prompt is only compared where it was requested, so exactly its additions decide. -/
theorem kept_prompt_iff {config : ProviderConfig} {session : Value}
    (verified : strictParityVerified config session) (present : Present config.session session) :
    Kept config.session session "prompt" ↔
      Unextended (property config.session "prompt") (property session "prompt") := by
  unfold Kept
  split
  · rename_i omitted
    simp only [strictParityVerified, unexpectedAuthorityConfiguration, omitted, Bool.and_eq_true,
      Bool.not_eq_true', Bool.or_eq_false_iff, Bool.true_and] at verified
    have same : property session "prompt" = property config.session "prompt" := by
      generalize property session "prompt" = given at *
      cases given <;> cases asked : property config.session "prompt" <;> simp_all [isUndefined]
    rw [same]
    exact iff_of_true (Or.inl omitted) fun path found => found
  · rename_i asked
    have held := present_property present asked
    rw [present_iff_unextended held]
    exact and_iff_right held

/-- Readiness keeps everything that was requested, and all authority is the requested one exactly
if the acknowledged prompt has no key, at any depth, that the requested one lacks. -/
theorem ready_authority_iff (config : ProviderConfig) (allowedClientTools : List String)
    (fingerprint : Value → String) (adapter : AdapterSession) (session : Value)
    (accepted : validateProviderConfig config allowedClientTools = true)
    (pending : adapter.sessionReady = false)
    (ready : (sessionAcknowledgement config fingerprint adapter session).sessionReady = true) :
    Present config.session session ∧
      ((∀ key ∈ ["instructions", "prompt", "tools", "tool_choice"],
        Kept config.session session key) ↔
      Unextended (property config.session "prompt") (property session "prompt")) := by
  simp only [validateProviderConfig, Bool.and_eq_true] at accepted
  obtain ⟨⟨-, requestedStrict⟩, -⟩ := accepted
  unfold sessionAcknowledgement at ready
  split at ready
  case isFalse => exact absurd ready (by simp [pending])
  rename_i received
  simp only [Bool.and_eq_true] at received
  obtain ⟨⟨⟨⟨⟨-, strict⟩, -⟩, -⟩, -⟩, -⟩ := received
  simp only [pending, Bool.false_or] at ready
  have present : Present config.session session := by
    have shape := ready
    simp only [strictParityVerified, Bool.and_eq_true] at shape
    obtain ⟨projected, cut, same⟩ := Option.any_eq_true _ _ |>.mp shape.1.1
    obtain ⟨requestedJson, distinct⟩ := Bool.and_eq_true_iff.mp requestedStrict
    have normal := JsonText.text_injective requestedJson
      (projected_isJson cut (Bool.and_eq_true_iff.mp strict).1) (of_decide_eq_true same)
    intro path shape found
    exact present_of_cut cut path shape (present_of_normal normal distinct path shape found)
  have prompt := kept_prompt_iff ready present
  refine ⟨present, fun kept => prompt.mp (kept _ (by simp)), fun unextended key member => ?_⟩
  by_cases asked : key = "prompt"
  · exact asked ▸ prompt.mpr unextended
  · exact kept_of_verified ready requestedStrict strict (by simp_all)

/-- A session for a telephone call with the prompt. -/
def promptedSession (prompt : List (String × Value)) : Value :=
  let side := Value.object [("format", .object [("type", .string "audio/pcmu")])]
  .object [("model", .string "realtime"), ("prompt", .object prompt),
    ("audio", .object [("input", side), ("output", side)])]

def promptedConfig : ProviderConfig :=
  { provider := .openai, model := "realtime", session := promptedSession [("id", .string "intake")] }

theorem same_prompt_ready :
    (sessionAcknowledgement promptedConfig Value.text {} promptedConfig.session).sessionReady = true ∧
      Present promptedConfig.session promptedConfig.session ∧
      Kept promptedConfig.session promptedConfig.session "prompt" := by
  have ready : (sessionAcknowledgement promptedConfig Value.text {}
    promptedConfig.session).sessionReady = true := by decide +kernel
  obtain ⟨present, kept⟩ := ready_authority_iff promptedConfig [] Value.text {}
    promptedConfig.session (by decide +kernel) rfl ready
  exact ⟨ready, present, kept.mpr (fun _ found => found) _ (by simp)⟩

/-- The acknowledged prompt is of a version nobody requested. -/
theorem extended_prompt_ready :
    let session := promptedSession [("id", .string "intake"), ("version", .string "2")]
    validateProviderConfig promptedConfig [] = true ∧
      (sessionAcknowledgement promptedConfig Value.text {} session).sessionReady = true ∧
      ¬ Kept promptedConfig.session session "prompt" := by
  refine ⟨by decide +kernel, by decide +kernel, fun kept => ?_⟩
  rw [Kept, if_neg (by decide)] at kept
  cases kept.2 [.key "version"] (.scalar (.string "2")) rfl

end CallCenter.SessionAcknowledgements
