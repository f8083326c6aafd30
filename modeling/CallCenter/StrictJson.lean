import CallCenter.Guards
import CallCenter.JsonValues

/-!
# The bridge's strict JSON reader

Text from a socket or an HTTP body is read by a recursive descent that counts what it builds
and stops at the first limit. Two keys of one object never coincide and no key names the
prototype, so what is read is an object graph without surprises.

Recursion runs on fuel; the reader starts with more fuel than the text has characters to spend.
How a decimal text becomes a number is the language's own conversion, a parameter here.
-/

namespace CallCenter.StrictJson

open Guards JsonValues

inductive Fault where
  | maxBytes | maxChunks | maxDepth | maxNodes | maxObjectKeys | maxArrayLength
  | maxStringBytes | maxKeyBytes | maxNumberChars
  | invalidInput | invalidEncoding | invalidUnicode | invalidJson | invalidNumber
  | forbiddenKey | duplicateKey
deriving DecidableEq

structure Limits where
  maxBytes : Nat := 64 * 1024
  maxChunks : Nat := 64
  maxDepth : Nat := 24
  maxNodes : Nat := 4096
  maxObjectKeys : Nat := 128
  maxArrayLength : Nat := 1024
  maxStringBytes : Nat := 16 * 1024
  maxKeyBytes : Nat := 256
  maxNumberChars : Nat := 64

/-- What is read: a string, or binary segments, where `none` is a segment of another kind. -/
inductive Input where
  | text (value : String)
  | binary (segments : List (Option (List UInt8)))

/-- The bytes of the segments, as long as they stay within the limit. -/
def gather (maxBytes : Nat) : List (Option (List UInt8)) → Nat → Except Fault (List UInt8)
  | [], _ => .ok []
  | none :: _, _ => .error .invalidInput
  | some chunk :: rest, total => do
      require (total + chunk.length ≤ maxBytes) .maxBytes
      let bytes ← gather maxBytes rest (total + chunk.length)
      pure (chunk ++ bytes)

def boundedText (limits : Limits) : Input → Except Fault String
  | .text value => do
      require (value.utf8ByteSize ≤ limits.maxBytes) .maxBytes
      pure value
  | .binary segments => do
      require (segments ≠ []) .invalidInput
      require (segments.length ≤ limits.maxChunks) .maxChunks
      let bytes ← gather limits.maxBytes segments 0
      -- A byte order mark is refused although it decodes.
      require (bytes.take 3 ≠ [0xef, 0xbb, 0xbf]) .invalidEncoding
      match String.fromUTF8? ⟨bytes.toArray⟩ with
      | none => .error .invalidEncoding
      | some text => .ok text

def isWhitespace (c : Char) : Bool :=
  c.toNat = 0x20 || c.toNat = 0x09 || c.toNat = 0x0a || c.toNat = 0x0d

def skipWhitespace (text : List Char) : List Char := text.dropWhile isWhitespace

def hexValue (c : Char) : Option Nat :=
  if c.isDigit then some (c.toNat - 48)
  else if 97 ≤ c.toNat && c.toNat ≤ 102 then some (c.toNat - 87)
  else if 65 ≤ c.toNat && c.toNat ≤ 70 then some (c.toNat - 55)
  else none

/-- The code unit of four hexadecimal digits. -/
def hexUnit (a b c d : Char) : Option Nat := do
  let a ← hexValue a
  let b ← hexValue b
  let c ← hexValue c
  let d ← hexValue d
  pure (((a * 16 + b) * 16 + c) * 16 + d)

/-- The code unit of a one-letter escape. -/
def escapeUnit (c : Char) : Option Nat :=
  if c = quote || c = backslash || c = '/' then some c.toNat
  else if c = 'b' then some 8
  else if c = 'f' then some 12
  else if c = 'n' then some 10
  else if c = 'r' then some 13
  else if c = 't' then some 9
  else none

/-- UTF-16 code units of a string up to its closing quote, and the text after it. -/
def scanString : List Char → Except Fault (List Nat × List Char)
  | [] => .error .invalidJson
  | c :: rest =>
    if c = quote then .ok ([], rest)
    else if c.toNat < 0x20 then .error .invalidJson
    else if c = backslash then
      match rest with
      | [] => .error .invalidJson
      | 'u' :: first :: second :: third :: fourth :: rest =>
        match hexUnit first second third fourth with
        | none => .error .invalidJson
        | some unit => do
            let (units, rest) ← scanString rest
            pure (unit :: units, rest)
      | escape :: rest =>
        match escapeUnit escape with
        | none => .error .invalidJson
        | some unit => do
            let (units, rest) ← scanString rest
            pure (unit :: units, rest)
    else do
      let (units, rest) ← scanString rest
      pure (utf16 (String.ofList [c]) ++ units, rest)

/-- Characters of well-formed code units; a lone surrogate has none. -/
def decodeUnits : List Nat → Option (List Char)
  | [] => some []
  | unit :: rest =>
    if 0xd800 ≤ unit && unit ≤ 0xdbff then
      match rest with
      | [] => none
      | next :: rest =>
        if 0xdc00 ≤ next && next ≤ 0xdfff then
          (decodeUnits rest).map
            (Char.ofNat (0x10000 + (unit - 0xd800) * 0x400 + (next - 0xdc00)) :: ·)
        else none
    else if 0xdc00 ≤ unit && unit ≤ 0xdfff then none
    else (decodeUnits rest).map (Char.ofNat unit :: ·)

/-- A string after its opening quote. -/
def parseString (maximum : Nat) (fault : Fault) (text : List Char) :
    Except Fault (String × List Char) := do
  let (units, rest) ← scanString text
  match decodeUnits units with
  | none => .error .invalidUnicode
  | some characters => do
      require ((String.ofList characters).utf8ByteSize ≤ maximum) fault
      pure (String.ofList characters, rest)

/-- The sign of a number or of its exponent. -/
def scanSign (signs : List Char) : List Char → List Char × List Char
  | [] => ([], [])
  | c :: rest => if c ∈ signs then ([c], rest) else ([], c :: rest)

/-- An optional part: a marker, a sign and at least one digit; otherwise nothing. -/
def scanPart (markers signs : List Char) : List Char → List Char × List Char
  | [] => ([], [])
  | marker :: rest =>
    let (sign, digits) := scanSign signs rest
    let (digits, after) := digits.span Char.isDigit
    if marker ∈ markers ∧ digits ≠ [] then (marker :: sign ++ digits, after)
    else ([], marker :: rest)

/-- The longest number at the start of the text. -/
def scanNumber (text : List Char) : Option (List Char × List Char) :=
  let (sign, text) := scanSign ['-'] text
  let (digits, after) := text.span Char.isDigit
  match digits with
  | [] => none
  | first :: others =>
    -- A number that begins with zero has no further integer digit.
    let (integer, after) := if first = '0' then ([first], others ++ after) else (digits, after)
    let (fraction, after) := scanPart ['.'] [] after
    let (exponent, after) := scanPart ['e', 'E'] ['+', '-'] after
    some (sign ++ integer ++ fraction ++ exponent, after)

section Reader

variable (readNumber : String → Option JsonNumber) (limits : Limits)

def parseNumber (text : List Char) : Except Fault (Value × List Char) :=
  match scanNumber text with
  | none => .error .invalidJson
  | some (matched, rest) => do
      require (matched.length ≤ limits.maxNumberChars) .maxNumberChars
      match readNumber (String.ofList matched) with
      | none => .error .invalidNumber
      | some number => pure (.number (.finite number), rest)

def forbiddenObjectKeys : List String := ["__proto__", "constructor", "prototype"]

/-- The text still to be read and the values counted so far. -/
structure Cursor where
  text : List Char
  nodes : Nat

mutual

def parseValue : Nat → Nat → Cursor → Except Fault (Value × Cursor)
  | 0, _, _ => .error .invalidJson
  | fuel + 1, depth, cursor => do
      require (cursor.nodes + 1 ≤ limits.maxNodes) .maxNodes
      let nodes := cursor.nodes + 1
      match skipWhitespace cursor.text with
      | [] => .error .invalidJson
      | c :: rest =>
        if c = Char.ofNat 123 then parseObject fuel (depth + 1) ⟨rest, nodes⟩
        else if c = '[' then parseArray fuel (depth + 1) ⟨rest, nodes⟩
        else if c = quote then do
          let (value, rest) ← parseString limits.maxStringBytes .maxStringBytes rest
          pure (.string value, ⟨rest, nodes⟩)
        else if (c :: rest).take 4 = "true".toList then pure (.bool true, ⟨rest.drop 3, nodes⟩)
        else if (c :: rest).take 5 = "false".toList then pure (.bool false, ⟨rest.drop 4, nodes⟩)
        else if (c :: rest).take 4 = "null".toList then pure (.null, ⟨rest.drop 3, nodes⟩)
        else if c = '-' || c.isDigit then do
          let (value, rest) ← parseNumber readNumber limits (c :: rest)
          pure (value, ⟨rest, nodes⟩)
        else .error .invalidJson

/-- An object after its opening brace. -/
def parseObject : Nat → Nat → Cursor → Except Fault (Value × Cursor)
  | 0, _, _ => .error .invalidJson
  | fuel + 1, depth, cursor => do
      require (depth ≤ limits.maxDepth) .maxDepth
      match skipWhitespace cursor.text with
      | [] => .error .invalidJson
      | c :: rest =>
        if c = Char.ofNat 125 then pure (.object [], ⟨rest, cursor.nodes⟩)
        else do
          let (fields, cursor) ← parseMembers fuel depth [] ⟨c :: rest, cursor.nodes⟩
          pure (.object fields, cursor)

/-- The members that follow those already read. -/
def parseMembers : Nat → Nat → List (String × Value) → Cursor →
    Except Fault (List (String × Value) × Cursor)
  | 0, _, _, _ => .error .invalidJson
  | fuel + 1, depth, fields, cursor =>
    match cursor.text with
    | [] => .error .invalidJson
    | c :: rest => do
        require (c = quote) .invalidJson
        let (key, rest) ← parseString limits.maxKeyBytes .maxKeyBytes rest
        require (!forbiddenObjectKeys.contains key) .forbiddenKey
        require (!(fields.map Prod.fst).contains key) .duplicateKey
        require (fields.length + 1 ≤ limits.maxObjectKeys) .maxObjectKeys
        match skipWhitespace rest with
        | [] => .error .invalidJson
        | colon :: rest => do
            require (colon = ':') .invalidJson
            let (value, cursor) ← parseValue fuel depth ⟨rest, cursor.nodes⟩
            let fields := fields ++ [(key, value)]
            match skipWhitespace cursor.text with
            | [] => .error .invalidJson
            | delimiter :: rest =>
              if delimiter = Char.ofNat 125 then pure (fields, ⟨rest, cursor.nodes⟩)
              else if delimiter = ',' then
                parseMembers fuel depth fields ⟨skipWhitespace rest, cursor.nodes⟩
              else .error .invalidJson

/-- An array after its opening bracket. -/
def parseArray : Nat → Nat → Cursor → Except Fault (Value × Cursor)
  | 0, _, _ => .error .invalidJson
  | fuel + 1, depth, cursor => do
      require (depth ≤ limits.maxDepth) .maxDepth
      match skipWhitespace cursor.text with
      | [] => .error .invalidJson
      | c :: rest =>
        if c = ']' then pure (.array [], ⟨rest, cursor.nodes⟩)
        else do
          let (items, cursor) ← parseItems fuel depth [] ⟨c :: rest, cursor.nodes⟩
          pure (.array items, cursor)

/-- The items that follow those already read. -/
def parseItems : Nat → Nat → List Value → Cursor → Except Fault (List Value × Cursor)
  | 0, _, _, _ => .error .invalidJson
  | fuel + 1, depth, items, cursor => do
      require (cursor.text ≠ []) .invalidJson
      require (items.length < limits.maxArrayLength) .maxArrayLength
      let (value, cursor) ← parseValue fuel depth cursor
      let items := items ++ [value]
      match skipWhitespace cursor.text with
      | [] => .error .invalidJson
      | delimiter :: rest =>
        if delimiter = ']' then pure (items, ⟨rest, cursor.nodes⟩)
        else if delimiter = ',' then
          parseItems fuel depth items ⟨skipWhitespace rest, cursor.nodes⟩
        else .error .invalidJson

end

/-- Each recursive call is paid for by a character, or by the step into an object or array. -/
def parse (text : String) : Except Fault Value := do
  let characters := text.toList
  require (skipWhitespace characters ≠ []) .invalidJson
  let (value, cursor) ← parseValue readNumber limits (2 * characters.length + 2) 0 ⟨characters, 0⟩
  require (skipWhitespace cursor.text = []) .invalidJson
  pure value

def parseCappedJson (input : Input) : Except Fault Value := do
  let text ← boundedText limits input
  parse readNumber limits text

end Reader

/-- The conversion on numbers that are already written as they print. -/
def readPrinted (text : String) : Option JsonNumber :=
  if printed : text.toList ≠ [] ∧ text.toList.all isNumberChar = true then
    some ⟨text, printed.1, List.all_eq_true.mp printed.2⟩
  else none

example : (parse readPrinted ({} : Limits) "\x7b\"a\": [1, true, \"\\u00e9\"]\x7d").map Value.print =
    .ok "\x7b\"a\":[1,true,\"é\"]\x7d" := by decide +kernel

end CallCenter.StrictJson
