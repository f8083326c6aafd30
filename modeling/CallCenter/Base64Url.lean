import Mathlib.Data.List.Basic

/-!
# Unpadded base64url

Three bytes become four characters of the URL-safe alphabet; a shorter tail becomes
two or three characters without padding. No character of the alphabet is a dot, so
an encoded text is one segment of a dotted token.
-/

namespace CallCenter.Base64Url

/-- Character of a six-bit group. -/
def sextet (n : Nat) : Char :=
  if n < 26 then Char.ofNat (65 + n)
  else if n < 52 then Char.ofNat (71 + n)
  else if n < 62 then Char.ofNat (n - 4)
  else if n = 62 then '-'
  else '_'

/-- Characters of a byte list. -/
def encodeBytes : List Nat → List Char
  | [] => []
  | [a] => [sextet (a / 4), sextet (a % 4 * 16)]
  | [a, b] => [sextet (a / 4), sextet (a % 4 * 16 + b / 16), sextet (b % 16 * 4)]
  | a :: b :: c :: rest =>
    sextet (a / 4) :: sextet (a % 4 * 16 + b / 16) :: sextet (b % 16 * 4 + c / 64) ::
      sextet (c % 64) :: encodeBytes rest

/-- Encoded bytes as a text. -/
def encode (bytes : List Nat) : String := String.ofList (encodeBytes bytes)

/-- The UTF-8 bytes of a text, encoded. -/
def encodeText (text : String) : String :=
  encode ((text.toList.flatMap String.utf8EncodeChar).map UInt8.toNat)

theorem sextet_ne_dot (n : Nat) : sextet n ≠ '.' := by
  have alphanumeric : ∀ n < 62, sextet n ≠ '.' := by decide
  by_cases small : n < 62
  · exact alphanumeric n small
  · rw [sextet, if_neg (by omega), if_neg (by omega), if_neg small]
    split <;> decide

/-- An encoded text is one segment of a dotted token. -/
theorem encode_dotless (bytes : List Nat) : '.' ∉ (encode bytes).toList := by
  rw [encode, String.toList_ofList]
  induction bytes using encodeBytes.induct with
  | case1 => simp [encodeBytes]
  | case2 a | case3 a b => simp [encodeBytes, (sextet_ne_dot _).symm]
  | case4 a b c rest ih =>
    simp [encodeBytes, (sextet_ne_dot _).symm, ih]

theorem encodeText_dotless (text : String) : '.' ∉ (encodeText text).toList := encode_dotless _

/-- Bytes encode to a nonempty text. -/
theorem encode_ne_empty {bytes : List Nat} (nonempty : bytes ≠ []) : encode bytes ≠ "" := by
  intro empty
  have characters := congrArg String.toList empty
  rw [encode, String.toList_ofList] at characters
  match bytes, nonempty with
  | [_], _ | [_, _], _ | _ :: _ :: _ :: _, _ => simp [encodeBytes] at characters

theorem encodeText_ne_empty {text : String} (nonempty : text ≠ "") : encodeText text ≠ "" := by
  apply encode_ne_empty
  intro empty
  cases characters : text.toList with
  | nil => exact nonempty (String.toList_inj.mp (by simpa using characters))
  | cons c =>
    rw [characters, List.flatMap_cons, List.map_append, List.append_eq_nil_iff] at empty
    have size : (String.utf8EncodeChar c).length = 0 := by simpa using congrArg List.length empty.1
    have positive := Char.utf8Size_pos c
    rw [String.length_utf8EncodeChar] at size
    omega

end CallCenter.Base64Url
