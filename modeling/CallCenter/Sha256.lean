import Mathlib.Data.List.Basic

/-!
# SHA-256

The hash function itself, over natural numbers below `2 ^ 32`. Theorems about programs
that hash take the function as a parameter; a run on concrete data is evaluated with this
one. Every word is reduced to a numeral before it is used again (`evaluated`), so that
digests of short texts can be computed inside proofs.
-/

namespace CallCenter.Sha256

/-- Continue with a number, after it has been computed. -/
def evaluated {α : Type} (number : Nat) (use : Nat → α) : α :=
  match number with
  | 0 => use 0
  | smaller + 1 => use (smaller + 1)

def word (number : Nat) : Nat := number % 4294967296

def rotateRight (places number : Nat) : Nat :=
  word ((number >>> places) ||| (number <<< (32 - places)))

/-- The eight working variables. -/
structure Working where
  a : Nat
  b : Nat
  c : Nat
  d : Nat
  e : Nat
  f : Nat
  g : Nat
  h : Nat

def initial : Working :=
  ⟨0x6a09e667, 0xbb67ae85, 0x3c6ef372, 0xa54ff53a, 0x510e527f, 0x9b05688c, 0x1f83d9ab, 0x5be0cd19⟩

def constants : List Nat :=
  [0x428a2f98, 0x71374491, 0xb5c0fbcf, 0xe9b5dba5, 0x3956c25b, 0x59f111f1, 0x923f82a4,
    0xab1c5ed5, 0xd807aa98, 0x12835b01, 0x243185be, 0x550c7dc3, 0x72be5d74, 0x80deb1fe,
    0x9bdc06a7, 0xc19bf174, 0xe49b69c1, 0xefbe4786, 0x0fc19dc6, 0x240ca1cc, 0x2de92c6f,
    0x4a7484aa, 0x5cb0a9dc, 0x76f988da, 0x983e5152, 0xa831c66d, 0xb00327c8, 0xbf597fc7,
    0xc6e00bf3, 0xd5a79147, 0x06ca6351, 0x14292967, 0x27b70a85, 0x2e1b2138, 0x4d2c6dfc,
    0x53380d13, 0x650a7354, 0x766a0abb, 0x81c2c92e, 0x92722c85, 0xa2bfe8a1, 0xa81a664b,
    0xc24b8b70, 0xc76c51a3, 0xd192e819, 0xd6990624, 0xf40e3585, 0x106aa070, 0x19a4c116,
    0x1e376c08, 0x2748774c, 0x34b0bcb5, 0x391c0cb3, 0x4ed8aa4a, 0x5b9cca4f, 0x682e6ff3,
    0x748f82ee, 0x78a5636f, 0x84c87814, 0x8cc70208, 0x90befffa, 0xa4506ceb, 0xbef9a3f7,
    0xc67178f2]

/-- Extend a window of sixteen words by the given number of words. -/
def schedule : Nat → List Nat → List Nat
  | 0, _ => []
  | _ + 1, [] => []
  | count + 1, oldest :: rest =>
    let second := rest.getD 0 0
    let recent := rest.getD 13 0
    evaluated (word (oldest + (rotateRight 7 second ^^^ rotateRight 18 second ^^^ (second >>> 3))
        + rest.getD 8 0
        + (rotateRight 17 recent ^^^ rotateRight 19 recent ^^^ (recent >>> 10))))
      fun new => oldest :: schedule count (rest ++ [new])

def round (work : Working) (constant scheduled : Nat) : Working :=
  let choice := (work.e &&& work.f) ^^^ ((4294967295 - work.e) &&& work.g)
  let majority := (work.a &&& work.b) ^^^ (work.a &&& work.c) ^^^ (work.b &&& work.c)
  let first := work.h + (rotateRight 6 work.e ^^^ rotateRight 11 work.e ^^^ rotateRight 25 work.e)
    + choice + constant + scheduled
  let second := (rotateRight 2 work.a ^^^ rotateRight 13 work.a ^^^ rotateRight 22 work.a) + majority
  evaluated (word (work.d + first)) fun e =>
    evaluated (word (first + second)) fun a =>
      ⟨a, work.a, work.b, work.c, e, work.e, work.f, work.g⟩

def rounds : Working → List (Nat × Nat) → Working
  | work, [] => work
  | work, (constant, scheduled) :: rest => rounds (round work constant scheduled) rest

def compress (work : Working) (block : List Nat) : Working :=
  let final := rounds work (constants.zip (schedule 64 block))
  ⟨word (work.a + final.a), word (work.b + final.b), word (work.c + final.c),
    word (work.d + final.d), word (work.e + final.e), word (work.f + final.f),
    word (work.g + final.g), word (work.h + final.h)⟩

def compressAll : Nat → Working → List Nat → Working
  | 0, work, _ => work
  | count + 1, work, message =>
    compressAll count (compress work (message.take 16)) (message.drop 16)

/-- One bit, zeros, and the length in bits, up to a multiple of 64 bytes. -/
def pad (bytes : List Nat) : List Nat :=
  bytes ++ [0x80] ++ List.replicate ((119 - bytes.length % 64) % 64) 0
    ++ (List.range 8).map fun index => ((bytes.length * 8) >>> (8 * (7 - index))) % 256

/-- Big-endian words of four bytes. -/
def wordsOf : List Nat → List Nat
  | first :: second :: third :: fourth :: rest =>
    evaluated (((first * 256 + second) * 256 + third) * 256 + fourth)
      fun whole => whole :: wordsOf rest
  | _ => []

def hexDigit (number : Nat) : Char :=
  if number < 10 then Char.ofNat (48 + number) else Char.ofNat (87 + number)

def hexWord (number : Nat) : List Char :=
  (List.range 8).map fun index => hexDigit ((number >>> (28 - 4 * index)) % 16)

/-- The digest of the text's UTF-8 bytes, in lower-case hexadecimal digits. -/
def digest (text : String) : String :=
  let message := wordsOf (pad (text.toByteArray.data.toList.map UInt8.toNat))
  let final := compressAll (message.length / 16) initial message
  String.ofList ([final.a, final.b, final.c, final.d, final.e, final.f, final.g, final.h].flatMap
    hexWord)

/-- A digest has 64 digits. -/
theorem digest_length (text : String) : (digest text).toList.length = 64 := by
  simp [digest, hexWord]

theorem hexDigit_range {number : Nat} (small : number < 16) :
    (48 ≤ (hexDigit number).toNat ∧ (hexDigit number).toNat ≤ 57) ∨
      (97 ≤ (hexDigit number).toNat ∧ (hexDigit number).toNat ≤ 102) := by
  have all : ∀ number < 16, (48 ≤ (hexDigit number).toNat ∧ (hexDigit number).toNat ≤ 57) ∨
      (97 ≤ (hexDigit number).toNat ∧ (hexDigit number).toNat ≤ 102) := by decide
  exact all number small

/-- Every character of a digest is a lower-case hexadecimal digit. -/
theorem digest_digits (text : String) (digit : Char) (member : digit ∈ (digest text).toList) :
    (48 ≤ digit.toNat ∧ digit.toNat ≤ 57) ∨ (97 ≤ digit.toNat ∧ digit.toNat ≤ 102) := by
  simp only [digest, String.toList_ofList, List.mem_flatMap, hexWord, List.mem_map] at member
  obtain ⟨number, _, index, _, rfl⟩ := member
  exact hexDigit_range (Nat.mod_lt _ (by decide))

example : digest "abc" = "ba7816bf8f01cfea414140de5dae2223b00361a396177a9cb410ff61f20015ad" := by
  decide +kernel

end CallCenter.Sha256
