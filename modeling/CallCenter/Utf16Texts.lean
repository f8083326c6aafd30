import CallCenter.JsonValues
import Mathlib.Data.List.Lex

/-!
# Texts as UTF-16 code units

A text is sliced and compared by code units but measured in UTF-8 bytes. A slice may cut a
surrogate pair; the encoder then writes a replacement character of three bytes. Dropping a
high surrogate at the end leaves whole characters, and no more bytes than before.
-/

namespace CallCenter.Utf16Texts

open JsonValues

/-! ## The order of code units -/

/-- Code units compare lexicographically. -/
theorem unitsLe_iff_le (left right : List Nat) : unitsLe left right = true ↔ left ≤ right := by
  rw [← not_lt]
  induction left generalizing right with
  | nil => simp [unitsLe]
  | cons first rest ih =>
    cases right with
    | nil => simp [unitsLe]
    | cons other others =>
      rw [List.cons_lt_cons_iff, unitsLe]
      rcases Nat.lt_trichotomy first other with less | same | greater
      · simp [less, less.not_gt, less.ne']
      · simp [same, ih]
      · simp [greater, greater.not_gt]

/-! ## Encoding -/

/-- The code units of a character. -/
def charUnits (c : Char) : List Nat :=
  if c.toNat < 0x10000 then [c.toNat]
  else [0xD800 + (c.toNat - 0x10000) / 0x400, 0xDC00 + (c.toNat - 0x10000) % 0x400]

def isHighSurrogate (unit : Nat) : Bool := decide (0xD800 ≤ unit) && decide (unit ≤ 0xDBFF)

def isLowSurrogate (unit : Nat) : Bool := decide (0xDC00 ≤ unit) && decide (unit ≤ 0xDFFF)

/-- The bytes of one unit that is not half of a pair. -/
def unitBytes (unit : Nat) : Nat := if unit < 0x80 then 1 else if unit < 0x800 then 2 else 3

/-- The bytes of the UTF-8 encoding of code units. -/
def encodedBytes : List Nat → Nat
  | [] => 0
  | [unit] => unitBytes unit
  | unit :: next :: rest =>
    if isHighSurrogate unit && isLowSurrogate next then 4 + encodedBytes rest
    else unitBytes unit + encodedBytes (next :: rest)

/-- The characters that code units stand for. -/
def decodeUnits : List Nat → List Char
  | [] => []
  | [unit] => [Char.ofNat unit]
  | unit :: next :: rest =>
    if isHighSurrogate unit && isLowSurrogate next then
      Char.ofNat (0x10000 + (unit - 0xD800) * 0x400 + (next - 0xDC00)) :: decodeUnits rest
    else Char.ofNat unit :: decodeUnits (next :: rest)

/-- The units without a high surrogate at the end. -/
def dropTrailingHigh : List Nat → List Nat
  | [] => []
  | [unit] => if isHighSurrogate unit then [] else [unit]
  | unit :: next :: rest => unit :: dropTrailingHigh (next :: rest)

section Units
variable {unit : Nat}

section

variable (plain : isHighSurrogate unit = false)
include plain

theorem encodedBytes_plain (rest : List Nat) :
    encodedBytes (unit :: rest) = unitBytes unit + encodedBytes rest := by
  cases rest with
  | nil => rfl
  | cons => simp [encodedBytes, plain]

theorem decodeUnits_plain (rest : List Nat) :
    decodeUnits (unit :: rest) = Char.ofNat unit :: decodeUnits rest := by
  cases rest with
  | nil => rfl
  | cons => simp [decodeUnits, plain]

theorem dropTrailingHigh_plain (rest : List Nat) :
    dropTrailingHigh (unit :: rest) = unit :: dropTrailingHigh rest := by
  cases rest with
  | nil => simp [dropTrailingHigh, plain]
  | cons => rfl

end

end Units

theorem utf8Size_eq_bytes (c : Char) :
    c.utf8Size = if c.toNat < 0x10000 then unitBytes c.toNat else 4 := by
  have toNat : c.val.toNat = c.toNat := rfl
  simp only [Char.utf8Size, unitBytes, UInt32.le_iff_toNat_le, toNat, UInt32.toNat_ofNatLT]
  split_ifs <;> omega

/-- A character is one plain unit or a surrogate pair. -/
theorem charUnits_cases (c : Char) :
    (∃ unit, charUnits c = [unit] ∧ isHighSurrogate unit = false ∧ unitBytes unit = c.utf8Size ∧
        Char.ofNat unit = c) ∨
      ∃ high low, charUnits c = [high, low] ∧ isHighSurrogate high = true ∧
        isLowSurrogate low = true ∧ isHighSurrogate low = false ∧ c.utf8Size = 4 ∧
        Char.ofNat (0x10000 + (high - 0xD800) * 0x400 + (low - 0xDC00)) = c := by
  have valid : c.toNat < 0xD800 ∨ 0xDFFF < c.toNat ∧ c.toNat < 0x110000 := c.valid
  by_cases basic : c.toNat < 0x10000
  · left
    refine ⟨c.toNat, if_pos basic, ?_, ?_, Char.ofNat_toNat c⟩
    · simp only [isHighSurrogate, Bool.and_eq_false_iff, decide_eq_false_iff_not]
      omega
    · rw [utf8Size_eq_bytes, if_pos basic]
  · right
    refine ⟨_, _, if_neg basic, ?_, ?_, ?_, ?_, ?_⟩
    · simp only [isHighSurrogate, Bool.and_eq_true, decide_eq_true_eq]
      omega
    · simp only [isLowSurrogate, Bool.and_eq_true, decide_eq_true_eq]
      omega
    · simp only [isHighSurrogate, Bool.and_eq_false_iff, decide_eq_false_iff_not]
      omega
    · rw [utf8Size_eq_bytes, if_neg basic]
    · have whole : 0x10000 + (0xD800 + (c.toNat - 0x10000) / 0x400 - 0xD800) * 0x400 +
          (0xDC00 + (c.toNat - 0x10000) % 0x400 - 0xDC00) = c.toNat := by
        omega
      rw [whole, Char.ofNat_toNat]

theorem encodedBytes_char (c : Char) (rest : List Nat) :
    encodedBytes (charUnits c ++ rest) = c.utf8Size + encodedBytes rest := by
  obtain ⟨unit, units, plain, bytes, _⟩ | ⟨high, low, units, isHigh, isLow, _, bytes, _⟩ :=
    charUnits_cases c
  · rw [units, List.singleton_append, encodedBytes_plain plain, bytes]
  · rw [units, bytes]
    simp [encodedBytes, isHigh, isLow]

theorem decodeUnits_char (c : Char) (rest : List Nat) :
    decodeUnits (charUnits c ++ rest) = c :: decodeUnits rest := by
  obtain ⟨unit, units, plain, _, same⟩ | ⟨high, low, units, isHigh, isLow, _, _, same⟩ :=
    charUnits_cases c
  · rw [units, List.singleton_append, decodeUnits_plain plain, same]
  · rw [units]
    simp [decodeUnits, isHigh, isLow, same]

/-- The units of characters have as many bytes as the characters. -/
theorem encodedBytes_flatMap (chars : List Char) :
    encodedBytes (chars.flatMap charUnits) = (String.ofList chars).utf8ByteSize := by
  induction chars with
  | nil => rfl
  | cons c rest ih =>
    rw [List.flatMap_cons, encodedBytes_char, ih, String.ofList_cons,
      String.utf8ByteSize_append, String.utf8ByteSize_singleton]

theorem decodeUnits_flatMap (chars : List Char) :
    decodeUnits (chars.flatMap charUnits) = chars := by
  induction chars with
  | nil => rfl
  | cons c rest ih =>
    rw [List.flatMap_cons, decodeUnits_char, ih]

theorem unitBytes_le (unit : Nat) : unitBytes unit ≤ 3 := by
  unfold unitBytes
  split_ifs <;> omega

/-- A slice has no more bytes than the whole, also where it cuts a pair. -/
theorem encodedBytes_take_le (units : List Nat) (length : Nat) :
    encodedBytes (units.take length) ≤ encodedBytes units := by
  induction units using encodedBytes.induct generalizing length with
  | case1 => simp
  | case2 unit => cases length <;> simp [encodedBytes]
  | case3 unit next rest pair ih =>
    match length with
    | 0 => exact Nat.zero_le _
    | 1 =>
      have bytes := unitBytes_le unit
      simp only [List.take_succ_cons, List.take_zero, encodedBytes, pair, if_true]
      omega
    | length + 2 =>
      have shorter := ih length
      simp only [List.take_succ_cons, encodedBytes, pair, if_true]
      omega
  | case4 unit next rest apart ih =>
    match length with
    | 0 => exact Nat.zero_le _
    | 1 => simp [encodedBytes, apart]
    | length + 2 =>
      have shorter := ih (length + 1)
      simp only [List.take_succ_cons] at shorter ⊢
      simp only [encodedBytes, apart]
      exact Nat.add_le_add_left shorter _

/-- The units of a whole character are not cut. -/
theorem dropTrailingHigh_char (c : Char) (rest : List Nat) :
    dropTrailingHigh (charUnits c ++ rest) = charUnits c ++ dropTrailingHigh rest := by
  obtain ⟨unit, units, plain, _⟩ | ⟨high, low, units, _, _, notHigh, _⟩ := charUnits_cases c
  · rw [units, List.singleton_append, dropTrailingHigh_plain plain, List.singleton_append]
  · rw [units, List.cons_append, List.singleton_append, dropTrailingHigh,
      dropTrailingHigh_plain notHigh, List.cons_append, List.singleton_append]

/-- Of a part of a character nothing remains. -/
theorem dropTrailingHigh_cut {c : Char} {length : Nat} (short : length < (charUnits c).length) :
    dropTrailingHigh ((charUnits c).take length) = [] := by
  obtain ⟨unit, units, _⟩ | ⟨high, low, units, isHigh, _⟩ := charUnits_cases c
  · rw [units] at short ⊢
    simp [Nat.lt_one_iff.mp short, dropTrailingHigh]
  · rw [units] at short ⊢
    match length with
    | 0 => rfl
    | 1 => simp [dropTrailingHigh, isHigh]

/-- A slice of the units without a cut pair holds the first characters, and the units of one
more character are longer than the slice. -/
theorem slice_whole (chars : List Char) (length : Nat) :
    ∃ count, dropTrailingHigh ((chars.flatMap charUnits).take length) =
        (chars.take count).flatMap charUnits ∧
      encodedBytes ((chars.take count).flatMap charUnits) ≤
        encodedBytes ((chars.flatMap charUnits).take length) ∧
      ∀ longer, count < longer → longer ≤ chars.length →
        length < ((chars.take longer).flatMap charUnits).length := by
  induction chars generalizing length with
  | nil =>
    refine ⟨0, by simp [dropTrailingHigh], by simp, ?_⟩
    intro longer more within
    exact absurd (more.trans_le within) (Nat.lt_irrefl 0)
  | cons c rest ih =>
    rw [List.flatMap_cons]
    by_cases short : length < (charUnits c).length
    · refine ⟨0, ?_, Nat.zero_le _, ?_⟩
      · rw [List.take_append_of_le_length short.le, dropTrailingHigh_cut short]
        rfl
      · intro longer more _
        obtain ⟨others, rfl⟩ := Nat.exists_eq_add_one_of_ne_zero more.ne'
        rw [List.take_succ_cons, List.flatMap_cons, List.length_append]
        omega
    · obtain ⟨count, whole, bytes, longest⟩ := ih (length - (charUnits c).length)
      rw [List.take_append, List.take_of_length_le (Nat.le_of_not_lt short)]
      refine ⟨count + 1, ?_, ?_, ?_⟩
      · rw [dropTrailingHigh_char, whole, List.take_succ_cons, List.flatMap_cons]
      · rw [List.take_succ_cons, List.flatMap_cons, encodedBytes_char, encodedBytes_char]
        omega
      · intro longer more within
        obtain ⟨others, rfl⟩ := Nat.exists_eq_add_one_of_ne_zero (Nat.ne_zero_of_lt more)
        have next := longest others (by omega) (by simpa using within)
        rw [List.take_succ_cons, List.flatMap_cons, List.length_append]
        omega

end CallCenter.Utf16Texts
