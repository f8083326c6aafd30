import Mathlib.Algebra.Order.Floor.Div

/-!
# Text message segments

`smsSegments` divides the length of a message by the room of one segment. The
concatenation rule fills one segment after another and never splits a character
of two units, so a unit can stay empty at the end of a segment. Counting those
empty units gives the exact condition under which the quoted number of segments
covers what is sent.

A message is the sequence of code points that iterating over it yields; a lone
surrogate is one of them. Its length is far below the precision of a double, so
the ceiling of a quotient is taken over natural numbers.
-/

namespace CallCenter.SmsSegments

/-- The characters of one septet. -/
def gsmBasic : List Nat :=
  ("@£$¥èéùìòÇ\nØø\rÅåΔ_ΦΓΛΩΠΨΣΘΞÆæßÉ !\"#¤%&'()*+,-./0123456789:;<=>?¡" ++
    "ABCDEFGHIJKLMNOPQRSTUVWXYZÄÖÑÜ§¿abcdefghijklmnopqrstuvwxyzäöñüà").toList.map Char.toNat

/-- The characters of two septets. -/
def gsmExtended : List Nat := "^\x7b\x7d\\[~]|€".toList.map Char.toNat

/-- UTF-16 units of a code point. -/
def utf16Units (point : Nat) : Nat := if point > 0xffff then 2 else 1

/-- One segment up to `single`, then the ceiling of the length over `room`. -/
def segmentsOf (single room length : Nat) : Nat := if length ≤ single then 1 else length ⌈/⌉ room

/-- The loop counts septets until a character outside both tables sends it back
to the whole message in UTF-16. -/
def countSegments (message : List Nat) (septets : Nat) : List Nat → Nat
  | [] => segmentsOf 160 153 septets
  | character :: rest =>
    if gsmBasic.contains character then countSegments message (septets + 1) rest
    else if gsmExtended.contains character then countSegments message (septets + 2) rest
    else segmentsOf 70 67 (message.map utf16Units).sum

def smsSegments (message : List Nat) : Nat := countSegments message 0 message

/-- The units of each character, and the room of a segment sent alone and of one
that is joined to others. -/
structure Encoding where
  width : Nat → Nat
  single : Nat
  room : Nat

def septetEncoding : Encoding where
  width character := if gsmBasic.contains character then 1 else 2
  single := 160
  room := 153

def utf16Encoding : Encoding := ⟨utf16Units, 70, 67⟩

def isGsm (character : Nat) : Bool := gsmBasic.contains character || gsmExtended.contains character

def encodingOf (message : List Nat) : Encoding :=
  if message.all isGsm then septetEncoding else utf16Encoding

namespace Encoding

variable (encoding : Encoding)

def length (message : List Nat) : Nat := (message.map encoding.width).sum

/-- Segments that greedy filling opens after the first: a character that does
not fit opens the next one. -/
def opened (used : Nat) : List Nat → Nat
  | [] => 0
  | character :: rest =>
    if used + encoding.width character ≤ encoding.room then
      opened (used + encoding.width character) rest
    else opened (encoding.width character) rest + 1

/-- Units that greedy filling leaves empty at the ends of segments. -/
def emptyUnits (used : Nat) : List Nat → Nat
  | [] => 0
  | character :: rest =>
    if used + encoding.width character ≤ encoding.room then
      emptyUnits (used + encoding.width character) rest
    else encoding.room - used + emptyUnits (encoding.width character) rest

/-- Filled and empty units together decide how many segments are opened. -/
theorem opened_le_iff (message : List Nat)
    (fits : ∀ character, 0 < encoding.width character ∧ encoding.width character ≤ encoding.room)
    {used : Nat} (within : used ≤ encoding.room) (count : Nat) :
    encoding.opened used message ≤ count ↔
      used + encoding.length message + encoding.emptyUnits used message ≤
        encoding.room * (count + 1) := by
  induction message generalizing used count with
  | nil =>
    simp only [opened, length, emptyUnits, List.map_nil, List.sum_nil, Nat.mul_succ]
    omega
  | cons character rest inductionHypothesis =>
    obtain ⟨positive, narrow⟩ := fits character
    simp only [opened, emptyUnits, length, List.map_cons, List.sum_cons]
    split
    · rename_i fitting
      rw [inductionHypothesis fitting, length]
      omega
    · cases count with
      | zero => omega
      | succ earlier =>
        have next := inductionHypothesis narrow earlier
        rw [length] at next
        rw [Nat.mul_succ]
        omega

end Encoding

/-- The concatenation rule. -/
def sentSegments (message : List Nat) : Nat :=
  let encoding := encodingOf message
  if encoding.length message ≤ encoding.single then 1 else encoding.opened 0 message + 1

/-- The loop ends with the length of the message in its encoding. -/
theorem countSegments_eq (message rest : List Nat) (septets : Nat) :
    countSegments message septets rest =
      if rest.all isGsm then segmentsOf 160 153 (septets + septetEncoding.length rest)
      else segmentsOf 70 67 (message.map utf16Units).sum := by
  induction rest generalizing septets with
  | nil => rfl
  | cons character rest inductionHypothesis =>
    rw [countSegments, inductionHypothesis, inductionHypothesis]
    by_cases basic : character ∈ gsmBasic <;> by_cases extended : character ∈ gsmExtended <;>
      simp [isGsm, basic, extended, Encoding.length, septetEncoding, Nat.add_assoc]

theorem smsSegments_eq (message : List Nat) :
    smsSegments message = segmentsOf (encodingOf message).single (encodingOf message).room
      ((encodingOf message).length message) := by
  rw [smsSegments, countSegments_eq, encodingOf, Nat.zero_add]
  split <;> rfl

/-- The last counted segment has as many free units as the length lacks to the
next multiple of the room. -/
theorem segmentsOf_free {single room length : Nat} (positive : 0 < room) (long : single < length) :
    room * segmentsOf single room length = length + (room - length % room) % room := by
  rw [segmentsOf, if_neg (Nat.not_le.mpr long), Nat.ceilDiv_eq_add_pred_div]
  have whole := Nat.div_add_mod length room
  have below := Nat.mod_lt length positive
  rcases Nat.eq_zero_or_pos (length % room) with exact | rest
  · rw [exact, Nat.sub_zero, Nat.mod_self, Nat.add_zero]
    have parts : (length + room - 1) / room = length / room := by
      rw [Nat.div_eq_iff positive]
      rw [Nat.mul_comm] at whole
      omega
    rw [parts]
    omega
  · rw [Nat.mod_eq_of_lt (by omega)]
    have parts : (length + room - 1) / room = length / room + 1 := by
      rw [Nat.div_eq_iff positive, Nat.add_mul]
      rw [Nat.mul_comm] at whole
      omega
    rw [parts, Nat.mul_succ]
    omega

/-- The quoted count covers the sent segments exactly when the message fits one
segment or the units that greedy filling leaves empty are no more than a full
packing of the same length would leave free in its last segment. -/
theorem covers_iff_empty_units_fit (message : List Nat) :
    sentSegments message ≤ smsSegments message ↔ let encoding := encodingOf message
      encoding.length message ≤ encoding.single ∨
        encoding.emptyUnits 0 message ≤
          (encoding.room - encoding.length message % encoding.room) % encoding.room := by
  have fits : ∀ character, 0 < (encodingOf message).width character ∧
      (encodingOf message).width character ≤ (encodingOf message).room := by
    intro character
    rw [encodingOf]
    split
    · simp only [septetEncoding]
      split <;> decide
    · simp only [utf16Encoding, utf16Units]
      split <;> decide
  have room := (fits 0).1.trans_le (fits 0).2
  by_cases short : (encodingOf message).length message ≤ (encodingOf message).single
  · simp only [sentSegments, smsSegments_eq, segmentsOf, short, if_true, true_or, le_refl]
  · have free := segmentsOf_free room (Nat.not_le.mp short)
    rw [← smsSegments_eq] at free
    obtain ⟨count, sms⟩ : ∃ count, smsSegments message = count + 1 := by
      refine Nat.exists_eq_add_one_of_ne_zero fun none => ?_
      rw [none] at free
      omega
    have opened := (encodingOf message).opened_le_iff message fits (Nat.zero_le _) count
    rw [← sms, free] at opened
    simp only [sentSegments, short, if_false, false_or, sms]
    omega

/-- A euro sign after 152 letters does not fit beside them, and the letter it
displaces opens a third segment that the count does not see. -/
theorem straddling_euro_underestimated :
    let message := List.replicate 152 'a'.toNat ++ '€'.toNat :: List.replicate 152 'a'.toNat
    smsSegments message = 2 ∧ sentSegments message = 3 := by
  decide +kernel

end CallCenter.SmsSegments
