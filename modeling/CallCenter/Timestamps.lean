import Mathlib.Data.List.Basic

/-!
# Timestamps

An `Instant` is a UTC date and time text in the profile that a datetime schema
accepts: a calendar date, hours and minutes, optional seconds with an optional
fraction, and the zone letter. A value of this type carries that check, so a
state cannot hold a malformed timestamp.
-/

namespace CallCenter.Timestamps

/-- Value of a decimal digit; other characters are excluded by the callers. -/
def digitValue (c : Char) : Nat := c.toNat - 48

/-- Value of a run of decimal digits. -/
def digitsValue (digits : List Char) : Nat :=
  digits.foldl (fun value digit => 10 * value + digitValue digit) 0

/-- Length of a month of the Gregorian calendar. -/
def daysInMonth (year month : Nat) : Nat :=
  if month = 2 then
    if year % 4 = 0 ∧ (year % 100 ≠ 0 ∨ year % 400 = 0) then 29 else 28
  else if month = 4 ∨ month = 6 ∨ month = 9 ∨ month = 11 then 30
  else 31

/-- Four-digit year, month and day of an existing date. -/
def isCalendarDate (year month day : List Char) : Bool :=
  (year ++ month ++ day).all Char.isDigit && decide (1 ≤ digitsValue month ∧ digitsValue month ≤ 12)
    && decide (1 ≤ digitsValue day)
    && decide (digitsValue day ≤ daysInMonth (digitsValue year) (digitsValue month))

/-- Optional seconds and fraction, then the zone letter. -/
def isSecondsTail : List Char → Bool
  | ['Z'] => true
  | ':' :: s₁ :: s₂ :: 'Z' :: [] =>
    s₁.isDigit && s₂.isDigit && decide (digitsValue [s₁, s₂] ≤ 59)
  | ':' :: s₁ :: s₂ :: '.' :: fraction =>
    s₁.isDigit && s₂.isDigit && decide (digitsValue [s₁, s₂] ≤ 59)
      && decide (fraction.getLast? = some 'Z') && decide (2 ≤ fraction.length)
      && fraction.dropLast.all Char.isDigit
  | _ => false

/-- The accepted UTC datetime texts. -/
def isIsoDatetime (text : String) : Bool :=
  match text.toList with
  | y₁ :: y₂ :: y₃ :: y₄ :: '-' :: m₁ :: m₂ :: '-' :: d₁ :: d₂ :: 'T' ::
      h₁ :: h₂ :: ':' :: n₁ :: n₂ :: rest =>
      isCalendarDate [y₁, y₂, y₃, y₄] [m₁, m₂] [d₁, d₂] && [h₁, h₂, n₁, n₂].all Char.isDigit
        && decide (digitsValue [h₁, h₂] ≤ 23) && decide (digitsValue [n₁, n₂] ≤ 59)
        && isSecondsTail rest
  | _ => false

/-- A timestamp text together with its check. -/
structure Instant where
  text : String
  iso : isIsoDatetime text = true

/-- The timestamp that a store writes into a state before any real clock reading. -/
def epoch : Instant := ⟨"1970-01-01T00:00:00.000Z", by decide⟩

end CallCenter.Timestamps
