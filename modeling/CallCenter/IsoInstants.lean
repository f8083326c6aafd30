import CallCenter.Timestamps

/-!
# Canonical instants and their milliseconds

The texts that the ISO printer of a date object produces: a year of four digits, or a
sign and six digits outside that range, then month, day, time to the millisecond and the
zone letter. `canonicalMillis` reads such a text as milliseconds since the epoch and
rejects every other text, within the range that date objects have.
-/

namespace CallCenter.IsoInstants

open Timestamps

/-- Days since the epoch of a date of the proleptic Gregorian calendar. The year is
counted from March, so that the leap day ends it. -/
def civilDays (year : Int) (month day : Nat) : Int :=
  let marchYear := if month ≤ 2 then year - 1 else year
  let marchMonth : Nat := if month ≤ 2 then month + 9 else month - 3
  let era := marchYear.fdiv 400
  let yearOfEra := marchYear - era * 400
  let dayOfYear : Int := (153 * marchMonth + 2) / 5 + day - 1
  era * 146097 + (yearOfEra * 365 + yearOfEra / 4 - yearOfEra / 100 + dayOfYear) - 719468

/-- Length of a month in any year of the calendar. -/
def daysInCivilMonth (year : Int) (month : Nat) : Nat :=
  if month = 2 then if year % 4 = 0 ∧ (year % 100 ≠ 0 ∨ year % 400 = 0) then 29 else 28
  else daysInMonth 0 month

/-- The largest distance from the epoch that a date object represents. -/
def MAX_TIME_MS : Nat := 8640000000000000

/-- Read what follows the year. -/
def restMillis (year : Int) : List Char → Option Int
  | ['-', m₁, m₂, '-', d₁, d₂, 'T', h₁, h₂, ':', n₁, n₂, ':', s₁, s₂, '.', f₁, f₂, f₃, 'Z'] =>
    let month := digitsValue [m₁, m₂]
    let day := digitsValue [d₁, d₂]
    let hour := digitsValue [h₁, h₂]
    let minute := digitsValue [n₁, n₂]
    let second := digitsValue [s₁, s₂]
    let millis := (((civilDays year month day * 24 + hour) * 60 + minute) * 60 + second) * 1000
      + digitsValue [f₁, f₂, f₃]
    if [m₁, m₂, d₁, d₂, h₁, h₂, n₁, n₂, s₁, s₂, f₁, f₂, f₃].all Char.isDigit
        && decide (1 ≤ month ∧ month ≤ 12 ∧ 1 ≤ day ∧ day ≤ daysInCivilMonth year month)
        && decide (hour ≤ 23 ∧ minute ≤ 59 ∧ second ≤ 59)
        && decide (millis.natAbs ≤ MAX_TIME_MS) then some millis
    else none
  | _ => none

/-- Milliseconds of a canonical instant. -/
def canonicalMillis (text : String) : Option Int :=
  match text.toList with
  | '+' :: y₁ :: y₂ :: y₃ :: y₄ :: y₅ :: y₆ :: rest =>
    let year := digitsValue [y₁, y₂, y₃, y₄, y₅, y₆]
    if [y₁, y₂, y₃, y₄, y₅, y₆].all Char.isDigit && decide (10000 ≤ year) then
      restMillis year rest
    else none
  | '-' :: y₁ :: y₂ :: y₃ :: y₄ :: y₅ :: y₆ :: rest =>
    let year := digitsValue [y₁, y₂, y₃, y₄, y₅, y₆]
    if [y₁, y₂, y₃, y₄, y₅, y₆].all Char.isDigit && decide (1 ≤ year) then
      restMillis (-(year : Int)) rest
    else none
  | y₁ :: y₂ :: y₃ :: y₄ :: rest =>
    if [y₁, y₂, y₃, y₄].all Char.isDigit then restMillis (digitsValue [y₁, y₂, y₃, y₄]) rest
    else none
  | _ => none

example : canonicalMillis "2024-02-29T23:59:59.999Z" = some 1709251199999 := by decide +kernel

end CallCenter.IsoInstants
