/-!
The Gregorian calendar carried in both directions over all years.

* `Date.toDays`: the days from 1 January 1970 to a date.
* `Date.ofDays`: the date that many days away.
* `Date.IsValid`: the dates that exist.
-/

namespace FleetMend

/-- A day named by its year, its month and its number in the month. -/
structure Date where
  year : Int
  month : Nat
  day : Nat
deriving DecidableEq

namespace Date

def isLeapYear (y : Int) : Bool := y % 4 = 0 && (y % 100 != 0 || y % 400 = 0)

def daysInMonth (y : Int) (m : Nat) : Nat :=
  match m with
  | 2 => if isLeapYear y then 29 else 28
  | 4 | 6 | 9 | 11 => 30
  | _ => 31

/-- A date that exists, in a year between −262143 and 262142. -/
def IsValid (d : Date) : Prop :=
  -262143 ≤ d.year ∧ d.year ≤ 262142 ∧ 1 ≤ d.month ∧ d.month ≤ 12 ∧
    1 ≤ d.day ∧ d.day ≤ daysInMonth d.year d.month

instance (d : Date) : Decidable d.IsValid := by unfold IsValid; infer_instance

/-- Counts in years that begin in March, so that the day that comes and goes stands last; 400 of
them have 146097 days. -/
def toDays (d : Date) : Int :=
  let y := if d.month ≤ 2 then d.year - 1 else d.year
  let era := y / 400
  let yearOfEra := y % 400
  let dayOfYear : Int := (153 * ((d.month + 9) % 12) + 2) / 5 + d.day - 1
  era * 146097 + yearOfEra * 365 + yearOfEra / 4 - yearOfEra / 100 + dayOfYear - 719468

/-- The date a number of days from 1 January 1970. -/
def ofDays (n : Int) : Date :=
  let z := n + 719468
  let era := z / 146097
  let dayOfEra := z % 146097
  let yearOfEra := (dayOfEra - dayOfEra / 1460 + dayOfEra / 36524 - dayOfEra / 146096) / 365
  let dayOfYear := (dayOfEra - (365 * yearOfEra + yearOfEra / 4 - yearOfEra / 100)).toNat
  let monthFromMarch := (5 * dayOfYear + 2) / 153
  let month := if monthFromMarch < 10 then monthFromMarch + 3 else monthFromMarch - 9
  let year := yearOfEra + era * 400 + (if month ≤ 2 then 1 else 0)
  ⟨year, month, dayOfYear - (153 * monthFromMarch + 2) / 5 + 1⟩

example : toDays ⟨1970, 1, 1⟩ = 0 ∧ ofDays 0 = ⟨1970, 1, 1⟩ := by decide
example : toDays ⟨2024, 2, 29⟩ = 19782 ∧ ofDays 19782 = ⟨2024, 2, 29⟩ := by decide
example : ofDays (toDays ⟨-1, 12, 31⟩) = ⟨-1, 12, 31⟩ := by decide

end Date

end FleetMend
