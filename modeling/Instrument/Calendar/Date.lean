/-
# Dates

Dates of the proleptic Gregorian calendar, with a year zero and years before it, within the years
that a date may have.  A `Date` holds the proof that it names a day.
-/

namespace Instrument.Calendar

/-- The first year that a date may have. -/
def leastYear : Int := -262143

/-- The last year that a date may have. -/
def greatestYear : Int := 262142

/-- Has the year a 29th of February? -/
def isLeap (year : Int) : Bool := year % 4 = 0 && (year % 100 ≠ 0 || year % 400 = 0)

/-- The number of days of a month from 1 to 12. -/
def daysInMonth (year : Int) (month : Nat) : Nat :=
  if month = 2 then (if isLeap year then 29 else 28)
  else if month = 4 ∨ month = 6 ∨ month = 9 ∨ month = 11 then 30
  else 31

/-- Do the numbers name a day? -/
def IsDay (year : Int) (month day : Nat) : Prop :=
  leastYear ≤ year ∧ year ≤ greatestYear ∧ 1 ≤ month ∧ month ≤ 12 ∧ 1 ≤ day ∧
    day ≤ daysInMonth year month

instance (year : Int) (month day : Nat) : Decidable (IsDay year month day) := by
  unfold IsDay; infer_instance

/-- A day of the calendar. -/
structure Date where
  year : Int
  month : Nat
  day : Nat
  isDay : IsDay year month day
  deriving DecidableEq, Repr

/-- The day of a year, a month and a day of the month, if there is one. -/
def Date.ofParts? (year : Int) (month day : Nat) : Option Date :=
  if h : IsDay year month day then some ⟨year, month, day, h⟩ else none

theorem Date.ofParts?_eq_some {year : Int} {month day : Nat} {d : Date}
    (h : Date.ofParts? year month day = some d) :
    d.year = year ∧ d.month = month ∧ d.day = day := by
  unfold Date.ofParts? at h
  split at h
  · cases h; exact ⟨rfl, rfl, rfl⟩
  · cases h

theorem Date.ofParts?_self (d : Date) : Date.ofParts? d.year d.month d.day = some d := by
  simp [Date.ofParts?, d.isDay]

/-- Days from the start of 1 March of year zero to the first of a month, years starting in March. -/
def daysBeforeMonth (month : Nat) : Nat := (153 * ((month + 9) % 12) + 2) / 5

/-- The number of days from 1970-01-01 to a date, negative before it. -/
def Date.dayNumber (d : Date) : Int :=
  let year := if d.month ≤ 2 then d.year - 1 else d.year
  year * 365 + year.fdiv 4 - year.fdiv 100 + year.fdiv 400 + daysBeforeMonth d.month + d.day -
    719469

/-- English names of the months. -/
def monthNames : List String :=
  ["January", "February", "March", "April", "May", "June", "July", "August", "September",
   "October", "November", "December"]

/-- The name of a month from 1 to 12. -/
def monthName (month : Nat) : List Char := (monthNames.getD (month - 1) "").toList

/-- The first three letters of the name of a month. -/
def monthAbbreviation (month : Nat) : List Char := (monthName month).take 3

end Instrument.Calendar
