/-
# Moments

A moment is a local date and time of day with the offset of the local clock from universal time.  A
nanosecond of a thousand million or more marks a leap second.  Moments are written in two forms:
`Moment.rfc3339` for data and `Moment.display` for readers.
-/
import Instrument.Calendar.Date
import Instrument.Number.Digits

namespace Instrument.Calendar

open Number.Digits (text padded)

/-- A time of day; nanoseconds from `10^9` on belong to a leap second. -/
structure TimeOfDay where
  hour : Nat
  minute : Nat
  second : Nat
  nanosecond : Nat
  deriving DecidableEq, Repr

/-- The start of a day. -/
def TimeOfDay.midnight : TimeOfDay := ⟨0, 0, 0, 0⟩

/-- A local date and time with the offset of the local clock in seconds east. -/
structure Moment where
  date : Date
  time : TimeOfDay
  offset : Int
  deriving DecidableEq, Repr

/-- The number of seconds of a day. -/
def secondsPerDay : Int := 86400

/-- Is the offset less than a day? -/
def isOffset (offset : Int) : Bool := -secondsPerDay < offset && offset < secondsPerDay

/-- The day number in universal time. -/
def Moment.universalDay (m : Moment) : Int :=
  (m.date.dayNumber * secondsPerDay + m.time.hour * 3600 + m.time.minute * 60 + m.time.second -
    m.offset).fdiv secondsPerDay

/-- The day number of the first date there is. -/
def leastDay : Int := (⟨leastYear, 1, 1, by decide⟩ : Date).dayNumber

/-- The day number of the last date there is. -/
def greatestDay : Int := (⟨greatestYear, 12, 31, by decide⟩ : Date).dayNumber

/-- The moment of a local date and time, if its date in universal time exists. -/
def Moment.ofLocal? (date : Date) (time : TimeOfDay) (offset : Int) : Option Moment :=
  let m : Moment := ⟨date, time, offset⟩
  if leastDay ≤ m.universalDay ∧ m.universalDay ≤ greatestDay then some m else none

/-- A year: four digits, with a sign outside of 0 to 9999. -/
def yearText (year : Int) : List Char :=
  if 0 ≤ year ∧ year ≤ 9999 then padded 4 year.natAbs
  else (if year < 0 then '-' else '+') :: padded 4 year.natAbs

/-- The second of the minute; a leap second is one more. -/
def TimeOfDay.shownSecond (t : TimeOfDay) : Nat := t.second + t.nanosecond / 1000000000

/-- The nanoseconds into the second. -/
def TimeOfDay.fraction (t : TimeOfDay) : Nat := t.nanosecond % 1000000000

/-- An offset in hours and minutes, rounded to the minute, with `colon` between them. -/
def offsetText (colon : List Char) (offset : Int) : List Char :=
  let minutes := (offset.natAbs + 30) / 60
  (if offset < 0 then '-' else '+') ::
    padded 2 (minutes / 60) ++ colon ++ padded 2 (minutes % 60)

/-- The name of a clock at an offset: hours and minutes, and seconds if there are any. -/
def zoneName (offset : Int) : List Char :=
  let n := offset.natAbs
  (if offset < 0 then '-' else '+') ::
    padded 2 (n / 3600) ++ ':' :: padded 2 (n / 60 % 60) ++
      (if n % 60 = 0 then [] else ':' :: padded 2 (n % 60))

/-- Year, month and day with hyphens. -/
def Date.text (d : Date) : List Char :=
  yearText d.year ++ '-' :: padded 2 d.month ++ '-' :: padded 2 d.day

/-- Hour, minute and second with colons. -/
def TimeOfDay.text (t : TimeOfDay) : List Char :=
  padded 2 t.hour ++ ':' :: padded 2 t.minute ++ ':' :: padded 2 t.shownSecond

/-- A fraction of a second: nothing, or a point with 3, 6 or 9 places as needed. -/
def fractionText (nanoseconds : Nat) : List Char :=
  if nanoseconds = 0 then []
  else if nanoseconds % 1000000 = 0 then '.' :: padded 3 (nanoseconds / 1000000)
  else if nanoseconds % 1000 = 0 then '.' :: padded 6 (nanoseconds / 1000)
  else '.' :: padded 9 nanoseconds

namespace Moment

/-- Date and time in the form of RFC 3339, without the offset. -/
def localText (m : Moment) : List Char :=
  m.date.text ++ 'T' :: m.time.text ++ fractionText m.time.fraction

/-- The form of RFC 3339 with a numeric offset. -/
def rfc3339 (m : Moment) : String :=
  String.ofList (m.localText ++ offsetText [':'] m.offset)

/-- The form of RFC 3339 with `Z` for universal time. -/
def rfc3339Zulu (m : Moment) : String :=
  String.ofList (m.localText ++ if m.offset = 0 then ['Z'] else offsetText [':'] m.offset)

/-- Date, time to the second, and offset. -/
def display (m : Moment) : String :=
  String.ofList (m.date.text ++ ' ' :: m.time.text ++ ' ' :: offsetText [':'] m.offset)

end Moment

end Instrument.Calendar
