/-
# Writing dates

`DateFormat.write` writes a moment by a template.  Numbers have a fixed count of digits unless the
part is a bare one; years outside of 0 to 9999 have a sign; offsets are rounded to the minute.
-/
import Instrument.DateFormat.Basic

namespace Instrument

open Calendar
open Number.Digits (text padded)

/-- The hour on a clock of twelve hours. -/
def clockHour (hour : Nat) : Nat := if hour % 12 = 0 then 12 else hour % 12

/-- A part of a moment. -/
def DatePart.write (m : Moment) : DatePart → List Char
  | .year => yearText m.date.year
  | .shortYear => padded 2 (m.date.year.emod 100).toNat
  | .monthName => Calendar.monthName m.date.month
  | .monthAbbreviation => Calendar.monthAbbreviation m.date.month
  | .month => padded 2 m.date.month
  | .day => padded 2 m.date.day
  | .bareDay => text m.date.day
  | .hour => padded 2 m.time.hour
  | .bareHour => text m.time.hour
  | .hour12 => padded 2 (clockHour m.time.hour)
  | .bareHour12 => text (clockHour m.time.hour)
  | .minute => padded 2 m.time.minute
  | .second => padded 2 m.time.shownSecond
  | .millisecond => padded 3 (m.time.fraction / 1000000)
  | .zoneName => Calendar.zoneName m.offset
  | .zoneOffset => offsetText [] m.offset
  | .halfDay => (if m.time.hour < 12 then "am" else "pm").toList

/-- A segment of a template under a moment. -/
def DateSegment.write (m : Moment) : DateSegment → List Char
  | .literal c => [c]
  | .part p => p.write m

/-- Writes a moment. -/
def DateFormat.write (f : DateFormat) (m : Moment) : String :=
  String.ofList (f.segments.flatMap (·.write m))

end Instrument
