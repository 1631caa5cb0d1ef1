/-
# Reading dates

`DateFormat.readMoment?` reads a text by a template in two steps.  First each segment takes its
piece of the text and sets fields: blanks of the template match any run of blanks, other characters
themselves; numbers may have blanks before them and up to as many digits as the part is wide, a year
with a sign any number; names count in any case.  A field set twice must be set to the same.  Then
the fields are put together: year, month and day are required; without an hour and a minute the time
is midnight; without an offset, or with one of a day or more, the moment is in universal time.
-/
import Instrument.DateFormat.Basic
import Instrument.Text.Blank
import Instrument.Number.Integer

namespace Instrument

open Calendar Number

/-- The fields of a date that a text has set. -/
structure DateFields where
  year : Option Int
  shortYear : Option Nat
  month : Option Nat
  day : Option Nat
  half : Option Nat
  hour12 : Option Nat
  minute : Option Nat
  second : Option Nat
  nanosecond : Option Nat
  offset : Option Int
  deriving Repr

namespace DateFields

/-- No field set. -/
def none : DateFields :=
  ⟨.none, .none, .none, .none, .none, .none, .none, .none, .none, .none⟩

/-- A field after it is set; `none` if it was set to something else before. -/
def setField? [DecidableEq α] (old : Option α) (new : α) : Option (Option α) :=
  match old with
  | .none => some (some new)
  | some v => if v = new then some (some v) else .none

/-- Sets the year, which has 32 bits. -/
def setYear? (f : DateFields) (n : Int) : Option DateFields :=
  if (Bounds.signed 32).has n then
    (setField? f.year n).map fun v => { f with year := v }
  else .none

/-- Sets the last two digits of the year. -/
def setShortYear? (f : DateFields) (n : Nat) : Option DateFields :=
  if n < 100 then (setField? f.shortYear n).map fun v => { f with shortYear := v } else .none

/-- Sets the month. -/
def setMonth? (f : DateFields) (n : Nat) : Option DateFields :=
  if 1 ≤ n ∧ n ≤ 12 then (setField? f.month n).map fun v => { f with month := v } else .none

/-- Sets the day of the month. -/
def setDay? (f : DateFields) (n : Nat) : Option DateFields :=
  if 1 ≤ n ∧ n ≤ 31 then (setField? f.day n).map fun v => { f with day := v } else .none

/-- Sets the half of the day: 0 before noon, 1 after. -/
def setHalf? (f : DateFields) (n : Nat) : Option DateFields :=
  (setField? f.half n).map fun v => { f with half := v }

/-- Sets the hour of the half day, counted from 0. -/
def setHourOfHalf? (f : DateFields) (n : Nat) : Option DateFields :=
  (setField? f.hour12 n).map fun v => { f with hour12 := v }

/-- Sets the hour of the day. -/
def setHour? (f : DateFields) (n : Nat) : Option DateFields :=
  if n < 24 then (f.setHalf? (n / 12)).bind (·.setHourOfHalf? (n % 12)) else .none

/-- Sets the hour on a clock of twelve hours. -/
def setClockHour? (f : DateFields) (n : Nat) : Option DateFields :=
  if 1 ≤ n ∧ n ≤ 12 then f.setHourOfHalf? (n % 12) else .none

/-- Sets the minute. -/
def setMinute? (f : DateFields) (n : Nat) : Option DateFields :=
  if n < 60 then (setField? f.minute n).map fun v => { f with minute := v } else .none

/-- Sets the second, 60 being a leap second. -/
def setSecond? (f : DateFields) (n : Nat) : Option DateFields :=
  if n ≤ 60 then (setField? f.second n).map fun v => { f with second := v } else .none

/-- Sets the nanosecond. -/
def setNanosecond? (f : DateFields) (n : Nat) : Option DateFields :=
  (setField? f.nanosecond n).map fun v => { f with nanosecond := v }

/-- Sets the offset. -/
def setOffset? (f : DateFields) (n : Int) : Option DateFields :=
  (setField? f.offset n).map fun v => { f with offset := v }

/-- The year.  Two digits alone mean 1970 to 2069; beside a whole year they must agree with it, and
it may not be negative. -/
def resolveYear? (f : DateFields) : Option Int :=
  match f.year, f.shortYear with
  | y, .none => y
  | .none, some r => some (r + if r < 70 then 2000 else 1900)
  | some y, some r => if 0 ≤ y ∧ y % 100 = r then some y else .none

/-- The date. -/
def date? (f : DateFields) : Option Date := do
  Date.ofParts? (← f.resolveYear?) (← f.month) (← f.day)

/-- The time of day.  Nanoseconds count only with a second. -/
def time? (f : DateFields) : Option TimeOfDay := do
  let half ← f.half
  let hour ← f.hour12
  let minute ← f.minute
  let second := f.second.getD 0
  let nanosecond ← match f.nanosecond with
    | .none => some 0
    | some n => if f.second.isSome then some n else .none
  if second = 60 then some ⟨half * 12 + hour, minute, 59, 1000000000 + nanosecond⟩
  else some ⟨half * 12 + hour, minute, second, nanosecond⟩

/-- The offset; universal time if there is none or it is a day or more. -/
def offsetOrZero (f : DateFields) : Int :=
  match f.offset with
  | some n => if isOffset n then n else 0
  | .none => 0

/-- The moment that the fields make up. -/
def moment? (f : DateFields) : Option Moment := do
  Moment.ofLocal? (← f.date?) (f.time?.getD .midnight) f.offsetOrZero

end DateFields

/-- A number of at least one and at most `most` digits and what follows it; a number past 63 bits is
none. -/
def readCount? (most : Nat) (cs : List Char) : Option (Nat × List Char) :=
  let digits := (cs.take most).takeWhile Digits.isDigit
  if digits.isEmpty || !(Bounds.signed 64).has (Digits.value digits) then none
  else some (Digits.value digits, cs.drop digits.length)

/-- A number with blanks before it. -/
def readNumber? (most : Nat) (cs : List Char) : Option (Nat × List Char) :=
  readCount? most (Text.trimStart cs)

/-- A year with blanks before it: after a sign it may have any number of digits. -/
def readYear? (cs : List Char) : Option (Int × List Char) :=
  match Text.trimStart cs with
  | '-' :: rest => (readCount? rest.length rest).map fun (n, rest) => (-(n : Int), rest)
  | '+' :: rest => (readCount? rest.length rest).map fun (n, rest) => ((n : Int), rest)
  | rest => (readCount? 4 rest).map fun (n, rest) => ((n : Int), rest)

/-- Does a text begin with a word, in any case of the letters `A` to `Z`? -/
def beginsWith (word cs : List Char) : Bool :=
  word.length ≤ cs.length &&
    (cs.take word.length).map Char.toLower = word.map Char.toLower

/-- A month by the first three letters of its name. -/
def readMonthAbbreviation? (cs : List Char) : Option (Nat × List Char) :=
  ((List.range 12).find? fun i => beginsWith (monthAbbreviation (i + 1)) cs).map fun i =>
    (i + 1, cs.drop 3)

/-- A month by its name or the first three letters of it. -/
def readMonthName? (cs : List Char) : Option (Nat × List Char) :=
  (readMonthAbbreviation? cs).map fun (month, rest) =>
    let tail := (monthName month).drop 3
    (month, if beginsWith tail rest then rest.drop tail.length else rest)

/-- Two digits. -/
def readTwo? (cs : List Char) : Option (Nat × List Char) :=
  match cs with
  | a :: b :: rest =>
    if Digits.isDigit a && Digits.isDigit b then some (Digits.value [a, b], rest) else none
  | _ => none

/-- The sign of an offset: plus, hyphen or the minus sign. -/
def readOffsetSign? : List Char → Option (Bool × List Char)
  | '+' :: rest => some (false, rest)
  | '-' :: rest => some (true, rest)
  | '\u2212' :: rest => some (true, rest)
  | _ => none

/-- An offset in seconds: a sign, two digits of hours, colons or blanks, two digits of minutes. -/
def readOffset? (cs : List Char) : Option (Int × List Char) := do
  let (negative, rest) ← readOffsetSign? (Text.trimStart cs)
  let (hours, rest) ← readTwo? rest
  let (minutes, rest) ← readTwo? (rest.dropWhile fun c => c = ':' || Text.isBlank c)
  if minutes < 60 then
    let seconds : Int := hours * 3600 + minutes * 60
    some (if negative then -seconds else seconds, rest)
  else none

/-- The half of the day. -/
def readHalf? (cs : List Char) : Option (Nat × List Char) :=
  if beginsWith ['a', 'm'] cs then some (0, cs.drop 2)
  else if beginsWith ['p', 'm'] cs then some (1, cs.drop 2)
  else none

/-- A number read into a field. -/
def readInto? (set : DateFields → α → Option DateFields) (read : Option (α × List Char))
    (f : DateFields) : Option (DateFields × List Char) := do
  let (n, rest) ← read
  some (← set f n, rest)

/-- What a part takes of a text and what it sets. -/
def DatePart.read? (p : DatePart) (f : DateFields) (cs : List Char) :
    Option (DateFields × List Char) :=
  match p with
  | .year => readInto? DateFields.setYear? (readYear? cs) f
  | .shortYear => readInto? DateFields.setShortYear? (readNumber? 2 cs) f
  | .monthName => readInto? DateFields.setMonth? (readMonthName? cs) f
  | .monthAbbreviation => readInto? DateFields.setMonth? (readMonthAbbreviation? cs) f
  | .month => readInto? DateFields.setMonth? (readNumber? 2 cs) f
  | .day | .bareDay => readInto? DateFields.setDay? (readNumber? 2 cs) f
  | .hour | .bareHour => readInto? DateFields.setHour? (readNumber? 2 cs) f
  | .hour12 | .bareHour12 => readInto? DateFields.setClockHour? (readNumber? 2 cs) f
  | .minute => readInto? DateFields.setMinute? (readNumber? 2 cs) f
  | .second => readInto? DateFields.setSecond? (readNumber? 2 cs) f
  | .millisecond =>
    if (cs.take 3).length = 3 && (cs.take 3).all Digits.isDigit then
      (f.setNanosecond? (Digits.value (cs.take 3) * 1000000)).map (·, cs.drop 3)
    else none
  | .zoneName => some (f, cs.dropWhile (!Text.isBlank ·))
  | .zoneOffset => readInto? DateFields.setOffset? (readOffset? cs) f
  | .halfDay => readInto? DateFields.setHalf? (readHalf? cs) f

/-- What a segment takes of a text and what it sets. -/
def DateSegment.read? (s : DateSegment) (f : DateFields) (cs : List Char) :
    Option (DateFields × List Char) :=
  match s with
  | .part p => p.read? f cs
  | .literal c =>
    if Text.isBlank c then some (f, Text.trimStart cs)
    else
      match cs with
      | d :: rest => if d = c then some (f, rest) else none
      | [] => none

/-- Reads a whole text by segments. -/
def readSegments? : List DateSegment → DateFields → List Char → Option DateFields
  | [], f, cs => if cs.isEmpty then some f else none
  | s :: rest, f, cs => do
    let (f, cs) ← s.read? f cs
    readSegments? rest f cs

namespace DateFormat

/-- Reads a moment. -/
def readMoment? (f : DateFormat) (input : String) : Option Moment :=
  (readSegments? f.segments .none input.toList).bind (·.moment?)

/-- Reads a moment, or gives the fault. -/
def readMoment (f : DateFormat) (input : String) : Except DateFormatFault Moment :=
  match f.readMoment? input with
  | some m => .ok m
  | none => .error (.parse input f.source)

end DateFormat

end Instrument
