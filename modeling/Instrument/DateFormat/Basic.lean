/-
# Date formats

A date format is a template in which `%t` or `%T` and a letter stand for a part of a date, as in
`%tY-%tm-%td %tH:%tM:%tS`, and `%%` for a percent sign.  The same template writes dates, reads them,
and gives the pattern that finds them in a reply.  It also has a form in the conversions of
`strftime`.
-/
import Instrument.Calendar.Moment
import Instrument.Pattern.Escape

namespace Instrument

/-- A part of a date. -/
inductive DatePart
  | year
  | shortYear
  | monthName
  | monthAbbreviation
  | month
  | day
  | bareDay
  | hour
  | bareHour
  | hour12
  | bareHour12
  | minute
  | second
  | millisecond
  | zoneName
  | zoneOffset
  | halfDay
  deriving DecidableEq, Repr

namespace DatePart

/-- Every part. -/
def all : List DatePart :=
  [.year, .shortYear, .monthName, .monthAbbreviation, .month, .day, .bareDay, .hour, .bareHour,
   .hour12, .bareHour12, .minute, .second, .millisecond, .zoneName, .zoneOffset, .halfDay]

/-- The letter of a part in a template. -/
def letter : DatePart → Char
  | .year => 'Y'
  | .shortYear => 'y'
  | .monthName => 'B'
  | .monthAbbreviation => 'b'
  | .month => 'm'
  | .day => 'd'
  | .bareDay => 'e'
  | .hour => 'H'
  | .bareHour => 'k'
  | .hour12 => 'I'
  | .bareHour12 => 'l'
  | .minute => 'M'
  | .second => 'S'
  | .millisecond => 'L'
  | .zoneName => 'Z'
  | .zoneOffset => 'z'
  | .halfDay => 'p'

/-- The part of a letter. -/
def ofLetter? (c : Char) : Option DatePart := all.find? fun p => p.letter = c

theorem ofLetter?_letter (p : DatePart) : ofLetter? p.letter = some p := by cases p <;> rfl

/-- The conversion of `strftime` for a part. -/
def strftime : DatePart → String
  | .year => "%Y"
  | .shortYear => "%y"
  | .monthName => "%B"
  | .monthAbbreviation => "%b"
  | .month => "%m"
  | .day => "%d"
  | .bareDay => "%-d"
  | .hour => "%H"
  | .bareHour => "%-H"
  | .hour12 => "%I"
  | .bareHour12 => "%-I"
  | .minute => "%M"
  | .second => "%S"
  | .millisecond => "%3f"
  | .zoneName => "%Z"
  | .zoneOffset => "%z"
  | .halfDay => "%P"

/-- The pattern of a part in a reply. -/
def pattern : DatePart → String
  | .year => "\\d\x7b4\x7d"
  | .shortYear | .month | .day | .hour | .hour12 | .minute | .second => "\\d\x7b2\x7d"
  | .bareDay | .bareHour | .bareHour12 => "\\d\x7b1,2\x7d"
  | .millisecond => "\\d\x7b3\x7d"
  | .monthName | .monthAbbreviation | .zoneName | .zoneOffset | .halfDay => "\\S+"

end DatePart

/-- A segment of a template: a character that stands for itself, or a part of a date. -/
inductive DateSegment
  | literal (c : Char)
  | part (p : DatePart)
  deriving DecidableEq, Repr

/-- A template with its text. -/
structure DateFormat where
  source : String
  segments : List DateSegment
  deriving DecidableEq, Repr

/-- What is wrong with a template, or with a text for it. -/
inductive DateFormatFault
  | unknownDirective (source : String) (letter : Char)
  | unsupported (source : String)
  | parse (input source : String)
  deriving DecidableEq, Repr

/-- The wording of a date format fault. -/
def DateFormatFault.message : DateFormatFault → String
  | .unknownDirective s c =>
    "unknown date directive '%t" ++ String.ofList [c] ++ "' in \"" ++ s ++ "\""
  | .unsupported s => "unsupported conversion in date format \"" ++ s ++ "\""
  | .parse i s =>
    "failed to parse \"" ++ i ++ "\" as a date, required input is in form \"" ++ s ++ "\""

namespace DateFormat

/-- The segments of a template; `source` is its whole text. -/
def readSegments (source : String) : List Char → Except DateFormatFault (List DateSegment)
  | [] => .ok []
  | '%' :: '%' :: rest => (readSegments source rest).map (.literal '%' :: ·)
  | ['%', 't'] => .error (.unsupported source)
  | ['%', 'T'] => .error (.unsupported source)
  | '%' :: 't' :: c :: rest =>
    match DatePart.ofLetter? c with
    | some p => (readSegments source rest).map (.part p :: ·)
    | none => .error (.unknownDirective source c)
  | '%' :: 'T' :: c :: rest =>
    match DatePart.ofLetter? c with
    | some p => (readSegments source rest).map (.part p :: ·)
    | none => .error (.unknownDirective source c)
  | '%' :: _ => .error (.unsupported source)
  | c :: rest => (readSegments source rest).map (.literal c :: ·)

/-- Reads a template. -/
def read (source : String) : Except DateFormatFault DateFormat :=
  (readSegments source source.toList).map fun segments => ⟨source, segments⟩

/-- The template that holds where no other is given: date and time to the second. -/
def standard : DateFormat where
  source := "%tY-%tm-%td %tH:%tM:%tS"
  segments :=
    [.part .year, .literal '-', .part .month, .literal '-', .part .day, .literal ' ',
     .part .hour, .literal ':', .part .minute, .literal ':', .part .second]

/-- The template in the conversions of `strftime`. -/
def strftime (f : DateFormat) : String :=
  String.ofList <| f.segments.flatMap fun
    | .literal c => if c = '%' then ['%', '%'] else [c]
    | .part p => p.strftime.toList

/-- The pattern of dates in a reply. -/
def pattern (f : DateFormat) : String :=
  String.ofList <| "(?:".toList ++ (f.segments.flatMap fun
    | .literal c => Pattern.escapeChar c
    | .part p => p.pattern.toList) ++ [')']

end DateFormat

end Instrument
