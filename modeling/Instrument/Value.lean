/-
# Parameter values

A `Value` is what a caller hands over as an argument and what a reply is parsed to.  Its type is
closed; numbers keep their width.  A raw value is a result of a remote call that is no text, passed
on as it came.
-/
import Instrument.Json.Writer
import Instrument.Calendar.Moment
import Instrument.Number.Integer

namespace Instrument

/-- A value of one of the parameter types. -/
inductive Value
  | byte (n : Int8)
  | int (n : Int32)
  | long (n : Int64)
  | float (x : Float32)
  | double (x : Float)
  | boolean (b : Bool)
  | char (c : Char)
  | text (s : String)
  | date (m : Calendar.Moment)
  | raw (j : Json)
  deriving Inhabited, Repr

namespace Value

open Number

/-- The name of the type of a value. -/
def typeName : Value → String
  | .byte _ => "byte"
  | .int _ => "int"
  | .long _ => "long"
  | .float _ => "float"
  | .double _ => "double"
  | .boolean _ => "boolean"
  | .char _ => "char"
  | .text _ => "string"
  | .date _ => "date"
  | .raw _ => "opaque"

/-- The integer of an integer value. -/
def asInt? : Value → Option Int
  | .byte n => some n.toInt
  | .int n => some n.toInt
  | .long n => some n.toInt
  | _ => none

/-- A number as a `binary64` number, the nearest one for a long integer. -/
def asFloat? : Value → Option Float
  | .byte n => some (nearestFloat n.toInt)
  | .int n => some (nearestFloat n.toInt)
  | .long n => some (nearestFloat n.toInt)
  | .float x => some x.toFloat
  | .double x => some x
  | _ => none

/-- The text of a text value. -/
def asText? : Value → Option String
  | .text s => some s
  | _ => none

/-- The truth value of a boolean. -/
def asBool? : Value → Option Bool
  | .boolean b => some b
  | _ => none

/-- The character of a character value. -/
def asChar? : Value → Option Char
  | .char c => some c
  | _ => none

/-- The moment of a date value. -/
def asMoment? : Value → Option Calendar.Moment
  | .date m => some m
  | _ => none

/-- A value as it is shown: the wire text of a value without a format. -/
def display : Value → String
  | .byte n => String.ofList (writeInteger n.toInt)
  | .int n => String.ofList (writeInteger n.toInt)
  | .long n => String.ofList (writeInteger n.toInt)
  | .float x => String.ofList (displayFloat32 x)
  | .double x => String.ofList (displayFloat x)
  | .boolean b => if b then "true" else "false"
  | .char c => String.ofList [c]
  | .text s => s
  | .date m => m.display
  | .raw j => j.compact

/-- A real number as an argument of a remote call: what is none is null. -/
def realArgument (x : Float) : Json :=
  match floatDatum x with
  | .finite _ _ _ => .real x
  | .infinite _ | .nan => .null

/-- A value as an argument of a remote call: numbers of either width become `binary64`. -/
def toArgument : Value → Json
  | .byte n => .integer n.toInt
  | .int n => .integer n.toInt
  | .long n => .integer n.toInt
  | .float x => realArgument x.toFloat
  | .double x => realArgument x
  | .boolean b => .bool b
  | .char c => .text (String.ofList [c])
  | .text s => .text s
  | .date m => .text m.rfc3339
  | .raw j => j

/-- A value as data: numbers keep their width, dates in universal time end in `Z`. -/
def toJson : Value → Json
  | .byte n => .integer n.toInt
  | .int n => .integer n.toInt
  | .long n => .integer n.toInt
  | .float x => .single x
  | .double x => .real x
  | .boolean b => .bool b
  | .char c => .text (String.ofList [c])
  | .text s => .text s
  | .date m => .text m.rfc3339Zulu
  | .raw j => j

end Value

/-- A value with the wire text that it was rendered to. -/
structure Argument where
  value : Value
  wire : String
  deriving Inhabited, Repr

end Instrument
