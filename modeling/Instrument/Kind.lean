/-
# Kinds of parameters

The closed set of types that a parameter may have, with their names in a schema, the wire format that
holds when a schema gives none, and the pattern of their values in a reply.
-/
import Instrument.Text.Blank

namespace Instrument

/-- The type of a parameter.  A token is a single word. -/
inductive Kind
  | byte
  | int
  | long
  | float
  | double
  | boolean
  | char
  | text
  | token
  | date
  deriving DecidableEq, Repr

namespace Kind

/-- Every kind, in the order of the documentation. -/
def all : List Kind := [.byte, .int, .long, .float, .double, .boolean, .char, .text, .token, .date]

/-- The name of a kind in a schema. -/
def name : Kind → String
  | .byte => "byte"
  | .int => "int"
  | .long => "long"
  | .float => "float"
  | .double => "double"
  | .boolean => "boolean"
  | .char => "char"
  | .text => "string"
  | .token => "token"
  | .date => "date"

/-- Integers. -/
def isInteger : Kind → Bool
  | .byte | .int | .long => true
  | _ => false

/-- Floating point numbers. -/
def isFloating : Kind → Bool
  | .float | .double => true
  | _ => false

/-- Numbers. -/
def isNumeric (k : Kind) : Bool := k.isInteger || k.isFloating

/-- The format of dates where no other is given. -/
def defaultDateFormat : String := "%tY-%tm-%td %tH:%tM:%tS"

/-- The wire format where no other is given. -/
def defaultFormat : Kind → String
  | .byte | .int | .long => "%d"
  | .float | .double => "%f"
  | .char => "%1s"
  | .boolean | .text | .token => "%s"
  | .date => defaultDateFormat

/-- The kind of a name, in any case and with blanks around it. -/
def ofName? (s : String) : Option Kind :=
  let wanted := (Text.trim s.toList).map Char.toLower
  all.find? fun k => k.name.toList = wanted

/-- The wording for a name that is no kind. -/
def unknownMessage (s : String) : String := "unknown parameter type \"" ++ s ++ "\""

theorem ofName?_name (k : Kind) : ofName? k.name = some k := by cases k <;> decide

end Kind

end Instrument
