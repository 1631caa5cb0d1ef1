/-
# Parameters on the wire

`Parameter.encode` takes a value to its wire text: the type must be that of the parameter, a token
must be one word, and the value must be in range.  `Parameter.decode` reads a wire text back and
renders it again, and `Parameter.pattern` finds wire texts in a reply.
-/
import Instrument.Parameter.Basic
import Instrument.DateFormat.Reader
import Instrument.DateFormat.Writer
import Instrument.Text.Case
import Instrument.WireFormat.Render

namespace Instrument

/-- What is wrong with the arguments of a command, or with a value in a reply; or that there is no
parameter of a name. -/
inductive ParameterFault
  | arity (command : String) (expected actual : Nat)
  | typeMismatch (parameter : String) (expected : Kind) (actual : String)
  | parse (parameter input : String) (kind : Kind)
  | outOfRange (parameter value range : String)
  | unknown (name : String)
  deriving DecidableEq, Repr

/-- The wording of a parameter fault. -/
def ParameterFault.message : ParameterFault → String
  | .arity c e a =>
    "Number of parameters does not match for '" ++ c ++ "': " ++ toString e ++ " required, " ++
      toString a ++ " entered"
  | .typeMismatch p e a => p ++ " requires " ++ e.name ++ ": " ++ a ++ " entered"
  | .parse p i k => "Wrong type for " ++ p ++ ": \"" ++ i ++ "\" is not a valid " ++ k.name
  | .outOfRange p v r => "Out of range for " ++ p ++ ": \"" ++ v ++ "\" entered for range of " ++ r
  | .unknown n => "Parameter with name of " ++ n ++ " was not found"

/-- The kinds whose parameters hold a value of this type. -/
def Value.isOf : Value → Kind → Bool
  | .byte _, .byte => true
  | .int _, .int => true
  | .long _, .long => true
  | .float _, .float => true
  | .double _, .double => true
  | .boolean _, .boolean => true
  | .char _, .char => true
  | .text _, .text => true
  | .text _, .token => true
  | .date _, .date => true
  | _, _ => false

/-- The number that a range is asked about.  A `binary32` number counts as its shortest numeral, so
that it equals a bound written the same way. -/
def Value.rangeNumber? : Value → Option Float
  | .float x => Number.readFloat? (Number.displayFloat32 x)
  | v => v.asFloat?

/-- A single word: not empty and without blanks. -/
def isWord (s : String) : Bool := s ≠ "" && s.toList.all (!Text.isBlank ·)

namespace Parameter

/-- The fault of a text that is no value of the parameter. -/
def notValid (p : Parameter) (input : String) : ParameterFault := .parse p.name input p.kind

/-- The fault of a value of another type. -/
def mismatch (p : Parameter) (v : Value) : ParameterFault := .typeMismatch p.name p.kind v.typeName

/-- Is a value in a range?  Numbers are asked about as numbers, all else as text. -/
def inRange (p : Parameter) (r : Range) (v : Value) : Bool :=
  if r.isInterval || p.kind.isNumeric then v.rangeNumber?.any (r.hasNumber ·)
  else r.hasText v.display

/-- Checks that a value is in the range of the parameter, if it has one. -/
def checkRange (p : Parameter) (v : Value) : Except ParameterFault Unit :=
  match p.range with
  | none => .ok ()
  | some r =>
    if p.inRange r.range v then .ok () else .error (.outOfRange p.name v.display r.text)

/-- The wire text of a value. -/
def render (p : Parameter) (v : Value) : Except ParameterFault String :=
  match p.encoding, v with
  | .date f, .date m => .ok (f.write m)
  | .wire f, v =>
    match f.apply v with
    | .ok s => .ok s
    | .error _ => .error (p.mismatch v)
  | .date _, v => .error (p.mismatch v)

/-- A value in range with its wire text. -/
def checked (p : Parameter) (v : Value) : Except ParameterFault Argument := do
  p.checkRange v
  let wire ← p.render v
  return ⟨v, wire⟩

/-- Checks that a token is one word. -/
def checkWord (p : Parameter) (v : Value) : Except ParameterFault Unit :=
  match p.kind, v with
  | .token, .text s => if isWord s then .ok () else .error (p.notValid s)
  | _, _ => .ok ()

/-- Takes a value to the wire. -/
def encode (p : Parameter) (v : Value) : Except ParameterFault Argument :=
  if v.isOf p.kind then do
    p.checkWord v
    p.checked v
  else .error (p.mismatch v)

/-- An integer within bounds. -/
def readInt? (bits : Nat) (cs : List Char) : Option Int :=
  (Number.readInteger (.signed bits) cs).toOption

/-- A truth value in any case of its letters. -/
def readBool? (cs : List Char) : Option Bool :=
  if Text.eqIgnoreAsciiCase cs "true".toList then some true
  else if Text.eqIgnoreAsciiCase cs "false".toList then some false
  else none

/-- The value that a wire text spells, without regard to the range.  Blanks around numbers, truth
values and tokens do not count. -/
def readValue? (p : Parameter) (input : String) : Option Value :=
  if input = "" then none
  else
    let cs := Text.trim input.toList
    match p.kind with
    | .byte => (readInt? 8 cs).map fun n => .byte (Int8.ofInt n)
    | .int => (readInt? 32 cs).map fun n => .int (Int32.ofInt n)
    | .long => (readInt? 64 cs).map fun n => .long (Int64.ofInt n)
    | .float => (Number.readFloat32? cs).map .float
    | .double => (Number.readFloat? cs).map .double
    | .boolean => (readBool? cs).map .boolean
    | .char =>
      match input.toList with
      | [c] => some (.char c)
      | _ => none
    | .text => some (.text input)
    | .token => if isWord (String.ofList cs) then some (.text (String.ofList cs)) else none
    | .date =>
      match p.encoding with
      | .date f => (f.readMoment? input).map .date
      | .wire _ => none

/-- The value that a wire text spells, or the fault. -/
def readValue (p : Parameter) (input : String) : Except ParameterFault Value :=
  match p.readValue? input with
  | some v => .ok v
  | none => .error (p.notValid input)

/-- Takes a wire text to its value, which must be in range, and renders it again. -/
def decode (p : Parameter) (input : String) : Except ParameterFault Argument := do
  p.checked (← p.readValue input)

/-- The pattern of the wire texts of a kind other than dates. -/
def kindPattern : Kind → String
  | .byte | .int | .long => "[+\\-]?\\d+"
  | .float | .double => "[+\\-]?(?:\\d+\\.?\\d*|\\.\\d+)(?:[eE][+\\-]?\\d+)?"
  | .boolean => "(?i:true|false)"
  | .char => "\\S"
  | .token => "\\S+"
  | .text | .date => ".+"

/-- The pattern of wire texts in a reply.  It has no group. -/
def pattern (p : Parameter) : String :=
  match p.encoding with
  | .date f => f.pattern
  | .wire _ => "(?:" ++ kindPattern p.kind ++ ")"

end Parameter

end Instrument
