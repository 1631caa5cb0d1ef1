/-
# Wire formats

A wire format is a template such as `%d`, `%+.3e` or `POS=%08.2f` in which every conversion formats
the same value.  The conversions are `d x X o` for integers, `f e E g G` for floating point numbers,
`c` for characters, `b B` for booleans and `s S` for any value.
-/
import Instrument.Kind
import Instrument.Value

namespace Instrument

/-- What a conversion makes of a value; `upper` asks for upper case letters. -/
inductive Conversion
  | decimal
  | hexadecimal (upper : Bool)
  | octal
  | fixed
  | scientific (upper : Bool)
  | general (upper : Bool)
  | char
  | boolean (upper : Bool)
  | text (upper : Bool)
  deriving DecidableEq, Repr

namespace Conversion

/-- The letter of a conversion. -/
def letter : Conversion → Char
  | .decimal => 'd'
  | .hexadecimal upper => if upper then 'X' else 'x'
  | .octal => 'o'
  | .fixed => 'f'
  | .scientific upper => if upper then 'E' else 'e'
  | .general upper => if upper then 'G' else 'g'
  | .char => 'c'
  | .boolean upper => if upper then 'B' else 'b'
  | .text upper => if upper then 'S' else 's'

/-- Every conversion. -/
def all : List Conversion :=
  [.decimal, .hexadecimal false, .hexadecimal true, .octal, .fixed, .scientific false,
   .scientific true, .general false, .general true, .char, .boolean false, .boolean true,
   .text false, .text true]

/-- The conversion of a letter. -/
def ofLetter? (c : Char) : Option Conversion := all.find? fun k => k.letter = c

theorem ofLetter?_letter (k : Conversion) : ofLetter? k.letter = some k := by
  cases k <;> first | rfl | (rename_i upper; cases upper <;> rfl)

/-- Can the conversion format values of a kind? -/
def suits (k : Conversion) (kind : Kind) : Bool :=
  match k with
  | .decimal | .hexadecimal _ | .octal => kind.isInteger
  | .fixed | .scientific _ | .general _ => kind.isFloating
  | .char => kind = .char
  | .boolean _ => kind = .boolean
  | .text _ => true

end Conversion

/-- The flags of a conversion: `-`, `+`, a blank, `0` and `#`. -/
structure Flags where
  left : Bool
  plus : Bool
  space : Bool
  zero : Bool
  alternate : Bool
  deriving DecidableEq, Repr

/-- No flags. -/
def Flags.none : Flags := ⟨false, false, false, false, false⟩

/-- What stands between the percent sign of a conversion and its letter. -/
structure Spec where
  flags : Flags
  width : Option Nat
  precision : Option Nat
  deriving DecidableEq, Repr

/-- A part of a template: text that stands for itself, or a conversion. -/
inductive Piece
  | text (cs : List Char)
  | conversion (spec : Spec) (k : Conversion)
  deriving DecidableEq, Repr

/-- A template with its text. -/
structure WireFormat where
  source : String
  pieces : List Piece
  deriving DecidableEq, Repr

/-- What is wrong with a template, or with a value for it. -/
inductive WireFormatFault
  | unterminated (source : String)
  | unsupported (source : String) (letter : Char)
  | incompatible (letter : Char) (value : String)
  deriving DecidableEq, Repr

/-- The wording of a wire format fault. -/
def WireFormatFault.message : WireFormatFault → String
  | .unterminated s => "unterminated conversion in \"" ++ s ++ "\""
  | .unsupported s c =>
    "unsupported conversion '%" ++ String.ofList [c] ++ "' in \"" ++ s ++ "\""
  | .incompatible c v =>
    "conversion '%" ++ String.ofList [c] ++ "' cannot format a " ++ v ++ " value"

namespace WireFormat

/-- The first conversion of a template that does not suit a kind. -/
def unsuited? (f : WireFormat) (kind : Kind) : Option Conversion :=
  f.pieces.findSome? fun
    | .text _ => none
    | .conversion _ k => if k.suits kind then none else some k

/-- Checks that every conversion can format values of a kind. -/
def checkKind (f : WireFormat) (kind : Kind) : Except WireFormatFault Unit :=
  match f.unsuited? kind with
  | some k => .error (.incompatible k.letter kind.name)
  | none => .ok ()

end WireFormat

end Instrument
