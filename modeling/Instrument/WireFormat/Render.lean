/-
# Applying wire formats

`WireFormat.apply` formats a value with a template.  Numbers have a sign, an optional base mark and a
body, and are filled up to the width with zeros after the mark or with blanks outside; other values
are cut to the precision and filled with blanks.  Hexadecimal and octal digits are those of the two's
complement word of the integer.
-/
import Instrument.WireFormat.Parser
import Instrument.Number.Places
import Instrument.Text.Case

namespace Instrument.WireFormat

open Number

/-- A text filled with blanks to the width, on the right if the flag `-` is set. -/
def fill (s : Spec) (cs : List Char) : List Char :=
  let blanks := List.replicate (s.width.getD 0 - cs.length) ' '
  if s.flags.left then cs ++ blanks else blanks ++ cs

/-- The first characters of a text, as many as the precision says. -/
def cut (s : Spec) (cs : List Char) : List Char :=
  match s.precision with
  | some n => cs.take n
  | none => cs

/-- The sign of a number under flags. -/
def sign (f : Flags) (negative : Bool) : List Char :=
  if negative then ['-'] else if f.plus then ['+'] else if f.space then [' '] else []

/-- A number of sign, base mark and body, filled to the width. -/
def number (s : Spec) (negative : Bool) (mark body : List Char) : List Char :=
  let sign := sign s.flags negative
  if s.flags.zero && !s.flags.left then
    let length := sign.length + mark.length + body.length
    sign ++ mark ++ List.replicate (s.width.getD 0 - length) '0' ++ body
  else fill s (sign ++ mark ++ body)

/-- The two's complement word of an integer value. -/
def word? : Value → Option Nat
  | .byte n => some n.toUInt8.toNat
  | .int n => some n.toUInt32.toNat
  | .long n => some n.toUInt64.toNat
  | _ => none

/-- The datum of a floating point value. -/
def datum? : Value → Option Binary.Datum
  | .float x => some (float32Datum x)
  | .double x => some (floatDatum x)
  | _ => none

/-- Hexadecimal digits. -/
def hexDigits (upper : Bool) (n : Nat) : List Char :=
  let ds := Nat.toDigits 16 n
  if upper then ds.map Char.toUpper else ds

/-- A number in scientific notation: the exponent has a sign and two digits at least. -/
def exponential (upper : Bool) (places : Nat) (x : Scientific) : List Char :=
  withPlaces places x.digits ++ (if upper then 'E' else 'e') ::
    (if x.exponent < 0 then '-' else '+') :: Digits.padded 2 x.exponent.natAbs

/-- Fixed notation while the number rounded to `places + 1` digits lies from `10^-4` up to below
`10^(places + 1)`, scientific notation outside. -/
def general (upper : Bool) (places num den : Nat) : List Char :=
  if num = 0 then fixed places num den
  else
    let x := scientific places num den
    if -4 ≤ x.exponent ∧ x.exponent < (places : Int) + 1 then
      fixed ((places : Int) - x.exponent).toNat num den
    else exponential upper places x

/-- How many places a floating point conversion writes when no precision is given. -/
def defaultPrecision : Nat := 6

/-- The body of a floating point number `num / den`. -/
def realBody (s : Spec) (k : Conversion) (num den : Nat) : List Char :=
  let precision := s.precision.getD defaultPrecision
  match k with
  | .scientific upper => exponential upper precision (scientific precision num den)
  | .general upper => general upper (max precision 1 - 1) num den
  | _ => fixed precision num den

/-- A floating point number.  Zero and what is no number have no minus sign. -/
def real (s : Spec) (k : Conversion) : Binary.Datum → List Char
  | .nan => number s false [] "NaN".toList
  | .infinite negative => number s negative [] "Infinity".toList
  | .finite negative m q =>
    let (num, den) := scale 2 q m 1
    number s (negative && m ≠ 0) [] (realBody s k num den)

/-- A boolean as a word. -/
def boolWord (b : Bool) : List Char := (if b then "true" else "false").toList

/-- A value under a conversion; `none` if it is of another type. -/
def convert? (s : Spec) (k : Conversion) (v : Value) : Option (List Char) :=
  match k with
  | .decimal => v.asInt?.map fun n => number s (n < 0) [] (Digits.text n.natAbs)
  | .hexadecimal upper => (word? v).map fun n =>
      let mark := if s.flags.alternate then ['0', if upper then 'X' else 'x'] else []
      number s false mark (hexDigits upper n)
  | .octal => (word? v).map fun n =>
      number s false (if s.flags.alternate then ['0'] else []) (Nat.toDigits 8 n)
  | .fixed | .scientific _ | .general _ => (datum? v).map (real s k)
  | .char => v.asChar?.map fun c => fill s [c]
  | .boolean upper => v.asBool?.map fun b =>
      let word := boolWord b
      fill s (cut s (if upper then word.map Char.toUpper else word))
  | .text upper =>
    let shown := cut s v.display.toList
    some (fill s (if upper then Text.upper shown else shown))

/-- A piece of a template under a value. -/
def applyPiece (v : Value) : Piece → Except WireFormatFault (List Char)
  | .text cs => .ok cs
  | .conversion s k =>
    match convert? s k v with
    | some cs => .ok cs
    | none => .error (.incompatible k.letter v.typeName)

/-- Pieces under a value; the first that does not suit it is the fault. -/
def applyPieces (v : Value) : List Piece → Except WireFormatFault (List Char)
  | [] => .ok []
  | p :: rest =>
    match applyPiece v p with
    | .error e => .error e
    | .ok cs => (applyPieces v rest).map (cs ++ ·)

/-- Formats a value. -/
def apply (f : WireFormat) (v : Value) : Except WireFormatFault String :=
  (applyPieces v f.pieces).map String.ofList

end Instrument.WireFormat
