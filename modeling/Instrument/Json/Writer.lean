/-
# Writing JSON

`Json.compact` writes a value without blanks, `Json.pretty` over lines with two blanks per level.
A real number has the shortest digits that read back, the even ones of two equally near.  With its leading digit worth `10^k` it is
positional for `k` from -5 to 15, with a `.0` where there are no places, and else has an exponent
with its sign.  What is no number is written `null`.
-/
import Instrument.Json.Basic

namespace Instrument.Json

open Number

/-- The decimal exponents that are written positionally. -/
def isPositional (k : Int) : Bool := -5 ≤ k && k ≤ 15

/-- A positive decimal in the form described above. -/
def writeDecimal (d : Decimal) : List Char :=
  let ds := Digits.text d.digits
  let k := d.exponent + ds.length - 1
  if isPositional k then
    if 0 ≤ d.exponent then d.positional ++ ".0".toList else d.positional
  else
    let exponent := (if k < 0 then '-' else '+') :: Digits.text k.natAbs
    ds.take 1 ++ (if ds.length = 1 then [] else '.' :: ds.drop 1) ++ 'e' :: exponent

/-- The text of a real number of a binary format. -/
def writeDatum (l : Binary.Layout) : Binary.Datum → List Char
  | .nan => "null".toList
  | .infinite _ => "null".toList
  | .finite negative m q =>
    minus negative (if m = 0 then "0.0".toList else writeDecimal (l.shortest .even m q))

/-- The hexadecimal digits of a control character. -/
def hexDigit (n : Nat) : Char := (Nat.toDigits 16 n).getLastD '0'

/-- A character within a text. -/
def escapeChar (c : Char) : List Char :=
  if c = '"' then ['\\', '"']
  else if c = '\\' then ['\\', '\\']
  else if c = '\n' then ['\\', 'n']
  else if c = '\r' then ['\\', 'r']
  else if c = '\t' then ['\\', 't']
  else if c = '\x08' then ['\\', 'b']
  else if c = '\x0c' then ['\\', 'f']
  else if c.toNat < 0x20 then
    ['\\', 'u', '0', '0', hexDigit (c.toNat / 16), hexDigit (c.toNat % 16)]
  else [c]

/-- A text in quotation marks. -/
def writeText (s : String) : List Char := '"' :: s.toList.flatMap escapeChar ++ ['"']

/-- What separates the parts of a value: nothing in the compact form, a line break and two blanks per
level in the pretty one. -/
structure Spacing where
  newline : Nat → List Char
  colon : List Char

/-- Compact spacing. -/
def Spacing.compact : Spacing := ⟨fun _ => [], [':']⟩

/-- Spacing over lines. -/
def Spacing.lines : Spacing :=
  ⟨fun level => '\n' :: List.replicate (2 * level) ' ', [':', ' ']⟩

/-- The parts of an array or object between its brackets. -/
def enclose (sp : Spacing) (level : Nat) (opening closing : Char) (parts : List (List Char)) :
    List Char :=
  if parts.isEmpty then [opening, closing]
  else
    opening :: List.intercalate [','] (parts.map (sp.newline (level + 1) ++ ·)) ++
      sp.newline level ++ [closing]

mutual

/-- A value at a level of nesting. -/
def writeAt (sp : Spacing) (level : Nat) : Json → List Char
  | .null => "null".toList
  | .bool true => "true".toList
  | .bool false => "false".toList
  | .integer n => minus (n < 0) (Digits.text n.natAbs)
  | .real x => writeDatum Binary.double (floatDatum x)
  | .single x => writeDatum Binary.single (float32Datum x)
  | .text s => writeText s
  | .array items => enclose sp level '[' ']' (writeItems sp (level + 1) items)
  | .object members => enclose sp level '\x7b' '\x7d' (writeMembers sp (level + 1) members)

/-- The items of an array. -/
def writeItems (sp : Spacing) (level : Nat) : List Json → List (List Char)
  | [] => []
  | v :: rest => writeAt sp level v :: writeItems sp level rest

/-- The members of an object. -/
def writeMembers (sp : Spacing) (level : Nat) : List (String × Json) → List (List Char)
  | [] => []
  | (name, v) :: rest =>
    (writeText name ++ sp.colon ++ writeAt sp level v) :: writeMembers sp level rest

end

/-- A value without blanks. -/
def compact (v : Json) : String := String.ofList (writeAt Spacing.compact 0 v)

/-- A value over lines. -/
def pretty (v : Json) : String := String.ofList (writeAt Spacing.lines 0 v)

end Instrument.Json
