/-
# Numerals for real numbers

A numeral is an optional sign followed by `inf`, `infinity` or `nan` in any case, or by decimal
digits with at most one point among them and an optional exponent; there is at least one digit
beside the point and one in the exponent.  `Numeral.read?` accepts exactly these, and `Numeral.word`
gives the nearest datum of a binary format.
-/
import Instrument.Number.Binary

namespace Instrument.Number

/-- What a numeral denotes. -/
inductive Numeral
  | nan (negative : Bool)
  | infinite (negative : Bool)
  /-- The number `m · 10^e` with its sign. -/
  | finite (negative : Bool) (m : Nat) (e : Int)
  deriving DecidableEq, Repr

namespace Numeral

/-- `c` as a lower case letter, for the letters `A` to `Z` only. -/
def lowerAscii (c : Char) : Char := c.toLower

/-- An optional sign and what follows it. -/
def readSign : List Char → Bool × List Char
  | '+' :: rest => (false, rest)
  | '-' :: rest => (true, rest)
  | cs => (false, cs)

/-- An exponent to the end of the text: nothing, or `e`, an optional sign and digits. -/
def readExponent? : List Char → Option Int
  | [] => some 0
  | c :: rest =>
    if c = 'e' || c = 'E' then
      let (negative, digits) := readSign rest
      if digits.isEmpty || !digits.all Digits.isDigit then none
      else if negative then some (-(Digits.value digits : Int)) else some (Digits.value digits)
    else none

/-- Digits, a point and digits, with a digit on one side of the point at least, then an exponent. -/
def readMagnitude? (cs : List Char) : Option (Nat × Int) :=
  let (whole, rest) := Digits.span cs
  let (places, rest) := match rest with
    | '.' :: more => Digits.span more
    | rest => ([], rest)
  if whole.isEmpty && places.isEmpty then none
  else (readExponent? rest).map fun e => (Digits.value (whole ++ places), e - places.length)

/-- Reads a numeral; `none` for any other text. -/
def read? (cs : List Char) : Option Numeral :=
  let (negative, rest) := readSign cs
  let word := rest.map lowerAscii
  if word = "inf".toList || word = "infinity".toList then some (.infinite negative)
  else if word = "nan".toList then some (.nan negative)
  else (readMagnitude? rest).map fun (m, e) => .finite negative m e

/-- The word of the datum of format `l` nearest to the numeral.  A number whose leading digit lies
past every finite datum, or below every datum but zero, is settled without raising ten to its
exponent. -/
def word (l : Binary.Layout) : Numeral → Nat
  | .nan _ => l.nanWord
  | .infinite negative => l.signWord negative + l.infinityWord
  | .finite negative m e =>
    let limit : Int := Nat.pow 2 l.exponent + l.fraction
    let top : Int := e + Digits.count m
    l.signWord negative +
      if m = 0 ∨ top < -limit then 0
      else if limit < top then l.infinityWord
      else
        let (num, den) := scale 10 e m 1
        l.nearest num den

end Numeral

/-- Reads a `binary64` number. -/
def readFloat? (cs : List Char) : Option Float :=
  (Numeral.read? cs).map fun n => floatOfWord (n.word Binary.double)

/-- Reads a `binary32` number. -/
def readFloat32? (cs : List Char) : Option Float32 :=
  (Numeral.read? cs).map fun n => float32OfWord (n.word Binary.single)

end Instrument.Number
