/-
# Binary floating point

The interchange formats `binary32` and `binary64` as words: `decode` takes a word to the datum it
stands for, a sign with `m · 2^q` or one of the values that are no number, and `nearest` takes a
quotient of naturals to the word of the datum nearest to it, the even one of two that are equally
near.  All of it is arithmetic on naturals, so nothing is rounded on the way.
-/
import Instrument.Number.Digits

namespace Instrument.Number

/-- The quotient `num / den`, rounded to the nearest natural; a half goes to the even neighbour. -/
def roundHalfEven (num den : Nat) : Nat :=
  let q := num / den
  let r := num % den
  if 2 * r < den then q
  else if den < 2 * r then q + 1
  else if q % 2 = 0 then q else q + 1

/-- The numerator and denominator of `num / den · base^e`. -/
def scale (base : Nat) (e : Int) (num den : Nat) : Nat × Nat :=
  if 0 ≤ e then (num * Nat.pow base e.toNat, den) else (num, den * Nat.pow base (-e).toNat)

namespace Binary

/-- A binary interchange format: the widths of its fraction field and of its exponent field. -/
structure Layout where
  fraction : Nat
  exponent : Nat
  deriving DecidableEq, Repr

/-- `binary32`. -/
def single : Layout := ⟨23, 8⟩

/-- `binary64`. -/
def double : Layout := ⟨52, 11⟩

/-- What a word stands for. -/
inductive Datum
  | nan
  | infinite (negative : Bool)
  /-- The number `m · 2^q` with its sign; zero has a sign too. -/
  | finite (negative : Bool) (m : Nat) (q : Int)
  deriving DecidableEq, Repr

/-- The power of two of the last place of the subnormal numbers. -/
def Layout.leastExponent (l : Layout) : Int := 2 - Nat.pow 2 (l.exponent - 1) - l.fraction

/-- The word of positive infinity: all exponent bits and no fraction. -/
def Layout.infinityWord (l : Layout) : Nat := (Nat.pow 2 l.exponent - 1) * Nat.pow 2 l.fraction

/-- The sign bit as a summand of a word. -/
def Layout.signWord (l : Layout) (negative : Bool) : Nat :=
  if negative then Nat.pow 2 (l.fraction + l.exponent) else 0

/-- The word that stands for no number. -/
def Layout.nanWord (l : Layout) : Nat := l.infinityWord + Nat.pow 2 (l.fraction - 1)

/-- The datum of a word. -/
def Layout.decode (l : Layout) (word : Nat) : Datum :=
  let f := word % Nat.pow 2 l.fraction
  let e := word / Nat.pow 2 l.fraction % Nat.pow 2 l.exponent
  let negative := word / Nat.pow 2 (l.fraction + l.exponent) % 2 = 1
  if e = Nat.pow 2 l.exponent - 1 then
    if f = 0 then .infinite negative else .nan
  else if e = 0 then .finite negative f l.leastExponent
  else .finite negative (Nat.pow 2 l.fraction + f) (l.leastExponent + e - 1)

/-- The integer `k` with `2^k ≤ num / den < 2^(k+1)`, for positive `num` and `den`. -/
def floorLog2 (num den : Nat) : Int :=
  let k : Int := (Nat.log2 num : Int) - Nat.log2 den
  let (a, b) := scale 2 (-k) num den
  if a < b then k - 1 else k

/-- The word of the non-negative datum nearest to `num / den`; a tie goes to the even word, and what
rounds past the largest finite number is infinite. -/
def Layout.nearest (l : Layout) (num den : Nat) : Nat :=
  if num = 0 then 0
  else
    let q := max (floorLog2 num den - l.fraction) l.leastExponent
    let (a, b) := scale 2 (-q) num den
    min ((q - l.leastExponent).toNat * Nat.pow 2 l.fraction + roundHalfEven a b) l.infinityWord

end Binary

/-- The datum of a `binary64` number. -/
def floatDatum (x : Float) : Binary.Datum := Binary.double.decode x.toBits.toNat

/-- The datum of a `binary32` number. -/
def float32Datum (x : Float32) : Binary.Datum := Binary.single.decode x.toBits.toNat

/-- The `binary64` number of a word. -/
def floatOfWord (w : Nat) : Float := Float.ofBits w.toUInt64

/-- The `binary32` number of a word. -/
def float32OfWord (w : Nat) : Float32 := Float32.ofBits w.toUInt32

/-- The `binary64` number nearest to an integer. -/
def nearestFloat (n : Int) : Float :=
  floatOfWord (Binary.double.signWord (n < 0) + Binary.double.nearest n.natAbs 1)

end Instrument.Number
