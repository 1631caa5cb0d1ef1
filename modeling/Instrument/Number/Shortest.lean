/-
# Shortest decimals

The shortest decimal of a binary number is the one with the fewest digits among those that round to
the number, and of these the nearest to it.  The decimals that round to `m · 2^q` fill the interval
between the midpoints to its neighbours, ends included exactly when `m` is even.  Grids of 1, 2, …
digits are tried in turn, and on each only the two points next to the number need looking at: if any
point of a grid lies in the interval, so does one of those two.
-/
import Instrument.Number.Binary

namespace Instrument.Number

/-- The number `digits · 10^exponent`. -/
structure Decimal where
  digits : Nat
  exponent : Int
  deriving DecidableEq, Repr

/-- The integer `k` with `10^k ≤ num / den < 10^(k+1)`, for positive `num` and `den`. -/
def floorLog10 (num den : Nat) : Int :=
  if den ≤ num then (Digits.count (num / den) : Int) - 1
  else -(Digits.count ((den - 1) / num) : Int)

/-- A decimal without trailing zeros among its digits; `fuel` bounds how many are dropped. -/
def Decimal.stripZeros : Nat → Decimal → Decimal
  | 0, d => d
  | fuel + 1, d =>
    if d.digits ≠ 0 ∧ d.digits % 10 = 0 then stripZeros fuel ⟨d.digits / 10, d.exponent + 1⟩ else d

/-- The interval of reals that round to a number, in quarters of its last place: the number itself
is `centre`, the ends are `low` and `high`, and `closed` says whether the ends belong to it. -/
structure RoundingInterval where
  low : Nat
  centre : Nat
  high : Nat
  closed : Bool
  deriving Repr

/-- The interval of `m · 2^q`.  Below a power of two the neighbours are twice as dense. -/
def Binary.Layout.interval (l : Binary.Layout) (m : Nat) (q : Int) : RoundingInterval :=
  let gap := if m = Nat.pow 2 l.fraction ∧ l.leastExponent < q then 1 else 2
  ⟨4 * m - gap, 4 * m, 4 * m + 2, m % 2 = 0⟩

/-- Which of two decimals is taken when the number lies half way between them. -/
inductive Tie
  | up
  | even
  deriving DecidableEq, Repr

/-- Is the lower of two neighbours nearer?  `twice` is twice the distance of the number from zero,
`both` the sum of those of its neighbours. -/
def Tie.lowIsNearer (t : Tie) (below twice both : Nat) : Bool :=
  twice < both || (twice = both && t = .even && below % 2 = 0)

/-- The point of the grid of multiples of `10^g` that is nearest to the centre and lies in the
interval, whose quarters are worth `2^(q-2)`; `none` if neither neighbour lies in it. -/
def RoundingInterval.onGrid? (i : RoundingInterval) (tie : Tie) (q g : Int) : Option Nat :=
  let (a, b) := scale 2 (q - 2) 1 1
  let (a, b) := scale 10 (-g) a b
  let below := i.centre * a / b
  let above := below + 1
  let lowOk := below ≠ 0 && (if i.closed then i.low * a ≤ below * b else i.low * a < below * b)
  let highOk := if i.closed then above * b ≤ i.high * a else above * b < i.high * a
  let nearLow := tie.lowIsNearer below (2 * (i.centre * a)) ((below + above) * b)
  if lowOk && (nearLow || !highOk) then some below
  else if highOk then some above
  else none

/-- The most digits that the shortest decimal of a `binary64` number can need. -/
def mostDigits : Nat := 17

/-- The shortest decimal that rounds to the positive number `m · 2^q` of format `l`. -/
def Binary.Layout.shortest (l : Binary.Layout) (tie : Tie) (m : Nat) (q : Int) : Decimal :=
  let i := l.interval m q
  let (num, den) := scale 2 q m 1
  let k := floorLog10 num den
  let found := (List.range mostDigits).findSome? fun (n : Nat) =>
    (i.onGrid? tie q (k - n)).map fun d => Decimal.stripZeros mostDigits ⟨d, k - n⟩
  found.getD ⟨m, 0⟩

/-- A decimal without an exponent: zeros stand for the places that its digits do not reach. -/
def Decimal.positional (d : Decimal) : List Char :=
  let ds := Digits.text d.digits
  if 0 ≤ d.exponent then ds ++ List.replicate d.exponent.toNat '0'
  else
    let places := (-d.exponent).toNat
    let ds := Digits.padZeros (places + 1) ds
    ds.take (ds.length - places) ++ '.' :: ds.drop (ds.length - places)

/-- A minus sign if `negative`. -/
def minus (negative : Bool) (cs : List Char) : List Char := if negative then '-' :: cs else cs

/-- The text of a datum: the shortest decimal without exponent, the upper one of two equally near,
without a point for a whole number, with the sign of zero kept. -/
def Binary.Layout.display (l : Binary.Layout) : Binary.Datum → List Char
  | .nan => "NaN".toList
  | .infinite negative => minus negative "inf".toList
  | .finite negative m q =>
    minus negative (if m = 0 then ['0'] else (l.shortest .up m q).positional)

/-- The text of a `binary64` number. -/
def displayFloat (x : Float) : List Char := Binary.double.display (floatDatum x)

/-- The text of a `binary32` number. -/
def displayFloat32 (x : Float32) : List Char := Binary.single.display (float32Datum x)

end Instrument.Number
