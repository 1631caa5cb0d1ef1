/-
# Numbers to a given count of places

`fixed` writes `num / den` with a given count of decimal places and `scientific` with a given count
of places after the first digit and a power of ten.  Both round the exact quotient, a half to the
even neighbour.
-/
import Instrument.Number.Shortest

namespace Instrument.Number

/-- `n · 10^(-places)` with all its places written. -/
def withPlaces (places n : Nat) : List Char :=
  if places = 0 then Digits.text n
  else
    let ds := Digits.padded (places + 1) n
    ds.take (ds.length - places) ++ '.' :: ds.drop (ds.length - places)

/-- `num / den` to `places` decimal places. -/
def fixed (places num den : Nat) : List Char :=
  withPlaces places (roundHalfEven (num * Nat.pow 10 places) den)

/-- A first digit with `places` more, as one natural, and the power of ten of the first. -/
structure Scientific where
  digits : Nat
  exponent : Int
  deriving DecidableEq, Repr

/-- `num / den` to `places` places after its first digit; zero has exponent zero. -/
def scientific (places num den : Nat) : Scientific :=
  if num = 0 then ⟨0, 0⟩
  else
    let k := floorLog10 num den
    let (a, b) := scale 10 (places - k) num den
    let n := roundHalfEven a b
    if n = Nat.pow 10 (places + 1) then ⟨Nat.pow 10 places, k + 1⟩ else ⟨n, k⟩

end Instrument.Number
