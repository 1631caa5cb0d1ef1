/-
# Decimal digits

Natural numbers as runs of ASCII digits: `Digits.text` writes one, `Digits.value` reads a run back,
and `Digits.count` says how long the run is without writing it.
-/

namespace Instrument.Number.Digits

/-- Is `c` one of `0` to `9`? -/
def isDigit (c : Char) : Bool := '0' ≤ c && c ≤ '9'

/-- The value of an ASCII digit. -/
def digit? (c : Char) : Option Nat :=
  if isDigit c then some (c.toNat - '0'.toNat) else none

/-- The digits of `n` in base ten, most significant first, without leading zeros. -/
def text (n : Nat) : List Char := Nat.toDigits 10 n

/-- The number that a run of digits denotes; characters that are not digits count as zero. -/
def value (cs : List Char) : Nat :=
  cs.foldl (fun n c => 10 * n + (digit? c).getD 0) 0

/-- How many digits `n` has; zero has none. -/
def count (n : Nat) : Nat := if n = 0 then 0 else (text n).length

/-- `cs` with zeros in front, up to `width` characters. -/
def padZeros (width : Nat) (cs : List Char) : List Char :=
  List.replicate (width - cs.length) '0' ++ cs

/-- The digits of `n`, at least `width` of them. -/
def padded (width n : Nat) : List Char := padZeros width (text n)

/-- The leading run of digits and what follows it. -/
def span (cs : List Char) : List Char × List Char := (cs.takeWhile isDigit, cs.dropWhile isDigit)

theorem span_append (cs : List Char) : (span cs).1 ++ (span cs).2 = cs :=
  List.takeWhile_append_dropWhile

theorem length_padded (width n : Nat) : width ≤ (padded width n).length := by
  simp [padded, padZeros]; omega

end Instrument.Number.Digits
