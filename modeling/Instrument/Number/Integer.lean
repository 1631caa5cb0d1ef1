/-
# Bounded integers as text

An integer in text is an optional sign and a run of ASCII digits, with no blanks.  A minus sign is
admitted only where the bounds admit a negative number.  Reading goes digit by digit and stops at
the first fault, so of an overlong number with a stray character the fault met first is reported.
-/
import Instrument.Number.Digits

namespace Instrument.Number

/-- Why a text is no integer within the bounds asked for. -/
inductive IntegerFault
  | empty
  | invalidDigit
  | tooLarge
  | tooSmall
  deriving DecidableEq, Repr

/-- The wording of an integer fault. -/
def IntegerFault.message : IntegerFault → String
  | .empty => "cannot parse integer from empty string"
  | .invalidDigit => "invalid digit found in string"
  | .tooLarge => "number too large to fit in target type"
  | .tooSmall => "number too small to fit in target type"

/-- The least and the greatest integer of a type. -/
structure Bounds where
  least : Int
  greatest : Int
  deriving DecidableEq, Repr

namespace Bounds

/-- Two's complement integers of `bits` bits. -/
def signed (bits : Nat) : Bounds := ⟨-Nat.pow 2 (bits - 1), Nat.pow 2 (bits - 1) - 1⟩

/-- Unsigned integers of `bits` bits. -/
def unsigned (bits : Nat) : Bounds := ⟨0, Nat.pow 2 bits - 1⟩

/-- Is `n` within the bounds? -/
def has (b : Bounds) (n : Int) : Bool := b.least ≤ n && n ≤ b.greatest

end Bounds

/-- The number with one more digit at its end, away from zero. -/
def appendDigit (negative : Bool) (acc : Int) (d : Nat) : Int :=
  if negative then acc * 10 - d else acc * 10 + d

/-- Reads the digits after the sign onto `acc`, downwards for a negative number. -/
def readDigits (b : Bounds) (negative : Bool) : Int → List Char → Except IntegerFault Int
  | acc, [] => .ok acc
  | acc, c :: rest =>
    match Digits.digit? c with
    | none => .error .invalidDigit
    | some d =>
      if b.greatest < appendDigit negative acc d then .error .tooLarge
      else if appendDigit negative acc d < b.least then .error .tooSmall
      else readDigits b negative (appendDigit negative acc d) rest

/-- Reads an integer within bounds. -/
def readInteger (b : Bounds) : List Char → Except IntegerFault Int
  | [] => .error .empty
  | ['+'] => .error .invalidDigit
  | ['-'] => .error .invalidDigit
  | '+' :: rest => readDigits b false 0 rest
  | '-' :: rest =>
    if b.least < 0 then readDigits b true 0 rest else .error .invalidDigit
  | cs => readDigits b false 0 cs

/-- The text of an integer: a minus sign if it is negative, then its digits. -/
def writeInteger (n : Int) : List Char :=
  if n < 0 then '-' :: Digits.text n.natAbs else Digits.text n.natAbs

/-- What is read lies within the bounds. -/
theorem readDigits_has {b : Bounds} {negative : Bool} {acc n : Int} {cs : List Char}
    (hacc : b.has acc = true) (h : readDigits b negative acc cs = .ok n) : b.has n = true := by
  induction cs generalizing acc with
  | nil => simp [readDigits] at h; exact h ▸ hacc
  | cons c rest ih =>
    simp only [readDigits] at h
    split at h
    · cases h
    · split at h
      · cases h
      · split at h
        · cases h
        · rename_i hgreatest hleast
          refine ih ?_ h
          simp only [Bounds.has, Bool.and_eq_true, decide_eq_true_eq]
          omega

theorem readInteger_has {b : Bounds} {n : Int} {cs : List Char}
    (hzero : b.has 0 = true) (h : readInteger b cs = .ok n) : b.has n = true := by
  unfold readInteger at h
  split at h
  · cases h
  · cases h
  · cases h
  · exact readDigits_has hzero h
  · split at h
    · exact readDigits_has hzero h
    · cases h
  · exact readDigits_has hzero h

end Instrument.Number
