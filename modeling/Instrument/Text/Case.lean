/-
# Letter case

Upper case by Unicode's full mapping, where one character may become several, and simple case
folding, where each stays one.  Characters are equal without regard to case when they fold to the
same character; `caseVariants` lists all that fold as a given one does.
-/
import Instrument.Text.UppercaseTable
import Instrument.Text.FoldingTable

namespace Instrument.Text

/-- Is `n` in the run `first`, `first + step`, …, `last`? -/
def inRun (n : Nat) : Nat × Nat × Nat × Int → Bool
  | (first, last, step, _) => first ≤ n && n ≤ last && (n - first) % step = 0

/-- The distance that a list of runs gives for `n`; zero outside of all of them. -/
def distance (runs : List (Nat × Nat × Nat × Int)) (n : Nat) : Int :=
  match runs.find? (inRun n) with
  | some (_, _, _, d) => d
  | none => 0

/-- A code point at a distance from `n`. -/
def shifted (n : Nat) (d : Int) : Nat := (n + d).toNat

/-- The upper case form of a character. -/
def upperChar (c : Char) : List Char :=
  match upperSpecial.lookup c.toNat with
  | some form => form.map Char.ofNat
  | none => [Char.ofNat (shifted c.toNat (distance upperRuns c.toNat))]

/-- The upper case form of a text. -/
def upper (cs : List Char) : List Char := cs.flatMap upperChar

/-- The simple case folding of a code point. -/
def fold (n : Nat) : Nat := shifted n (distance foldRuns n)

/-- The code points of a list of runs that lie at their distance from `n`. -/
def sources (runs : List (Nat × Nat × Nat × Int)) (n : Nat) : List Nat :=
  runs.filterMap fun (first, last, step, d) =>
    let m := shifted n (-d)
    if shifted m d = n && inRun m (first, last, step, d) then some m else none

/-- All characters that fold to what `c` folds to. -/
def caseVariants (c : Char) : List Char :=
  let target := fold c.toNat
  (target :: sources foldRuns target).map Char.ofNat

/-- `cs` with the letters `A` to `Z` in lower case. -/
def lowerAscii (cs : List Char) : List Char := cs.map Char.toLower

/-- Are two texts equal but for the case of the letters `A` to `Z`? -/
def eqIgnoreAsciiCase (a b : List Char) : Bool := lowerAscii a = lowerAscii b

end Instrument.Text
