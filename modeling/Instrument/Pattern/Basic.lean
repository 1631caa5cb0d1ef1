/-
# Patterns

A pattern describes pieces of a text and marks groups within them.  Repetitions of every kind are made
of two: `plus`, once or more often, and the choice between a pattern and nothing.
-/
import Instrument.Pattern.CharSet

namespace Instrument

namespace Pattern

/-- Where a word begins or ends. -/
inductive WordEdge
  | edge
  | inside
  | opening
  | closing
  | halfOpening
  | halfClosing
  deriving DecidableEq, Repr

/-- What a pattern may ask of a place between two characters. -/
inductive Look
  | textStart
  | textEnd
  | lineStart
  | lineEnd
  /-- The start of a line where a carriage return, a line feed or both end one. -/
  | mixedLineStart
  | mixedLineEnd
  | word (e : WordEdge) (ascii : Bool)
  deriving DecidableEq, Repr

/-- Is the character at one side of a place a word character? -/
def isWordAt (ascii : Bool) (c : Option Char) : Bool :=
  c.any fun c => if ascii then CharSet.asciiWord.has c else Text.isWordChar c

/-- Does a word begin, end or neither between two characters? -/
def WordEdge.holds (before after : Bool) : WordEdge → Bool
  | .edge => before != after
  | .inside => before == after
  | .opening => !before && after
  | .closing => before && !after
  | .halfOpening => !before
  | .halfClosing => !after

/-- Does a place between two characters have what is asked of it?  There is none before the text and
none after it. -/
def Look.holds (before after : Option Char) : Look → Bool
  | .textStart => before.isNone
  | .textEnd => after.isNone
  | .lineStart => before.all (· = '\n')
  | .lineEnd => after.all (· = '\n')
  | .mixedLineStart =>
    before.all fun b => b = '\n' || (b = '\r' && after ≠ some '\n')
  | .mixedLineEnd =>
    after.all fun a => a = '\r' || (a = '\n' && before ≠ some '\r')
  | .word e ascii => e.holds (isWordAt ascii before) (isWordAt ascii after)

end Pattern

/-- A pattern.  A greedy repetition goes on as long as it can, another stops as soon as it can. -/
inductive Pattern
  | empty
  | char (s : Pattern.CharSet)
  | look (l : Pattern.Look)
  | seq (a b : Pattern)
  | alt (a b : Pattern)
  | plus (a : Pattern) (greedy : Bool)
  | group (index : Nat) (a : Pattern)
  deriving Inhabited, Repr

namespace Pattern

/-- The greatest index of a group; zero when there is none. -/
def groupCount : Pattern → Nat
  | .empty | .char _ | .look _ => 0
  | .seq a b | .alt a b => max a.groupCount b.groupCount
  | .plus a _ => a.groupCount
  | .group i a => max i a.groupCount

/-- Can the pattern only match the empty text? -/
def isBlankOnly : Pattern → Bool
  | .empty | .look _ => true
  | .char _ => false
  | .seq a b | .alt a b => a.isBlankOnly && b.isBlankOnly
  | .plus a _ | .group _ a => a.isBlankOnly

/-- The sequence of a list of patterns. -/
def seqs : List Pattern → Pattern
  | [] => .empty
  | [a] => a
  | a :: rest => .seq a (seqs rest)

/-- The choice between the patterns of a list, the earlier ones first. -/
def alts : List Pattern → Pattern
  | [] => .empty
  | [a] => a
  | a :: rest => .alt a (alts rest)

/-- A pattern or nothing. -/
def option (a : Pattern) (greedy : Bool) : Pattern := if greedy then .alt a .empty else .alt .empty a

/-- At most `n` times. -/
def upTo (a : Pattern) (greedy : Bool) : Nat → Pattern
  | 0 => .empty
  | 1 => option a greedy
  | n + 1 => option (.seq a (upTo a greedy n)) greedy

/-- Exactly `n` times. -/
def times (a : Pattern) : Nat → Pattern
  | 0 => .empty
  | 1 => a
  | n + 1 => .seq a (times a n)

/-- At least `n` times. -/
def atLeast (a : Pattern) (greedy : Bool) : Nat → Pattern
  | 0 => option (.plus a greedy) greedy
  | 1 => .plus a greedy
  | n + 1 => .seq a (atLeast a greedy n)

/-- From `low` to `high` times, or without an upper bound. -/
def between (a : Pattern) (greedy : Bool) (low : Nat) : Option Nat → Pattern
  | none => atLeast a greedy low
  | some high => if high ≤ low then times a low else .seq (times a low) (upTo a greedy (high - low))

/-- A repetition.  What can only match the empty text is not repeated. -/
def repetition (a : Pattern) (greedy : Bool) (low : Nat) (high : Option Nat) : Pattern :=
  if a.isBlankOnly then between a greedy (min low 1) (some (min (high.getD 1) 1))
  else between a greedy low high

end Pattern

end Instrument
